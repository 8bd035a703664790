import Harvest.Proofs.Store.Frame

/-!
# Stores that agree

An operation on a path looks at the locations along the path and at no others (`trail`), and what it
changes is at one of them.  So if two stores agree at these locations (`Agree`), it has the same
result in both: `contains_congr` and `readText_congr` say so of looking, and `change_agree` and
`makeFolders_agree` of changing, where both stores agree again behind the change.
-/

namespace Harvest.Store

/-! ### The locations along a path -/

/-- The locations along names from a location, itself included, as far as the names lead. -/
def along (l : Location) : List String → List Location
  | [] => [l]
  | name :: names =>
    l :: match step l name with
      | .error _ => []
      | .ok l => along l names

/-- The locations along a path in a working folder. -/
def trail (here : Location) (p : FilePath) : List Location :=
  along (if p.absolute then [] else here) p.names

theorem mem_along_self (l : Location) (names : List String) : l ∈ along l names := by
  cases names <;> simp [along]

theorem along_dropLast_subset (l : Location) (names : List String) :
    along l names.dropLast ⊆ along l names := by
  induction names generalizing l with
  | nil => exact List.Subset.refl _
  | cons name names ih =>
    cases names with
    | nil => simp [along]
    | cons next names =>
      rw [List.dropLast_cons_cons, along, along]
      refine List.cons_subset_cons l ?_
      cases step l name with
      | error _ => exact List.Subset.refl _
      | ok l' => exact ih l'

theorem trail_parent_subset (here : Location) (p : FilePath) :
    trail here p.parent ⊆ trail here p :=
  along_dropLast_subset _ p.names

/-- Names that can be followed lead along the way to its end. -/
theorem mem_along_of_follow {s : Store} {l l' : Location} {names : List String}
    (h : s.follow l names = .ok l') : l' ∈ along l names := by
  induction names generalizing l with
  | nil =>
    cases h
    exact mem_along_self _ _
  | cons name names ih =>
    rw [follow] at h
    rw [along]
    refine List.mem_cons_of_mem l ?_
    cases hstep : step l name with
    | error _ =>
      rw [hstep] at h
      split at h <;> cases h
    | ok l₁ =>
      rw [hstep] at h
      split at h
      · cases h
      · exact ih h

/-! ### Agreement -/

/-- Two stores have this working folder, and what is at the locations of a set is the same in
both. -/
structure Agree (here : Location) (L : Location → Prop) (s t : Store) : Prop where
  here_left : s.here = here
  here_right : t.here = here
  get?_eq : ∀ l, L l → s.get? l = t.get? l

/-- A set of locations has all those along a path. -/
def Covers (here : Location) (L : Location → Prop) (p : FilePath) : Prop :=
  ∀ l ∈ trail here p, L l

/-- Two stores have the same working folder, and what is along a path is the same in both. -/
def AgreeAlong (s t : Store) (p : FilePath) : Prop :=
  Agree s.here (· ∈ trail s.here p) s t

/-- Two results are the same failure, or two stores that agree. -/
inductive AgreeOk (here : Location) (L : Location → Prop) :
    Except Fault Store → Except Fault Store → Prop where
  /-- Both fail. -/
  | error (fault : Fault) : AgreeOk here L (.error fault) (.error fault)
  /-- Neither fails. -/
  | ok {s t : Store} (h : Agree here L s t) : AgreeOk here L (.ok s) (.ok t)

variable {here : Location} {L : Location → Prop} {s t : Store} {p : FilePath}

theorem Covers.parent (hp : Covers here L p) : Covers here L p.parent :=
  fun l hl => hp l (trail_parent_subset here p hl)

theorem AgreeOk.symm {x y : Except Fault Store} (h : AgreeOk here L x y) : AgreeOk here L y x := by
  cases h with
  | error fault => exact .error fault
  | ok h => exact .ok ⟨h.here_right, h.here_left, fun l hl => (h.get?_eq l hl).symm⟩

theorem AgreeOk.eq_error {x y : Except Fault Store} {fault : Fault} (h : AgreeOk here L x y)
    (hx : x = .error fault) : y = .error fault := by
  cases h with
  | error _ => exact hx
  | ok _ => cases hx

/-! ### Looking -/

theorem follow_congr {l : Location} {names : List String}
    (h : ∀ l' ∈ along l names, s.get? l' = t.get? l') : s.follow l names = t.follow l names := by
  induction names generalizing l with
  | nil => rfl
  | cons name names ih =>
    have henter : s.enter l = t.enter l := by
      rw [enter, enter, h l (mem_along_self _ _)]
    rw [follow, follow, henter]
    cases hstep : step l name with
    | error _ => rfl
    | ok l₁ =>
      simp only [along, hstep, List.forall_mem_cons] at h
      simp only [ih h.2]

theorem locate_congr (h : Agree here L s t) (hp : Covers here L p) :
    s.locate p = t.locate p := by
  rw [locate, locate, h.here_left, h.here_right,
    follow_congr fun l hl => h.get?_eq l (hp l hl)]

theorem mem_trail_of_locate {l : Location} (h : s.locate p = .ok l) : l ∈ trail s.here p := by
  unfold locate at h
  split at h
  · cases h
  · split at h
    · cases h
    · cases hfollow : s.follow (if p.absolute then [] else s.here) p.names with
      | error _ =>
        rw [hfollow] at h
        cases h
      | ok l' =>
        rw [hfollow] at h
        cases h
        exact mem_along_of_follow hfollow

theorem get?_congr (h : Agree here L s t) (hp : Covers here L p) {l : Location}
    (hl : t.locate p = .ok l) : s.get? l = t.get? l := by
  have hmem := mem_trail_of_locate hl
  rw [h.here_right] at hmem
  exact h.get?_eq l (hp l hmem)

theorem contains_congr (h : Agree here L s t) (hp : Covers here L p) :
    s.contains p = t.contains p := by
  rw [contains, contains, locate_congr h hp]
  split
  next l hl => rw [get?_congr h hp hl]
  next => rfl
  next => rfl

theorem isFolder_congr (h : Agree here L s t) (hp : Covers here L p) :
    s.isFolder p = t.isFolder p := by
  rw [isFolder, isFolder, locate_congr h hp]
  cases hl : t.locate p with
  | error _ => rfl
  | ok l => simp only [get?_congr h hp hl]

theorem read_congr (h : Agree here L s t) (hp : Covers here L p) : s.read p = t.read p := by
  rw [read, read, locate_congr h hp]
  cases hl : t.locate p with
  | error _ => rfl
  | ok l => simp only [get?_congr h hp hl]

theorem readText_congr (h : Agree here L s t) (hp : Covers here L p) :
    s.readText p = t.readText p := by
  rw [readText, readText, read_congr h hp]

/-! ### Changing -/

/-- **Stores agree behind the same change.** -/
theorem Agree.put (h : Agree here L s t) (l : Location) (e : Entry) :
    Agree here L (s.put l e) (t.put l e) := by
  refine ⟨h.here_left, h.here_right, fun l' hl' => ?_⟩
  have hget := h.get?_eq l' hl'
  by_cases hl : l = []
  · -- the top stays a folder, whatever is put there
    subst hl
    unfold get? at hget ⊢
    unfold Store.put
    by_cases htop : l' = []
    · simp only [htop, if_true]
    · simp only [htop, if_false, lookup_putEntry] at hget ⊢
      exact hget
  · rw [get?_put s l' e hl, get?_put t l' e hl, hget]

theorem change_agree (h : Agree here L s t) (hp : Covers here L p)
    (f : List UInt8 → List UInt8) : AgreeOk here L (s.change p f) (t.change p f) := by
  rw [change, change, locate_congr h hp]
  cases hl : t.locate p with
  | error fault => exact .error fault
  | ok l =>
    simp only [get?_congr h hp hl]
    cases t.get? l with
    | none => exact .ok (h.put l _)
    | some entry =>
      cases entry with
      | folder => exact .error _
      | file content => exact .ok (h.put l _)

theorem makeFolder_agree (h : Agree here L s t) (hp : Covers here L p) :
    AgreeOk here L (s.makeFolder p) (t.makeFolder p) := by
  rw [makeFolder, makeFolder, locate_congr h hp]
  cases hl : t.locate p with
  | error fault => exact .error fault
  | ok l =>
    simp only [get?_congr h hp hl]
    cases t.get? l with
    | none => exact .ok (h.put l _)
    | some entry => exact .error _

theorem settleFolder_agree (h : Agree here L s t) (hp : Covers here L p) :
    (s.settleFolder p).2 = (t.settleFolder p).2 ∧
      Agree here L (s.settleFolder p).1 (t.settleFolder p).1 := by
  have hmake := makeFolder_agree h hp
  rw [settleFolder, settleFolder, isFolder_congr h hp]
  generalize s.makeFolder p = x, t.makeFolder p = y at hmake
  cases hmake with
  | error fault => exact ⟨rfl, h⟩
  | ok h' => exact ⟨rfl, h'⟩

/-- **Folders are made alike.** -/
theorem makeFolders_agree (h : Agree here L s t) (hp : Covers here L p) :
    (s.makeFolders p).2 = (t.makeFolders p).2 ∧
      Agree here L (s.makeFolders p).1 (t.makeFolders p).1 := by
  have hmake {q : FilePath} (hq : Covers here L q) := makeFolder_agree h hq
  -- both stores go up to the same folder, as each on the way is missing in both or in neither
  fun_induction makeFolders s p with
  | case1 p cause hmissing hnames =>
    rw [makeFolders, (hmake hp).eq_error hmissing, dif_pos hnames]
    exact settleFolder_agree h hp
  | case2 p cause hmissing hnames hlt s₁ e hparent ih =>
    obtain ⟨hsame, hagree⟩ := ih hp.parent
    rw [makeFolders, (hmake hp).eq_error hmissing, dif_neg hnames]
    rw [hparent] at hsame hagree
    cases ht : t.makeFolders p.parent with
    | mk t₁ result =>
      rw [ht] at hsame hagree
      subst hsame
      exact ⟨rfl, hagree⟩
  | case3 p cause hmissing hnames hlt s₁ hparent ih =>
    obtain ⟨hsame, hagree⟩ := ih hp.parent
    rw [makeFolders, (hmake hp).eq_error hmissing, dif_neg hnames]
    rw [hparent] at hsame hagree
    cases ht : t.makeFolders p.parent with
    | mk t₁ result =>
      rw [ht] at hsame hagree
      subst hsame
      exact settleFolder_agree hagree hp
  | case4 p hother =>
    rw [makeFolders]
    split
    next cause hmissing => exact absurd ((hmake hp).symm.eq_error hmissing) (hother cause)
    next => exact settleFolder_agree h hp

end Harvest.Store
