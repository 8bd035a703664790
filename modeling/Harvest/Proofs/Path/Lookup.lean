import Harvest.Proofs.Path.Split
import Harvest.Proofs.Value.Update
import Mathlib.Data.List.Forall2

/-!
# Where paths lead

`Leads` says which value lies at an address, a list of keys and indexes, without any text.  An
address can be written as a path in several ways, since an index may stand in brackets or like a key
(`Segment.WrittenAs`).

Whichever way is chosen, the path leads to the value at the address (`nested_value_at_path`).
Conversely a path of any text leads to a value at some address, or nowhere
(`lookup_safe_and_sound`): keys, signs and numbers that fit nothing are no errors, and only an index
that is too long is.
-/

namespace Harvest.Path

variable {v w : Value}

/-! ### Addresses -/

/-- An address leads from a value to one inside it, by a key of a map or an index of a list at each
step. -/
inductive Leads : Value → List Segment → Value → Prop where
  /-- Without a step it leads to the value itself. -/
  | here (v : Value) : Leads v [] v
  /-- The value under a key of a map. -/
  | key {es : Entries} {s : String} {v w : Value} {ss : List Segment} (h : es.get? s = some v)
      (hrest : Leads v ss w) : Leads (.map es) (.key s :: ss) w
  /-- The element at an index of a list. -/
  | list {vs : List Value} {n : Nat} {v w : Value} {ss : List Segment} (h : vs[n]? = some v)
      (hrest : Leads v ss w) : Leads (.list vs) (.index n :: ss) w
  /-- The element at an index of a tuple. -/
  | tuple {vs : List Value} {n : Nat} {v w : Value} {ss : List Segment} (h : vs[n]? = some v)
      (hrest : Leads v ss w) : Leads (.tuple vs) (.index n :: ss) w

/-- A segment, and a segment that it may be written as: an index may stand like a key. -/
inductive Segment.WrittenAs : Segment → Segment → Prop where
  /-- As it is. -/
  | same (s : Segment) : WrittenAs s s
  /-- The digits of an index behind a dot. -/
  | dotted (n : Nat) : WrittenAs (.index n) (.key (Text.natText n))

/-- The digits of a number can be a key. -/
theorem proper_natText (n : Nat) : (Segment.key (Text.natText n)).Proper := by
  have htext : (Text.natText n).toList = Nat.toDigits 10 n := String.toList_ofList
  have hno (c : Char) (hc : c.isDigit = false) : c ∉ (Text.natText n).toList := by
    intro hmem
    rw [htext] at hmem
    cases hc.symm.trans (Text.isDigit_of_mem_toDigits c hmem)
  refine ⟨fun h => ?_, hno '.' rfl, hno '[' rfl, hno ']' rfl⟩
  rw [h] at htext
  exact Text.toDigits_ne_nil n htext.symm

theorem Segment.WrittenAs.proper {s t : Segment} (h : s.WrittenAs t) (hs : s.Proper) :
    t.Proper := by
  cases h with
  | same => exact hs
  | dotted n => exact proper_natText n

theorem proper_of_writtenAs {address written : List Segment} (hp : ∀ s ∈ address, s.Proper)
    (h : List.Forall₂ Segment.WrittenAs address written) : ∀ t ∈ written, t.Proper := by
  induction h with
  | nil => simp
  | cons hs _ ih =>
    obtain ⟨hfirst, hrest⟩ := List.forall_mem_cons.1 hp
    exact List.forall_mem_cons.2 ⟨hs.proper hfirst, ih hrest⟩

/-- Both ways to write an index stand for it. -/
theorem Segment.WrittenAs.toInt? {n : Nat} {t : Segment} (h : (Segment.index n).WrittenAs t)
    (hn : (Segment.index n).Proper) : t.toInt? = some (n : Int) := by
  cases h with
  | same => rfl
  | dotted =>
    rw [Segment.toInt?, Text.Numeral.read_natText hn]
    rfl

/-! ### Following an address -/

theorem elementAt?_natCast (vs : List Value) (n : Nat) : elementAt? vs n = vs[n]? := by
  rw [elementAt?, if_pos (Int.natCast_nonneg n), Int.toNat_natCast]

/-- **Written segments lead where the address does.** -/
theorem follow?_of_leads {address written : List Segment} (h : Leads v address w)
    (hp : ∀ s ∈ address, s.Proper) (hw : List.Forall₂ Segment.WrittenAs address written) :
    follow? v written = some w := by
  -- an element of a list or a tuple is found by both ways to write its index
  have helement {vs : List Value} {n : Nat} {u : Value} {t : Segment} (hu : vs[n]? = some u)
      (hn : (Segment.index n).Proper) (ht : (Segment.index n).WrittenAs t) :
      t.toInt?.bind (elementAt? vs) = some u := by
    rw [ht.toInt? hn, Option.bind_some, elementAt?_natCast, hu]
  induction h generalizing written with
  | here v =>
    cases hw
    rfl
  | key h _ ih =>
    cases hw with
    | cons hs hw =>
      cases hs with
      | same =>
        rw [follow?, step?, Segment.text, h, Option.bind_some]
        exact ih (List.forall_mem_cons.1 hp).2 hw
  | list h _ ih =>
    cases hw with
    | cons hs hw =>
      obtain ⟨hn, hrest⟩ := List.forall_mem_cons.1 hp
      rw [follow?, step?, helement h hn hs, Option.bind_some]
      exact ih hrest hw
  | tuple h _ ih =>
    cases hw with
    | cons hs hw =>
      obtain ⟨hn, hrest⟩ := List.forall_mem_cons.1 hp
      rw [follow?, step?, helement h hn hs, Option.bind_some]
      exact ih hrest hw

/-- An element at an index of either sign is one of the list. -/
theorem exists_of_elementAt? {vs : List Value} {i : Int} (h : elementAt? vs i = some v) :
    ∃ n : Nat, vs[n]? = some v := by
  unfold elementAt? at h
  split at h
  · exact ⟨_, h⟩
  · split at h
    · exact ⟨_, h⟩
    · cases h

/-- One step leads by some key or index, whatever its text. -/
theorem exists_leads_of_step? {s : Segment} (h : step? v s = some w) : ∃ a, Leads v [a] w := by
  unfold step? at h
  split at h
  next es => exact ⟨_, .key h (.here w)⟩
  next vs =>
    obtain ⟨i, -, hi⟩ := Option.bind_eq_some_iff.1 h
    obtain ⟨n, hn⟩ := exists_of_elementAt? hi
    exact ⟨_, .list hn (.here w)⟩
  next vs =>
    obtain ⟨i, -, hi⟩ := Option.bind_eq_some_iff.1 h
    obtain ⟨n, hn⟩ := exists_of_elementAt? hi
    exact ⟨_, .tuple hn (.here w)⟩
  next => cases h

theorem Leads.append {u : Value} {ss ts : List Segment} (h : Leads u ss v) (h' : Leads v ts w) :
    Leads u (ss ++ ts) w := by
  induction h with
  | here => exact h'
  | key h _ ih => exact .key h (ih h')
  | list h _ ih => exact .list h (ih h')
  | tuple h _ ih => exact .tuple h (ih h')

/-- **What segments lead to lies at an address.** -/
theorem exists_leads_of_follow? {ss : List Segment} (h : follow? v ss = some w) :
    ∃ address, Leads v address w := by
  induction ss generalizing v with
  | nil =>
    cases h
    exact ⟨[], .here w⟩
  | cons s ss ih =>
    obtain ⟨u, hu, hrest⟩ := Option.bind_eq_some_iff.1 h
    obtain ⟨a, ha⟩ := exists_leads_of_step? hu
    obtain ⟨address, haddress⟩ := ih hrest
    exact ⟨_, ha.append haddress⟩

/-! ### Looking up a path -/

/-- A value is a map with the whole path as one of its keys. -/
def Names (v : Value) (path : String) : Prop :=
  ∃ es : Entries, v = .map es ∧ path ∈ es.keys

theorem verbatim?_eq_none_iff {path : String} : verbatim? v path = none ↔ ¬ Names v path := by
  unfold verbatim? Names
  split
  next es => simp [Entries.get?_eq_none_iff]
  next h => simpa using fun es heq => absurd heq (h es)

theorem lookup_of_not_names {path : String} (h : ¬ Names v path) :
    lookup v path = (split path).map (follow? v) := by
  rw [lookup, verbatim?_eq_none_iff.2 h]

/-- Under a path that can be split there is a value or none. -/
theorem exists_lookup_of_split {path : String} (h : ∃ ss, split path = .ok ss) (v : Value) :
    ∃ found, lookup v path = .ok found := by
  obtain ⟨ss, hss⟩ := h
  unfold lookup
  split
  next found _ => exact ⟨some found, rfl⟩
  next => exact ⟨follow? v ss, by rw [hss]; rfl⟩

/-! ### What a lookup tells -/

theorem has_eq_error_iff {path : String} {e : TooLong} :
    has v path = .error e ↔ lookup v path = .error e :=
  map_eq_error_iff

theorem get_eq_error_iff {path : String} {default : Value} {e : TooLong} :
    get v path default = .error e ↔ lookup v path = .error e :=
  map_eq_error_iff

theorem has_eq_true_iff {path : String} :
    has v path = .ok true ↔ ∃ w, lookup v path = .ok (some w) := by
  unfold has
  cases lookup v path with
  | error e => simp [Except.map]
  | ok found => cases found <;> simp [Except.map]

theorem has_eq_false_iff {path : String} : has v path = .ok false ↔ lookup v path = .ok none := by
  unfold has
  cases lookup v path with
  | error e => simp [Except.map]
  | ok found => cases found <;> simp [Except.map]

/-- A result that does not depend on the default is one that is found. -/
theorem get_eq_for_all_iff {path : String} :
    (∀ default, get v path default = .ok w) ↔ lookup v path = .ok (some w) := by
  constructor
  · intro h
    -- two defaults that differ tell a value that is found from a default
    have hnull := h .null
    have htrue := h (.bool true)
    unfold get at hnull htrue
    cases hfound : lookup v path with
    | error e =>
      rw [hfound] at hnull
      cases hnull
    | ok found =>
      rw [hfound] at hnull htrue
      cases found with
      | none =>
        cases hnull
        cases htrue
      | some u =>
        cases hnull
        rfl
  · intro h default
    rw [get, h]
    rfl

/-! ### Paths of addresses -/

/-- **Every nested value can be addressed.**  Take the value at an address in a record, of which each
key is not empty and holds no dot or bracket, and each index is not too long, and any way to write
the address as a path.  Then the path leads to the value, whatever the default, unless the record has
the path itself among its keys; where that key is the whole address, it leads to the value as well. -/
theorem nested_value_at_path {record : Value} {address written : List Segment}
    (h : Leads record address v) (hp : ∀ s ∈ address, s.Proper)
    (hw : List.Forall₂ Segment.WrittenAs address written)
    (hnames : Names record (render written) → address = [.key (render written)]) :
    has record (render written) = .ok true ∧
      ∀ default, get record (render written) default = .ok v := by
  have hfound : lookup record (render written) = .ok (some v) := by
    by_cases hn : Names record (render written)
    · rw [hnames hn] at h
      cases h with
      | key h hrest =>
        cases hrest
        simp only [lookup, verbatim?, h]
    · rw [lookup_of_not_names hn, split_render (proper_of_writtenAs hp hw), Except.map,
        follow?_of_leads h hp hw]
  exact ⟨has_eq_true_iff.2 ⟨v, hfound⟩, get_eq_for_all_iff.2 hfound⟩

/-- A record of two pages, of which the second has a title that is null. -/
def pages : Value :=
  .map [("pages", .tuple [.text "<p>a</p>", .map [("0", .null)]])]

/-- A key that looks like an index, behind an index in either notation. -/
theorem nested_value_at_path_pages :
    let address : List Segment := [.key "pages", .index 1, .key "0"]
    (Leads pages address .null ∧ ∀ s ∈ address, s.Proper) ∧
    (has pages "pages[1].0" = .ok true ∧ get pages "pages[1].0" (.int 7) = .ok .null) ∧
    has pages "pages.1.0" = .ok true ∧ get pages "pages.1.0" (.int 7) = .ok .null := by
  intro address
  have h : Leads pages address .null := .key rfl (.tuple rfl (.key rfl (.here _)))
  have hp : ∀ s ∈ address, s.Proper := by decide
  have hno (path : String) (hne : path ≠ "pages") : ¬ Names pages path := by
    rintro ⟨es, hes, hmem⟩
    cases hes
    exact hne (List.mem_singleton.1 hmem)
  have hbracket := nested_value_at_path h hp (List.forall₂_same.2 fun s _ => .same s)
    fun hn => absurd hn (hno _ (by decide))
  have hdotted := nested_value_at_path h hp
    (.cons (.same _) (.cons (.dotted 1) (.cons (.same _) .nil)))
    fun hn => absurd hn (hno _ (by decide))
  exact ⟨⟨h, hp⟩, ⟨hbracket.1, hbracket.2 _⟩, hdotted.1, hdotted.2 _⟩

/-! ### Paths of any text -/

theorem exists_long_of_lookup {path : String} {e : TooLong} (h : lookup v path = .error e) :
    ¬ Names v path ∧ ∃ ds, HoldsLong path.toList ds ∧ e = ⟨ds.length⟩ := by
  by_cases hn : Names v path
  · obtain ⟨es, rfl, hmem⟩ := hn
    cases hfound : es.get? path with
    | none => exact absurd hmem (Entries.get?_eq_none_iff.1 hfound)
    | some found =>
      rw [lookup, verbatim?, hfound] at h
      cases h
  · rw [lookup_of_not_names hn, map_eq_error_iff] at h
    exact ⟨hn, holds_long_of_splitChars h⟩

/-- **Lookup fails exactly for an index that is too long**, in a path that is no key. -/
theorem exists_lookup_error_iff {path : String} :
    (∃ e, lookup v path = .error e) ↔ ¬ Names v path ∧ ∃ ds, HoldsLong path.toList ds := by
  constructor
  · rintro ⟨e, he⟩
    obtain ⟨hn, ds, hds, -⟩ := exists_long_of_lookup he
    exact ⟨hn, ds, hds⟩
  · rintro ⟨hn, hlong⟩
    obtain ⟨e, he⟩ := exists_split_error_iff.2 hlong
    exact ⟨e, by rw [lookup_of_not_names hn, he]; rfl⟩

/-- **What is found lies at an address.** -/
theorem exists_leads_of_lookup {path : String} (h : lookup v path = .ok (some w)) :
    ∃ address, Leads v address w := by
  unfold lookup at h
  split at h
  next found hfound =>
    cases h
    unfold verbatim? at hfound
    split at hfound
    next es => exact ⟨_, .key hfound (.here w)⟩
    next => cases hfound
  next =>
    cases hs : split path with
    | error e =>
      rw [hs] at h
      cases h
    | ok ss =>
      rw [hs] at h
      exact exists_leads_of_follow? (Except.ok.inj h)

/-- **Lookup is safe and sound.**  Whatever the text of a path, lookup fails only if the path is no
key of the value and holds an index that is too long; the error tells the number of its digits.
Otherwise there is a value at the path exactly if the default makes no difference, and then it lies
at some address; without one there is the default. -/
theorem lookup_safe_and_sound (data : Value) (path : String) :
    let fails := ¬ Names data path ∧ ∃ ds, HoldsLong path.toList ds
    (((∃ e, has data path = .error e) ↔ fails) ∧
      ∀ default, (∃ e, get data path default = .error e) ↔ fails) ∧
    (∀ e default, has data path = .error e ∨ get data path default = .error e →
      ∃ ds, HoldsLong path.toList ds ∧ e = ⟨ds.length⟩) ∧
    (has data path = .ok true ↔ ∃ v, ∀ default, get data path default = .ok v) ∧
    (∀ v, (∀ default, get data path default = .ok v) → ∃ address, Leads data address v) ∧
    (has data path = .ok false → ∀ default, get data path default = .ok default) := by
  intro fails
  refine ⟨⟨?_, fun default => ?_⟩, ?_, ?_, ?_, ?_⟩
  · simp only [has_eq_error_iff]
    exact exists_lookup_error_iff
  · simp only [get_eq_error_iff]
    exact exists_lookup_error_iff
  · intro e default he
    rw [has_eq_error_iff, get_eq_error_iff, or_self] at he
    exact (exists_long_of_lookup he).2
  · simp only [has_eq_true_iff, get_eq_for_all_iff]
  · intro v hv
    exact exists_leads_of_lookup (get_eq_for_all_iff.1 hv)
  · intro hno default
    rw [get, has_eq_false_iff.1 hno]
    rfl

end Harvest.Path
