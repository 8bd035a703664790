import Harvest.Store.Basic

/-!
# What operations leave alone

A store is mostly looked at for its files.  To make folders changes no file
(`sameFiles_makeFolders`), and to change a file changes no other (`exists_written_of_change`).  A
file that was changed once can be changed again (`Written.change`): its path still leads to it.
-/

namespace Harvest.Store

variable {s s₁ s₂ : Store} {p : FilePath} {l : Location} {content : List UInt8}

/-! ### Folders -/

/-- Two stores have the same files, each with the same bytes. -/
def SameFiles (s s' : Store) : Prop :=
  ∀ l content, s'.get? l = some (.file content) ↔ s.get? l = some (.file content)

theorem SameFiles.refl (s : Store) : SameFiles s s :=
  fun _ _ => Iff.rfl

theorem SameFiles.trans (h : SameFiles s s₁) (h' : SameFiles s₁ s₂) : SameFiles s s₂ :=
  fun l content => (h' l content).trans (h l content)

theorem sameFiles_put_folder (h : s.get? l = none) : SameFiles s (s.put l .folder) := by
  have hl : l ≠ [] := by
    rintro rfl
    cases h
  intro l' content
  rw [get?_put s l' _ hl]
  split
  next he =>
    subst he
    simp [h]
  next => exact Iff.rfl

theorem sameFiles_makeFolder (h : s.makeFolder p = .ok s₁) : SameFiles s s₁ := by
  unfold makeFolder at h
  split at h
  · cases h
  · split at h
    · cases h
    next hl =>
      cases h
      exact sameFiles_put_folder hl

theorem sameFiles_settleFolder (s : Store) (p : FilePath) : SameFiles s (s.settleFolder p).1 := by
  unfold settleFolder
  split
  next hs => exact sameFiles_makeFolder hs
  next => exact .refl s

/-- **Folders are made beside the files.**  No file is changed, whether or not the folders can be
made. -/
theorem sameFiles_makeFolders (s : Store) (p : FilePath) : SameFiles s (s.makeFolders p).1 := by
  fun_induction makeFolders s p with
  | case1 => exact sameFiles_settleFolder _ _
  | case2 p cause hmissing hnames hlt s₁ e hparent ih =>
    rw [hparent] at ih
    exact ih
  | case3 p cause hmissing hnames hlt s₁ hparent ih =>
    rw [hparent] at ih
    exact ih.trans (sameFiles_settleFolder s₁ p)
  | case4 => exact sameFiles_settleFolder _ _

/-! ### Files -/

/-- The store `s'` is `s` but for one file, which is at the location `l`, where the path `p` leads,
and has these bytes. -/
structure Written (s : Store) (p : FilePath) (l : Location) (content : List UInt8)
    (s' : Store) : Prop where
  locate_eq : s'.locate p = .ok l
  get?_eq : s'.get? l = some (.file content)
  file_iff : ∀ l' content', l' ≠ l →
    (s'.get? l' = some (.file content') ↔ s.get? l' = some (.file content'))

theorem Written.of_sameFiles (h : SameFiles s s₁) (hw : Written s₁ p l content s₂) :
    Written s p l content s₂ :=
  ⟨hw.locate_eq, hw.get?_eq, fun l' content' hl =>
    (hw.file_iff l' content' hl).trans (h l' content')⟩

theorem written_put (hl : l ≠ []) (hf : s.get? l ≠ some .folder) (hp : s.locate p = .ok l)
    (content : List UInt8) : Written s p l content (s.put l (.file content)) := by
  refine ⟨locate_put hl hf hp, ?_, fun l' content' hne => ?_⟩
  · rw [get?_put s l _ hl, if_pos rfl]
  · rw [get?_put s l' _ hl, if_neg hne]

/-- **A change of a file changes no other.** -/
theorem exists_written_of_change {f : List UInt8 → List UInt8} (h : s.change p f = .ok s₁) :
    ∃ l old, Written s p l (f old) s₁ := by
  obtain ⟨l, old, hp, hl, hf, -, rfl⟩ := change_eq_ok h
  exact ⟨l, old, written_put hl hf hp _⟩

/-- Whether a file can be changed does not depend on the change. -/
theorem change_eq_error {f : List UInt8 → List UInt8} {fault : Fault}
    (h : s.change p f = .error fault) (g : List UInt8 → List UInt8) :
    s.change p g = .error fault := by
  unfold change at h ⊢
  split at h
  · exact h
  · split at h
    · cases h
    · exact h
    · cases h

/-- **A file that was changed can be changed again.** -/
theorem Written.change (h : Written s p l content s₁) (f : List UInt8 → List UInt8) :
    ∃ s₂, s₁.change p f = .ok s₂ ∧ Written s p l (f content) s₂ := by
  have hl : l ≠ [] := by
    rintro rfl
    cases h.get?_eq
  have hf : s₁.get? l ≠ some .folder := by
    rw [h.get?_eq]
    simp
  have hw := written_put hl hf h.locate_eq (f content)
  refine ⟨_, ?_, hw.locate_eq, hw.get?_eq, fun l' content' hne => ?_⟩
  · rw [Store.change, h.locate_eq]
    simp only [h.get?_eq]
  · exact (hw.file_iff l' content' hne).trans (h.file_iff l' content' hne)

end Harvest.Store
