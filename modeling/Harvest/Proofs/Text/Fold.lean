import Harvest.Text.Fold
import Mathlib.Data.List.DropRight

/-!
# Folded text is tidy

Trimming leaves no blank at the two ends of a text (`headClear_trim`, `lastClear_trim`), squeezing
leaves no line feed anywhere (`not_mem_squeeze`) and keeps clear ends clear.  So folded text is
`Tidy`: it has no line feed and no blank at its ends (`tidy_fold`).
-/

namespace Harvest.Text

/-! ### Ends without blanks -/

/-- No blank stands at the head. -/
def HeadClear (cs : List Char) : Prop :=
  ∀ c ∈ cs.head?, isBlank c = false

/-- No blank stands at the end. -/
def LastClear (cs : List Char) : Prop :=
  ∀ c ∈ cs.getLast?, isBlank c = false

variable {cs : List Char}

theorem headClear_cons {c : Char} : HeadClear (c :: cs) ↔ isBlank c = false := by
  simp [HeadClear]

theorem lastClear_cons {c d : Char} : LastClear (c :: d :: cs) ↔ LastClear (d :: cs) := by
  simp only [LastClear, List.getLast?_cons_cons]

theorem headClear_trimStart (cs : List Char) : HeadClear (trimStart cs) := by
  intro c hc
  have h := List.head?_dropWhile_not isBlank cs
  rw [trimStart, Option.mem_def] at hc
  rwa [hc] at h

theorem lastClear_trimEnd (cs : List Char) : LastClear (trimEnd cs) := by
  intro c hc
  rw [trimEnd, List.getLast?_reverse] at hc
  exact headClear_trimStart cs.reverse c hc

/-- What is trimmed at its end keeps its head, as long as something is left. -/
theorem headClear_trimEnd (h : HeadClear cs) : HeadClear (trimEnd cs) := by
  obtain ⟨blanks, hcs⟩ : trimEnd cs <+: cs := List.rdropWhile_prefix isBlank cs
  intro c hc
  refine h c ?_
  rw [Option.mem_def] at hc
  rw [← hcs, List.head?_append, hc, Option.some_or, Option.mem_def]

theorem headClear_trim (cs : List Char) : HeadClear (trim cs) :=
  headClear_trimEnd (headClear_trimStart cs)

theorem lastClear_trim (cs : List Char) : LastClear (trim cs) :=
  lastClear_trimEnd (trimStart cs)

/-! ### Squeezing -/

theorem squeeze_nil : squeeze [] = [] := by
  rw [squeeze.eq_def]

theorem squeeze_cons (c : Char) (cs : List Char) :
    squeeze (c :: cs) =
      if isBlank c ∧ '\n' ∈ (c :: cs).takeWhile isBlank then
        ' ' :: squeeze ((c :: cs).dropWhile isBlank)
      else c :: squeeze cs := by
  rw [squeeze.eq_def]
  exact dite_eq_ite

/-- Every line feed stands in a run of blanks that holds one. -/
theorem not_mem_squeeze (cs : List Char) : '\n' ∉ squeeze cs := by
  fun_induction squeeze cs with
  | case1 => exact List.not_mem_nil
  | case2 c cs h _ ih => simpa using ih
  | case3 c cs h ih =>
    rw [List.mem_cons, not_or]
    refine ⟨?_, ih⟩
    rintro rfl
    exact h ⟨rfl, by simp [isBlank]⟩

theorem squeeze_of_clear {c : Char} (h : isBlank c = false) (cs : List Char) :
    squeeze (c :: cs) = c :: squeeze cs := by
  rw [squeeze_cons, if_neg (by simp [h])]

theorem headClear_squeeze (h : HeadClear cs) : HeadClear (squeeze cs) := by
  cases cs with
  | nil => rwa [squeeze_nil]
  | cons c cs =>
    rw [squeeze_of_clear (headClear_cons.1 h)]
    exact headClear_cons.2 (headClear_cons.1 h)

theorem squeeze_ne_nil (h : cs ≠ []) : squeeze cs ≠ [] := by
  cases cs with
  | nil => exact absurd rfl h
  | cons c cs =>
    rw [squeeze_cons]
    split <;> exact List.cons_ne_nil _ _

/-- Behind the blanks at the head of a text with a clear end, something is left. -/
theorem exists_dropWhile {c : Char} (h : LastClear (c :: cs)) :
    (c :: cs).dropWhile isBlank ≠ [] ∧ LastClear ((c :: cs).dropWhile isBlank) := by
  have hne : (c :: cs).dropWhile isBlank ≠ [] := by
    intro hnil
    obtain ⟨d, hd⟩ := Option.ne_none_iff_exists'.1 (mt List.getLast?_eq_none_iff.1
      (List.cons_ne_nil c cs))
    have hblank := List.dropWhile_eq_nil_iff.1 hnil d (List.mem_of_getLast? hd)
    exact Bool.false_ne_true ((h d hd).symm.trans hblank)
  obtain ⟨blanks, hcs⟩ := List.dropWhile_suffix isBlank (l := c :: cs)
  refine ⟨hne, fun d hd => h d ?_⟩
  rw [Option.mem_def] at hd ⊢
  rw [← hcs, List.getLast?_append, hd, Option.some_or]

theorem lastClear_squeeze (h : LastClear cs) : LastClear (squeeze cs) := by
  fun_induction squeeze cs with
  | case1 => exact h
  | case2 c cs hbreak _ ih =>
    obtain ⟨hne, hlast⟩ := exists_dropWhile h
    obtain ⟨d, ds, hds⟩ := List.exists_cons_of_ne_nil (squeeze_ne_nil hne)
    have ih := ih hlast
    rw [hds] at ih ⊢
    exact lastClear_cons.2 ih
  | case3 c cs hbreak ih =>
    cases cs with
    | nil =>
      rw [squeeze_nil]
      exact h
    | cons e cs =>
      obtain ⟨d, ds, hds⟩ := List.exists_cons_of_ne_nil (squeeze_ne_nil (List.cons_ne_nil e cs))
      have ih := ih (lastClear_cons.1 h)
      rw [hds] at ih ⊢
      exact lastClear_cons.2 ih

/-! ### Folded text -/

/-- A text without line feeds, and without blanks at its two ends. -/
structure Tidy (s : String) : Prop where
  unbroken : '\n' ∉ s.toList
  head : HeadClear s.toList
  last : LastClear s.toList

/-- **Folded text is tidy.** -/
theorem tidy_fold (s : String) : Tidy (fold s) := by
  refine ⟨?_, ?_, ?_⟩ <;> rw [fold, String.toList_ofList]
  · exact not_mem_squeeze _
  · exact headClear_squeeze (headClear_trim _)
  · exact lastClear_squeeze (lastClear_trim _)

end Harvest.Text
