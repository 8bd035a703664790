import Harvest.Text.Blank

/-!
# Folding of line breaks

Text taken from markup is laid out for the eye of its author.  `fold` undoes the layout: it trims
the text and turns every run of blanks that holds a line feed into one space, while runs that stay
on one line are kept as they are.

`squeeze` is the scan that does it; `runs` cuts a text into its maximal runs of blank and of
non-blank characters, which says the same without a scan.
-/

namespace Harvest.Text

theorem length_dropWhile_lt {p : Char → Bool} {c : Char} (cs : List Char) (h : p c = true) :
    ((c :: cs).dropWhile p).length < (c :: cs).length := by
  rw [List.dropWhile_cons_of_pos h]
  exact Nat.lt_succ_of_le (List.dropWhile_sublist p).length_le

/-- One pass over a text: where the blanks ahead hold a line feed, they become one space. -/
def squeeze : List Char → List Char
  | [] => []
  | c :: cs =>
    if h : isBlank c ∧ '\n' ∈ (c :: cs).takeWhile isBlank then
      have := length_dropWhile_lt cs h.1
      ' ' :: squeeze ((c :: cs).dropWhile isBlank)
    else c :: squeeze cs
  termination_by cs => cs.length
  decreasing_by
    · assumption
    · exact Nat.lt_succ_self _

/-- The text, trimmed, with one space for each run of blanks that holds a line feed. -/
def fold (s : String) : String :=
  String.ofList (squeeze (trim s.toList))

/-- The maximal runs of a text: neighbours share a run when both are blank or both are not. -/
def runs (cs : List Char) : List (List Char) :=
  cs.splitBy fun a b => isBlank a == isBlank b

/-- What becomes of one run: a blank run that holds a line feed is one space. -/
def foldRun (run : List Char) : List Char :=
  if run.all isBlank && run.contains '\n' then [' '] else run

end Harvest.Text
