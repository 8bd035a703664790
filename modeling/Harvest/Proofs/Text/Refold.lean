import Harvest.Proofs.Text.Runs

/-!
# Folding again, in a row and under other line ends

Folded text is tidy and tidy text is folded already, so to fold twice is to fold once
(`fold_of_tidy`).  Two texts with a line feed between them are folded one by one: the blanks where
they meet hold that line feed and become one space, or go with the ends if one of the texts is blank
(`fold_join`, `fold_join_of_blank`).  A carriage return before each line feed is one more blank in a
run that becomes a space anyway (`fold_withReturns`).

The main statement `fold_stable` puts these together.
-/

namespace Harvest.Text

variable {cs ds as bs : List Char} {a b : String}

/-! ### Folding again -/

theorem fold_of_trimsTo {kept : List Char} (h : TrimsTo a.toList kept) :
    (fold a).toList = squeeze kept := by
  rw [toList_fold, ← h.eq_trim]

theorem fold_of_tidy (h : Tidy a) : fold a = a := by
  have hkept : TrimsTo a.toList a.toList := ⟨⟨[], [], by simp, by simp, by simp⟩, h.head, h.last⟩
  rw [← String.toList_inj, fold_of_trimsTo hkept, squeeze_of_unbroken h.unbroken]

/-! ### Texts in a row -/

/-- A text without a character that is not blank. -/
def Blank (s : String) : Prop :=
  ∀ c ∈ s.toList, isBlank c = true

theorem trim_ne_nil (h : ¬ Blank a) : trim a.toList ≠ [] := by
  intro hnil
  obtain ⟨before, after, hcut, hbefore, hafter⟩ := (trimsTo_trim a.toList).cut
  refine h fun c hc => ?_
  rw [hcut, hnil, List.append_nil] at hc
  exact (List.mem_append.1 hc).elim (hbefore c) (hafter c)

theorem HeadClear.append (h : HeadClear cs) (hne : cs ≠ []) (ds : List Char) :
    HeadClear (cs ++ ds) := by
  obtain ⟨c, cs, rfl⟩ := List.exists_cons_of_ne_nil hne
  exact headClear_cons.2 (headClear_cons.1 h)

theorem LastClear.append (h : LastClear ds) (hne : ds ≠ []) (cs : List Char) :
    LastClear (cs ++ ds) := by
  intro c hc
  rw [List.getLast?_append_of_ne_nil cs hne] at hc
  exact h c hc

/-- Texts in a row keep what each of them keeps, and between that the blanks where they meet. -/
theorem TrimsTo.join (ha : TrimsTo cs as) (hb : TrimsTo ds bs) (hneA : as ≠ []) (hneB : bs ≠ []) :
    ∃ gap, TrimsTo (cs ++ '\n' :: ds) (as ++ gap ++ bs) ∧ '\n' ∈ gap ∧
      ∀ c ∈ gap, isBlank c = true := by
  obtain ⟨before, gap, rfl, hbefore, hgap⟩ := ha.cut
  obtain ⟨gap', after, rfl, hgap', hafter⟩ := hb.cut
  refine ⟨gap ++ '\n' :: gap', ⟨⟨before, after, ?_, hbefore, hafter⟩, ?_, hb.last.append hneB _⟩,
    by simp, List.forall_mem_append.2 ⟨hgap, List.forall_mem_cons.2 ⟨isBlank_newline, hgap'⟩⟩⟩
  · simp only [List.append_assoc, List.cons_append]
  · rw [List.append_assoc]
    exact ha.head.append hneA _

/-- Blanks at either side of a text go with its ends. -/
theorem TrimsTo.pad {blanks : List Char} (h : TrimsTo cs as)
    (hblanks : ∀ c ∈ blanks, isBlank c = true) :
    TrimsTo (blanks ++ cs) as ∧ TrimsTo (cs ++ blanks) as := by
  obtain ⟨before, after, rfl, hbefore, hafter⟩ := h.cut
  refine ⟨⟨⟨blanks ++ before, after, ?_, List.forall_mem_append.2 ⟨hblanks, hbefore⟩, hafter⟩,
    h.head, h.last⟩, ⟨⟨before, after ++ blanks, ?_, hbefore,
      List.forall_mem_append.2 ⟨hafter, hblanks⟩⟩, h.head, h.last⟩⟩ <;>
    simp only [List.append_assoc]

theorem toList_join (a b : String) : (a ++ "\n" ++ b).toList = a.toList ++ '\n' :: b.toList := by
  simp

/-- Between two texts that are not blank, the blanks that meet become one space. -/
theorem fold_join (ha : ¬ Blank a) (hb : ¬ Blank b) :
    fold (a ++ "\n" ++ b) = fold a ++ " " ++ fold b := by
  have hA := trimsTo_trim a.toList
  have hB := trimsTo_trim b.toList
  obtain ⟨gap, hkept, hbreak, hgap⟩ := hA.join hB (trim_ne_nil ha) (trim_ne_nil hb)
  rw [← toList_join] at hkept
  rw [← String.toList_inj, fold_of_trimsTo hkept, squeeze_append (.inr hB.head),
    squeeze_append (.inl hA.last), squeeze_of_blank hgap hbreak, String.toList_append,
    String.toList_append, fold_of_trimsTo hA, fold_of_trimsTo hB]
  rfl

/-- A blank text on either side goes with the ends. -/
theorem fold_join_of_blank (h : Blank a) (b : String) :
    fold (a ++ "\n" ++ b) = fold b ∧ fold (b ++ "\n" ++ a) = fold b := by
  have hb := trimsTo_trim b.toList
  have hahead : ∀ c ∈ a.toList ++ ['\n'], isBlank c = true :=
    List.forall_mem_append.2 ⟨h, List.forall_mem_singleton.2 isBlank_newline⟩
  have hbehind : ∀ c ∈ '\n' :: a.toList, isBlank c = true :=
    List.forall_mem_cons.2 ⟨isBlank_newline, h⟩
  have hleft := (hb.pad hahead).1
  have hright := (hb.pad hbehind).2
  rw [List.append_assoc, List.singleton_append, ← toList_join] at hleft
  rw [← toList_join] at hright
  simp only [← String.toList_inj, fold_of_trimsTo hleft, fold_of_trimsTo hright,
    fold_of_trimsTo hb, and_self]

/-! ### Other line ends -/

/-- A character as it is written where lines end with a carriage return and a line feed. -/
def lineEnd (c : Char) : List Char :=
  if c = '\n' then ['\r', '\n'] else [c]

/-- A text with a carriage return before each line feed. -/
def withReturns (s : String) : String :=
  String.ofList (s.toList.flatMap lineEnd)

theorem lineEnd_of_ne {c : Char} (h : c ≠ '\n') : lineEnd c = [c] := by
  rw [lineEnd, if_neg h]

theorem isBlank_of_mem_lineEnd {c d : Char} (h : d ∈ lineEnd c) : isBlank d = isBlank c := by
  by_cases hc : c = '\n'
  · subst hc
    rcases List.mem_pair.1 h with rfl | rfl <;> rfl
  · rw [lineEnd_of_ne hc, List.mem_singleton] at h
    rw [h]

theorem forall_blank_lineEnd (h : ∀ c ∈ cs, isBlank c = true) :
    ∀ c ∈ cs.flatMap lineEnd, isBlank c = true := by
  intro d hd
  obtain ⟨c, hc, hd⟩ := List.mem_flatMap.1 hd
  rw [isBlank_of_mem_lineEnd hd, h c hc]

theorem newline_mem_lineEnd_iff : '\n' ∈ cs.flatMap lineEnd ↔ '\n' ∈ cs := by
  constructor
  · intro h
    obtain ⟨c, hc, hmem⟩ := List.mem_flatMap.1 h
    by_cases hn : c = '\n'
    · rwa [← hn]
    · rw [lineEnd_of_ne hn, List.mem_singleton] at hmem
      rwa [hmem]
  · intro h
    exact List.mem_flatMap.2 ⟨'\n', h, by decide⟩

theorem headClear_lineEnd (h : HeadClear cs) : HeadClear (cs.flatMap lineEnd) := by
  cases cs with
  | nil => exact h
  | cons c cs =>
    have hc := headClear_cons.1 h
    have hne : c ≠ '\n' := fun heq => by simp [heq, isBlank_newline] at hc
    rw [List.flatMap_cons, lineEnd_of_ne hne, List.singleton_append]
    exact headClear_cons.2 hc

theorem lastClear_lineEnd (h : LastClear cs) : LastClear (cs.flatMap lineEnd) := by
  intro d hd
  obtain ⟨c, hc, hd⟩ : ∃ c ∈ cs.getLast?, d ∈ lineEnd c := by
    cases cs using List.reverseRecOn with
    | nil => cases hd
    | append_singleton cs c =>
      have hne : lineEnd c ≠ [] := by
        unfold lineEnd
        split <;> simp
      rw [List.flatMap_append, List.flatMap_singleton, List.getLast?_append_of_ne_nil _ hne] at hd
      exact ⟨c, by simp, List.mem_of_getLast? hd⟩
  rw [isBlank_of_mem_lineEnd hd, h c hc]

/-- The blanks ahead are the same but for the carriage returns. -/
theorem span_lineEnd (cs : List Char) :
    (cs.flatMap lineEnd).takeWhile isBlank = (cs.takeWhile isBlank).flatMap lineEnd ∧
      (cs.flatMap lineEnd).dropWhile isBlank = (cs.dropWhile isBlank).flatMap lineEnd := by
  have hahead := forall_blank_lineEnd fun c (hc : c ∈ cs.takeWhile isBlank) =>
    List.mem_takeWhile_imp hc
  have hrest : HeadClear ((cs.dropWhile isBlank).flatMap lineEnd) :=
    headClear_lineEnd (headClear_trimStart cs)
  have hsplit : cs.flatMap lineEnd =
      (cs.takeWhile isBlank).flatMap lineEnd ++ (cs.dropWhile isBlank).flatMap lineEnd := by
    rw [← List.flatMap_append, List.takeWhile_append_dropWhile]
  have hdrop : (cs.flatMap lineEnd).dropWhile isBlank =
      (cs.dropWhile isBlank).flatMap lineEnd := by
    rw [hsplit, List.dropWhile_append_of_pos hahead, dropWhile_of_headClear hrest]
  refine ⟨?_, hdrop⟩
  have hwhole := List.takeWhile_append_dropWhile (p := isBlank) (l := cs.flatMap lineEnd)
  rw [hdrop] at hwhole
  exact List.append_cancel_right (hwhole.trans hsplit)

theorem squeeze_lineEnd (cs : List Char) : squeeze (cs.flatMap lineEnd) = squeeze cs := by
  fun_induction squeeze cs with
  | case1 => exact squeeze_nil
  | case2 c cs hbreak _ ih =>
    obtain ⟨htake, hdrop⟩ := span_lineEnd (c :: cs)
    rw [squeeze_of_break (by rw [htake, newline_mem_lineEnd_iff]; exact hbreak.2), hdrop, ih]
  | case3 c cs hbreak ih =>
    have hmem : '\n' ∉ (c :: cs).takeWhile isBlank := fun hmem =>
      hbreak ⟨isBlank_of_mem_takeWhile hmem, hmem⟩
    have hne : c ≠ '\n' := by
      rintro rfl
      exact hmem (by rw [List.takeWhile_cons_of_pos isBlank_newline]; exact List.mem_cons_self)
    obtain ⟨htake, -⟩ := span_lineEnd (c :: cs)
    rw [← newline_mem_lineEnd_iff, ← htake] at hmem
    rw [List.flatMap_cons, lineEnd_of_ne hne, List.singleton_append] at hmem ⊢
    rw [squeeze_of_no_break hmem, ih]

theorem fold_withReturns (a : String) : fold (withReturns a) = fold a := by
  have ha := trimsTo_trim a.toList
  obtain ⟨before, after, hcut, hbefore, hafter⟩ := ha.cut
  have hkept : TrimsTo (withReturns a).toList ((trim a.toList).flatMap lineEnd) := by
    refine ⟨⟨before.flatMap lineEnd, after.flatMap lineEnd, ?_, forall_blank_lineEnd hbefore,
      forall_blank_lineEnd hafter⟩, headClear_lineEnd ha.head, lastClear_lineEnd ha.last⟩
    rw [withReturns, String.toList_ofList]
    conv_lhs => rw [hcut]
    rw [List.flatMap_append, List.flatMap_append]
  rw [← String.toList_inj, fold_of_trimsTo hkept, squeeze_lineEnd, fold_of_trimsTo ha]

/-- **Folding is stable.**  To fold again changes nothing.  Two texts with a line feed between them
are folded to their folded texts with a space between these, and to the one folded text if the other
is blank.  Carriage returns before the line feeds change nothing. -/
theorem fold_stable (a b : String) :
    fold (fold a) = fold a ∧
    (¬ Blank a → ¬ Blank b → fold (a ++ "\n" ++ b) = fold a ++ " " ++ fold b) ∧
    (Blank a → fold (a ++ "\n" ++ b) = fold b) ∧
    (Blank b → fold (a ++ "\n" ++ b) = fold a) ∧
    fold (withReturns a) = fold a := by
  refine ⟨fold_of_tidy (tidy_fold a), fold_join, fun ha => ?_, fun hb => ?_, fold_withReturns a⟩
  · exact (fold_join_of_blank ha b).1
  · exact (fold_join_of_blank hb a).2

end Harvest.Text
