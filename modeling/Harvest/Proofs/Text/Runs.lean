import Harvest.Proofs.Text.Fold
import Mathlib.Data.List.SplitBy

/-!
# Folding by runs

`fold` trims a text and passes over it once.  Here its result is described without a scan.  What is
left of a text by trimming is given by how the text is put together (`TrimsTo`), and so are the
maximal runs of blank and of non-blank characters (`AreRuns`); folding turns each run of blanks that
holds a line feed into one space and keeps every other run (`squeeze_of_areRuns`).

The scan stands for a pattern, blanks around line feeds, of which each piece takes as much as it can
and gives back what the others need (`lineBreak`), and which is replaced from left to right
(`Replaced`).  It matches where the blanks ahead hold a line feed, and then all of them
(`head?_lineBreak`), so the replacements are those of the scan (`replaced_iff`).

The main statement `fold_by_runs` puts the parts together.
-/

namespace Harvest.Text

variable {cs as bs : List Char} {rs : List (List Char)}

/-! ### Seams -/

theorem LastClear.tail {c : Char} (h : LastClear (c :: cs)) : LastClear cs := by
  cases cs with
  | nil => simp [LastClear]
  | cons d cs => exact lastClear_cons.1 h

theorem lastClear_of_forall (h : ∀ c ∈ cs, isBlank c = false) : LastClear cs :=
  fun c hc => h c (List.mem_of_getLast? hc)

/-- The blanks ahead do not reach over a seam with a clear character at one of its sides. -/
theorem span_append (hne : as ≠ []) (h : LastClear as ∨ HeadClear bs) :
    (as ++ bs).takeWhile isBlank = as.takeWhile isBlank ∧
      (as ++ bs).dropWhile isBlank = as.dropWhile isBlank ++ bs := by
  induction as with
  | nil => exact absurd rfl hne
  | cons c cs ih =>
    by_cases hc : isBlank c = true
    · cases cs with
      | nil =>
        have hbs : HeadClear bs := h.resolve_left fun hl => by simp [LastClear, hc] at hl
        cases bs with
        | nil => simp [hc]
        | cons d ds => simp [hc, headClear_cons.1 hbs]
      | cons d ds =>
        obtain ⟨htake, hdrop⟩ := ih (List.cons_ne_nil d ds) (h.imp_left LastClear.tail)
        rw [List.cons_append, List.takeWhile_cons_of_pos hc, List.dropWhile_cons_of_pos hc, htake,
          hdrop, List.takeWhile_cons_of_pos hc, List.dropWhile_cons_of_pos hc]
        exact ⟨rfl, rfl⟩
    · simp [hc]

/-- **Texts are squeezed apart** where they meet with a clear character at one side. -/
theorem squeeze_append (h : LastClear as ∨ HeadClear bs) :
    squeeze (as ++ bs) = squeeze as ++ squeeze bs := by
  fun_induction squeeze as with
  | case1 => rfl
  | case2 c cs hbreak _ ih =>
    obtain ⟨htake, hdrop⟩ := span_append (List.cons_ne_nil c cs) h
    have hrest := ih (h.imp_left fun hl => (exists_dropWhile hl).2)
    rw [List.cons_append] at htake hdrop ⊢
    rw [squeeze_cons, htake, if_pos hbreak, hdrop, hrest, List.cons_append]
  | case3 c cs hbreak ih =>
    obtain ⟨htake, -⟩ := span_append (List.cons_ne_nil c cs) h
    rw [List.cons_append] at htake ⊢
    rw [squeeze_cons, htake, if_neg hbreak, ih (h.imp_left LastClear.tail), List.cons_append]

theorem squeeze_of_unbroken (h : '\n' ∉ cs) : squeeze cs = cs := by
  fun_induction squeeze cs with
  | case1 => rfl
  | case2 c cs hbreak _ _ => exact absurd ((List.takeWhile_prefix isBlank).subset hbreak.2) h
  | case3 c cs _ ih => rw [ih fun hmem => h (List.mem_cons_of_mem c hmem)]

theorem isBlank_newline : isBlank '\n' = true := by decide

/-- Where blanks stand ahead, the first character is one. -/
theorem isBlank_of_mem_takeWhile {c d : Char} (h : d ∈ (c :: cs).takeWhile isBlank) :
    isBlank c = true := by
  by_contra hc
  rw [List.takeWhile_cons_of_neg hc] at h
  cases h

/-- Blanks ahead that hold a line feed become one space. -/
theorem squeeze_of_break (h : '\n' ∈ cs.takeWhile isBlank) :
    squeeze cs = ' ' :: squeeze (cs.dropWhile isBlank) := by
  cases cs with
  | nil => cases h
  | cons c cs => rw [squeeze_cons, if_pos ⟨isBlank_of_mem_takeWhile h, h⟩]

/-- A character is kept where no blanks ahead hold a line feed. -/
theorem squeeze_of_no_break {c : Char} (h : '\n' ∉ (c :: cs).takeWhile isBlank) :
    squeeze (c :: cs) = c :: squeeze cs := by
  rw [squeeze_cons, if_neg fun hbreak => h hbreak.2]

theorem squeeze_of_blank (hblank : ∀ c ∈ cs, isBlank c = true) (h : '\n' ∈ cs) :
    squeeze cs = [' '] := by
  rw [squeeze_of_break (by rwa [List.takeWhile_eq_self_iff.2 hblank]),
    List.dropWhile_eq_nil_iff.2 hblank, squeeze_nil]

/-- Squeezing keeps the characters that are not blank, in order. -/
theorem filter_squeeze (cs : List Char) :
    (squeeze cs).filter (!isBlank ·) = cs.filter (!isBlank ·) := by
  fun_induction squeeze cs with
  | case1 => rfl
  | case2 c cs hbreak _ ih =>
    have hblank : ((c :: cs).takeWhile isBlank).filter (!isBlank ·) = [] :=
      List.filter_eq_nil_iff.2 fun d hd => by simp [List.mem_takeWhile_imp hd]
    conv_rhs => rw [← List.takeWhile_append_dropWhile (p := isBlank) (l := c :: cs)]
    rw [List.filter_append, hblank, List.nil_append, ← ih]
    exact List.filter_cons_of_neg (by decide)
  | case3 c cs _ ih => simp only [List.filter_cons, ih]

/-! ### Trimming -/

/-- What is left of a text between blanks at its two ends, and has none at its own. -/
structure TrimsTo (cs kept : List Char) : Prop where
  cut : ∃ before after, cs = before ++ kept ++ after ∧ (∀ c ∈ before, isBlank c = true) ∧
    ∀ c ∈ after, isBlank c = true
  head : HeadClear kept
  last : LastClear kept

theorem trimsTo_trim (cs : List Char) : TrimsTo cs (trim cs) := by
  refine ⟨⟨cs.takeWhile isBlank, (trimStart cs).rtakeWhile isBlank, ?_, ?_, ?_⟩,
    headClear_trim cs, lastClear_trim cs⟩
  · have hend : trim cs ++ (trimStart cs).rtakeWhile isBlank = trimStart cs :=
      List.rdropWhile_append_rtakeWhile
    rw [List.append_assoc, hend, trimStart, List.takeWhile_append_dropWhile]
  · exact fun c hc => List.mem_takeWhile_imp hc
  · exact fun c hc => List.mem_rtakeWhile_imp hc

theorem dropWhile_of_headClear (h : HeadClear cs) : cs.dropWhile isBlank = cs := by
  cases cs with
  | nil => rfl
  | cons c cs => exact List.dropWhile_cons_of_neg (by simp [headClear_cons.1 h])

theorem trimEnd_of_lastClear (h : LastClear cs) : trimEnd cs = cs := by
  have hhead : HeadClear cs.reverse := fun c hc => h c (by rwa [List.head?_reverse] at hc)
  rw [trimEnd, dropWhile_of_headClear hhead, List.reverse_reverse]

theorem TrimsTo.eq_trim {kept : List Char} (h : TrimsTo cs kept) : kept = trim cs := by
  obtain ⟨⟨before, after, rfl, hbefore, hafter⟩, hhead, hlast⟩ := h
  have hafter' : ∀ c ∈ after.reverse, isBlank c = true := fun c hc =>
    hafter c (List.mem_reverse.1 hc)
  rw [trim, trimStart, List.append_assoc, List.dropWhile_append_of_pos hbefore]
  cases kept with
  | nil =>
    rw [List.nil_append, List.dropWhile_eq_nil_iff.2 hafter]
    rfl
  | cons c kept =>
    have hclear : HeadClear (c :: kept ++ after) := headClear_cons.2 (headClear_cons.1 hhead)
    rw [dropWhile_of_headClear hclear, trimEnd, List.reverse_append,
      List.dropWhile_append_of_pos hafter']
    exact (trimEnd_of_lastClear hlast).symm

/-- **A text is trimmed to what stands between the blanks at its ends**, and to nothing else. -/
theorem trimsTo_iff {kept : List Char} : TrimsTo cs kept ↔ kept = trim cs :=
  ⟨TrimsTo.eq_trim, fun h => h ▸ trimsTo_trim cs⟩

/-! ### Runs -/

/-- A text is cut into runs, each blank or without blanks, that cannot be longer. -/
structure AreRuns (cs : List Char) (rs : List (List Char)) : Prop where
  joined : rs.flatten = cs
  uniform : ∀ run ∈ rs, run ≠ [] ∧ ∃ b, ∀ c ∈ run, isBlank c = b
  maximal : rs.IsChain fun run next => ∀ c ∈ run, ∀ d ∈ next, isBlank c ≠ isBlank d

theorem isChain_blankness_iff {run : List Char} :
    (run.IsChain fun c d => (isBlank c == isBlank d) = true) ↔ ∃ b, ∀ c ∈ run, isBlank c = b := by
  induction run with
  | nil => simp
  | cons c run ih =>
    cases run with
    | nil => simp
    | cons d run =>
      rw [List.isChain_cons_cons, ih, beq_iff_eq]
      constructor
      · rintro ⟨hcd, b, hb⟩
        exact ⟨b, List.forall_mem_cons.2 ⟨hcd.trans (hb d List.mem_cons_self), hb⟩⟩
      · rintro ⟨b, hb⟩
        obtain ⟨hc, hrest⟩ := List.forall_mem_cons.1 hb
        exact ⟨hc.trans (hrest d List.mem_cons_self).symm, b, hrest⟩

/-- Two uniform runs differ if the end of the one and the head of the other do. -/
theorem differ_iff {run next : List Char} (hrun : run ≠ [] ∧ ∃ b, ∀ c ∈ run, isBlank c = b)
    (hnext : next ≠ [] ∧ ∃ b, ∀ c ∈ next, isBlank c = b) :
    (∃ (hr : run ≠ []) (hn : next ≠ []),
        (isBlank (run.getLast hr) == isBlank (next.head hn)) = false) ↔
      ∀ c ∈ run, ∀ d ∈ next, isBlank c ≠ isBlank d := by
  obtain ⟨hr, b, hb⟩ := hrun
  obtain ⟨hn, b', hb'⟩ := hnext
  constructor
  · rintro ⟨hr, hn, hdiffer⟩ c hc d hd
    rw [hb _ (List.getLast_mem hr), hb' _ (List.head_mem hn)] at hdiffer
    rw [hb c hc, hb' d hd]
    exact beq_eq_false_iff_ne.1 hdiffer
  · intro h
    exact ⟨hr, hn, beq_eq_false_iff_ne.2 (h _ (List.getLast_mem hr) _ (List.head_mem hn))⟩

/-- **There is one way to cut a text into maximal runs.** -/
theorem areRuns_iff : AreRuns cs rs ↔ rs = runs cs := by
  rw [runs, eq_comm, List.splitBy_eq_iff]
  constructor
  · rintro ⟨hjoined, huniform, hmaximal⟩
    refine ⟨hjoined.symm, fun hnil => (huniform [] hnil).1 rfl, fun run hrun =>
      isChain_blankness_iff.2 (huniform run hrun).2, hmaximal.imp_of_mem_imp ?_⟩
    exact fun run next hrun hnext => (differ_iff (huniform run hrun) (huniform next hnext)).2
  · rintro ⟨hjoined, hnil, huniform, hmaximal⟩
    have huniform : ∀ run ∈ rs, run ≠ [] ∧ ∃ b, ∀ c ∈ run, isBlank c = b := fun run hrun =>
      ⟨fun h => hnil (h ▸ hrun), isChain_blankness_iff.1 (huniform run hrun)⟩
    refine ⟨hjoined.symm, huniform, hmaximal.imp_of_mem_imp ?_⟩
    exact fun run next hrun hnext => (differ_iff (huniform run hrun) (huniform next hnext)).1

theorem squeeze_run {run : List Char} (h : ∃ b, ∀ c ∈ run, isBlank c = b) :
    squeeze run = foldRun run := by
  obtain ⟨b, hb⟩ := h
  by_cases hbreak : '\n' ∈ run
  · have hblank : ∀ c ∈ run, isBlank c = true := fun c hc => by
      rw [hb c hc, ← hb _ hbreak, isBlank_newline]
    rw [squeeze_of_blank hblank hbreak, foldRun, if_pos (by simpa [hbreak] using hblank)]
  · rw [squeeze_of_unbroken hbreak, foldRun, if_neg (by simp [hbreak])]

/-- Where a run ends, one of the characters that meet is clear. -/
theorem AreRuns.seam {run : List Char} (h : AreRuns cs (run :: rs)) :
    LastClear run ∨ HeadClear rs.flatten := by
  obtain ⟨-, huniform, hmaximal⟩ := h
  obtain ⟨⟨hne, b, hb⟩, hrest⟩ := List.forall_mem_cons.1 huniform
  cases b with
  | false => exact .inl (lastClear_of_forall hb)
  | true =>
    cases rs with
    | nil => exact .inr (by simp [HeadClear])
    | cons next rs =>
      obtain ⟨c, run, rfl⟩ := List.exists_cons_of_ne_nil hne
      obtain ⟨d, next, rfl⟩ := List.exists_cons_of_ne_nil (hrest next List.mem_cons_self).1
      have hdiffer := (List.isChain_cons_cons.1 hmaximal).1 c List.mem_cons_self d
        List.mem_cons_self
      rw [hb c List.mem_cons_self] at hdiffer
      exact .inr (headClear_cons.2 (Bool.eq_false_iff.2 hdiffer.symm))

/-- **A text is squeezed run by run.** -/
theorem squeeze_of_areRuns (h : AreRuns cs rs) : squeeze cs = rs.flatMap foldRun := by
  induction rs generalizing cs with
  | nil =>
    rw [← h.joined]
    exact squeeze_nil
  | cons run rs ih =>
    have hrest : AreRuns rs.flatten rs :=
      ⟨rfl, (List.forall_mem_cons.1 h.uniform).2, h.maximal.tail⟩
    rw [← h.joined, List.flatten_cons, squeeze_append h.seam, ih hrest, List.flatMap_cons,
      squeeze_run (h.uniform run List.mem_cons_self).2]

/-! ### The pattern -/

/-- What is left of a text behind any number of characters of a kind; behind most of them first. -/
def star (p : Char → Bool) : List Char → List (List Char)
  | [] => [[]]
  | c :: cs => if p c then star p cs ++ [c :: cs] else [c :: cs]

/-- What is left of a text behind at least one character of a kind. -/
def plus (p : Char → Bool) : List Char → List (List Char)
  | [] => []
  | c :: cs => if p c then star p cs else []

/-- What is left of a text behind blanks, line feeds and blanks, in the order in which a matcher
tries the ways to share the characters. -/
def lineBreak (cs : List Char) : List (List Char) :=
  (star isBlank cs).flatMap fun cs => (plus (· == '\n') cs).flatMap (star isBlank)

theorem head?_star (p : Char → Bool) (cs : List Char) :
    (star p cs).head? = some (cs.dropWhile p) := by
  induction cs with
  | nil => rfl
  | cons c cs ih =>
    by_cases hc : p c = true
    · rw [star, if_pos hc, List.head?_append, ih, List.dropWhile_cons_of_pos hc, Option.some_or]
    · rw [star, if_neg hc, List.dropWhile_cons_of_neg hc, List.head?_cons]

/-- To pass over line feeds first makes no difference to the blanks that are passed over. -/
theorem dropWhile_newline (cs : List Char) :
    (cs.dropWhile (· == '\n')).dropWhile isBlank = cs.dropWhile isBlank := by
  induction cs with
  | nil => rfl
  | cons c cs ih =>
    by_cases hc : c = '\n'
    · rw [hc, List.dropWhile_cons_of_pos (by rfl), ih, List.dropWhile_cons_of_pos isBlank_newline]
    · rw [List.dropWhile_cons_of_neg (by simpa using hc)]

/-- The last two pieces match at a line feed. -/
theorem head?_plus (cs : List Char) :
    ((plus (· == '\n') cs).flatMap (star isBlank)).head? =
      if cs.head? = some '\n' then some (cs.dropWhile isBlank) else none := by
  cases cs with
  | nil => rfl
  | cons c cs =>
    by_cases hc : c = '\n'
    · obtain ⟨rest, more, hstar⟩ : ∃ rest more, star (· == '\n') cs = rest :: more := by
        have hhead := head?_star (· == '\n') cs
        cases hs : star (· == '\n') cs with
        | nil => rw [hs] at hhead; cases hhead
        | cons rest more => exact ⟨rest, more, rfl⟩
      have hrest : rest = cs.dropWhile (· == '\n') := by
        simpa [hstar] using head?_star (· == '\n') cs
      rw [hc, plus, if_pos (by rfl), hstar, List.flatMap_cons, List.head?_append, head?_star,
        Option.some_or, hrest, dropWhile_newline, if_pos (by rfl),
        List.dropWhile_cons_of_pos isBlank_newline]
    · rw [plus, if_neg (by simpa using hc), if_neg (by simpa using hc)]
      rfl

/-- **The pattern matches where the blanks ahead hold a line feed, and then all of them.**  The first
piece gives back the last line feed and what stands behind it, which the others take. -/
theorem head?_lineBreak (cs : List Char) :
    (lineBreak cs).head? =
      if '\n' ∈ cs.takeWhile isBlank then some (cs.dropWhile isBlank) else none := by
  induction cs with
  | nil => rfl
  | cons c cs ih =>
    by_cases hc : isBlank c = true
    · have hsplit : (lineBreak (c :: cs)).head? = (lineBreak cs).head?.or
          ((plus (· == '\n') (c :: cs)).flatMap (star isBlank)).head? := by
        rw [lineBreak, star, if_pos hc, List.flatMap_append, List.head?_append, List.flatMap_cons,
          List.flatMap_nil, List.append_nil]
        rfl
      rw [hsplit, ih, head?_plus, List.takeWhile_cons_of_pos hc, List.dropWhile_cons_of_pos hc,
        List.head?_cons]
      by_cases hmem : '\n' ∈ cs.takeWhile isBlank
      · simp [hmem]
      · simp [hmem, eq_comm]
    · have hne : c ≠ '\n' := fun h => hc (h ▸ isBlank_newline)
      rw [lineBreak, star, if_neg hc, List.flatMap_cons, List.flatMap_nil, List.append_nil,
        head?_plus, if_neg (by simpa using hne), List.takeWhile_cons_of_neg hc,
        if_neg List.not_mem_nil]

/-- One space in place of each match of the pattern, from left to right. -/
inductive Replaced : List Char → List Char → Prop where
  /-- Nothing is left. -/
  | done : Replaced [] []
  /-- The pattern matches, and the first of its ways is taken. -/
  | hit {cs rest out : List Char} (h : (lineBreak cs).head? = some rest)
      (hrest : Replaced rest out) : Replaced cs (' ' :: out)
  /-- The pattern does not match at a character, which is kept. -/
  | miss {c : Char} {cs out : List Char} (h : (lineBreak (c :: cs)).head? = none)
      (hrest : Replaced cs out) : Replaced (c :: cs) (c :: out)

/-- **Squeezing replaces the pattern.** -/
theorem replaced_iff {out : List Char} : Replaced cs out ↔ out = squeeze cs := by
  constructor
  · intro h
    induction h with
    | done => exact squeeze_nil.symm
    | @hit cs rest out h _ ih =>
      rw [head?_lineBreak] at h
      split at h
      next hmem =>
        cases h
        rw [squeeze_of_break hmem, ih]
      next => cases h
    | @miss c cs out h _ ih =>
      rw [head?_lineBreak] at h
      split at h
      next => cases h
      next hmem => rw [squeeze_of_no_break hmem, ih]
  · rintro rfl
    fun_induction squeeze cs with
    | case1 => exact .done
    | case2 c cs hbreak _ ih => exact .hit (by rw [head?_lineBreak, if_pos hbreak.2]) ih
    | case3 c cs hbreak ih =>
      refine .miss ?_ ih
      rw [head?_lineBreak, if_neg fun hmem => hbreak ⟨isBlank_of_mem_takeWhile hmem, hmem⟩]

/-! ### Folding -/

theorem toList_fold (s : String) : (fold s).toList = squeeze (trim s.toList) := by
  rw [fold, String.toList_ofList]

theorem TrimsTo.filter_eq {kept : List Char} (h : TrimsTo cs kept) :
    kept.filter (!isBlank ·) = cs.filter (!isBlank ·) := by
  obtain ⟨before, after, rfl, hbefore, hafter⟩ := h.cut
  have hnone {blanks : List Char} (hb : ∀ c ∈ blanks, isBlank c = true) :
      blanks.filter (!isBlank ·) = [] :=
    List.filter_eq_nil_iff.2 fun c hc => by simp [hb c hc]
  rw [List.filter_append, List.filter_append, hnone hbefore, hnone hafter, List.nil_append,
    List.append_nil]

/-- **Folding is what its runs say.**  Trim a text, cut what is kept into its maximal runs, turn each
run of blanks that holds a line feed into one space and keep the others: that is the folded text, and
the text with the pattern replaced from left to right.  The characters that are not blank stand in it
as they stand in the text, and no other break of lines than a line feed changes anything. -/
theorem fold_by_runs (s : String) :
    let kept := trim s.toList
    let folded := (fold s).toList
    ((∀ cs, TrimsTo s.toList cs ↔ cs = kept) ∧ ∀ rs, AreRuns kept rs ↔ rs = runs kept) ∧
    folded = (runs kept).flatMap foldRun ∧
    (∀ out, Replaced kept out ↔ out = folded) ∧
    folded.filter (!isBlank ·) = s.toList.filter (!isBlank ·) ∧
    ('\n' ∉ kept → folded = kept) := by
  intro kept folded
  have hfolded : folded = squeeze kept := toList_fold s
  refine ⟨⟨fun _ => trimsTo_iff, fun _ => areRuns_iff⟩, ?_, fun out => ?_, ?_, fun h => ?_⟩
  · rw [hfolded, squeeze_of_areRuns (areRuns_iff.2 rfl)]
  · rw [hfolded, replaced_iff]
  · rw [hfolded, filter_squeeze, (trimsTo_trim s.toList).filter_eq]
  · rw [hfolded, squeeze_of_unbroken h]

/-- Of the breaks of lines only a line feed folds the blanks around it. -/
example : fold "\r a\r\u0085b \t\n\u2028c\u2028 d\n" = "a\r\u0085b c\u2028 d" := by
  decide +kernel

end Harvest.Text
