import Harvest.Proofs.Command.Reading
import Harvest.Proofs.Text.Digit

/-!
# Words behind a command line

An option ends the plain words in front of it.  So if words are read to their end, and an option
follows them, the words in front are read as before and the option is read behind them
(`Draft.Reads.append`).  In particular any integer can be asked for as the number of threads behind a
command line that has no separator, whatever it asked for before (`parse_append_threads`): a negative
number is a plain word, although it starts like an option (`Word.read_intText`).
-/

namespace Harvest.Command

/-! ### What is taken from words with more behind them -/

theorem dropWhile_append_of_head? {α : Type} {p : α → Bool} {tail : List α}
    (h : ∀ a ∈ tail.head?, p a = false) (as : List α) :
    (as ++ tail).dropWhile p = as.dropWhile p ++ tail := by
  induction as with
  | nil =>
    cases tail with
    | nil => rfl
    | cons a tail => exact List.dropWhile_cons_of_neg (by simp [h a rfl])
  | cons a as ih =>
    rw [List.cons_append, List.dropWhile_cons, List.dropWhile_cons]
    split
    · exact ih
    · rfl

theorem takeWhile_append_of_head? {α : Type} {p : α → Bool} {tail : List α}
    (h : ∀ a ∈ tail.head?, p a = false) (as : List α) :
    (as ++ tail).takeWhile p = as.takeWhile p := by
  have hparts := List.takeWhile_append_dropWhile (p := p) (l := as ++ tail)
  rw [dropWhile_append_of_head? h, ← List.append_assoc] at hparts
  have hfront := List.append_cancel_right hparts
  exact List.append_cancel_right (hfront.trans List.takeWhile_append_dropWhile.symm)

theorem Bundle.settings_append {b : Bundle} {ws rest : List (Word Choice)}
    {sets : List (Choice × Option String)} (h : b.settings ws = .ok (sets, rest))
    (tail : List (Word Choice)) : b.settings (ws ++ tail) = .ok (sets, rest ++ tail) := by
  unfold Bundle.settings at h ⊢
  cases hattached : b.attached with
  | some s =>
    simp only [hattached] at h ⊢
    cases h
    rfl
  | none =>
    simp only [hattached] at h ⊢
    cases htakes : b.last.takesValue with
    | false =>
      simp only [htakes] at h ⊢
      cases h
      rfl
    | true =>
      simp only [htakes, Bool.not_true, Bool.false_eq_true, if_false] at h ⊢
      split at h
      · cases h
        rfl
      · cases h

namespace Draft

variable {d d' df : Draft} {ws tail : List (Word Choice)}

section Tail

variable (htail : ∀ w ∈ tail.head?, w.isPositional = false)
include htail

theorem not_isSeparator_head? : ∀ w ∈ tail.head?, w.isSeparator = false := by
  intro w hw
  by_contra hsep
  rw [Bool.not_eq_false] at hsep
  cases (Word.isPositional_of_isSeparator hsep).symm.trans (htail w hw)

theorem head?_ne_plain (s : String) : tail.head? ≠ some (.plain s) := by
  intro h
  cases htail _ h

theorem takeOne_append (ws : List (Word Choice)) :
    takeOne (ws ++ tail) = (takeOne ws).map fun taken => (taken.1, taken.2 ++ tail) := by
  have hsep := not_isSeparator_head? htail
  unfold takeOne
  rw [dropWhile_append_of_head? hsep]
  cases hdrop : ws.dropWhile Word.isSeparator with
  | nil =>
    cases tail with
    | nil => rfl
    | cons w tail =>
      cases w with
      | plain s => exact absurd rfl (head?_ne_plain htail s)
      | _ => rfl
  | cons w rest =>
    cases w with
    | plain s =>
      simp only [List.cons_append, Option.map_some, dropWhile_append_of_head? hsep]
    | _ => rfl

theorem takeMany_append (ws : List (Word Choice)) :
    takeMany (ws ++ tail) = (takeMany ws).map fun taken => (taken.1, taken.2 ++ tail) := by
  unfold takeMany
  rw [dropWhile_append_of_head? (not_isSeparator_head? htail), dropWhile_append_of_head? htail,
    takeWhile_append_of_head? htail]
  cases hdrop : ws.dropWhile Word.isSeparator with
  | nil =>
    cases tail with
    | nil => rfl
    | cons w tail =>
      cases w with
      | plain s => exact absurd rfl (head?_ne_plain htail s)
      | _ => rfl
  | cons w rest =>
    cases w with
    | plain s => rfl
    | _ => rfl

theorem takeInputs_append (d : Draft) (ws : List (Word Choice)) :
    d.takeInputs (ws ++ tail) = ((d.takeInputs ws).1, (d.takeInputs ws).2 ++ tail) := by
  unfold takeInputs
  rw [takeMany_append htail]
  cases takeMany ws <;> rfl

/-- **A draft takes the same from words with an option behind them.** -/
theorem takePlain_append (d : Draft) (ws : List (Word Choice)) :
    d.takePlain (ws ++ tail) = ((d.takePlain ws).1, (d.takePlain ws).2 ++ tail) := by
  unfold takePlain
  rw [takeOne_append htail]
  cases d.config with
  | none =>
    cases takeOne ws with
    | none => rfl
    | some taken => exact takeInputs_append htail _ _
  | some config =>
    cases d.inputs with
    | none => exact takeInputs_append htail _ _
    | some inputs => rfl

/-- **Words with an option behind them are read one after the other.** -/
theorem Reads.append (h : Reads d ws d') (h' : Reads d' tail df) : Reads d (ws ++ tail) df := by
  induction h with
  | done => exact h'
  | option hb hs hset _ ih =>
    exact .option hb (Bundle.settings_append hs tail) hset (ih h')
  | @plain d df' w ws hw htaken _ ih =>
    have htake := takePlain_append htail d (w :: ws)
    rw [List.cons_append] at htake ⊢
    refine .plain hw ?_ ?_
    · rw [htake]
      simp only [List.length_append, List.length_cons] at htaken ⊢
      omega
    · rw [htake]
      exact ih h'

end Tail

end Draft

/-! ### Numbers among the words -/

namespace Word

theorem read_of_head?_ne {ω : Type} {table : List (String × ω)} {s : String}
    (h : s.toList.head? ≠ some '-') : read table s = .ok (plain s) := by
  unfold read
  rw [if_pos (by simpa using h)]

/-- A plain word is read as it stands. -/
theorem eq_of_read_plain {ω : Type} {table : List (String × ω)} {s t : String}
    (h : read table s = .ok (plain t)) : t = s := by
  unfold read at h
  dsimp only at h
  split at h
  · cases h
    rfl
  · split at h
    next w hexact =>
      cases h
      unfold exact at hexact
      split at hexact
      · cases hexact
      · obtain ⟨_, -, hexact⟩ := Option.bind_eq_some_iff.1 hexact
        obtain ⟨choice, -, hexact⟩ := Option.map_eq_some_iff.1 hexact
        cases hexact
    next =>
      split at h
      · cases h
        rfl
      · split at h
        · cases h
        · split at h <;> cases h
          rfl
        · cases h

/-- No option of a run has a digit behind its first dash. -/
theorem toList_ne_of_mem_options {c : Char} (hc : c.isDigit = true) {spelling : String}
    {choice : Choice} (hmem : (spelling, choice) ∈ Page.run.options) (rest : List Char) :
    spelling.toList ≠ '-' :: c :: rest := by
  have hall : ∀ e ∈ Page.run.options, (e.1.toList[1]?).all (!·.isDigit) = true := by decide
  intro htext
  have hsecond := hall _ hmem
  rw [htext] at hsecond
  simp [hc] at hsecond

section Negative

variable {c : Char} {ds : List Char} (hdigits : ∀ d ∈ c :: ds, d.isDigit = true)
include hdigits

theorem ne_of_isDigit {a : Char} (ha : a.isDigit = false) : ∀ d ∈ c :: ds, d ≠ a := by
  rintro d hd rfl
  cases ha.symm.trans (hdigits d hd)

/-- A dash and digits spell out no option, with a value behind an equals sign or without one. -/
theorem exact_negative {s : String} (hs : s.toList = '-' :: c :: ds) :
    exact Page.run.options s = none := by
  have hlookup : Page.run.options.lookup s = none := by
    refine List.lookup_eq_none_iff.2 fun e he => ?_
    rw [bne_iff_ne]
    rintro rfl
    exact toList_ne_of_mem_options (hdigits c List.mem_cons_self) he ds hs
  have hcut : cutAtEquals s.toList = none := by
    have hdrop : s.toList.dropWhile (· != '=') = [] := by
      rw [hs, List.dropWhile_eq_nil_iff]
      refine List.forall_mem_cons.2 ⟨rfl, fun d hd => ?_⟩
      simpa using ne_of_isDigit hdigits rfl d hd
    simp only [cutAtEquals, hdrop]
  simp only [exact, hlookup, hcut, Option.bind_none]

/-- A dash and digits are not short for an option. -/
theorem candidates_negative : candidates Page.run.options ('-' :: c :: ds) = [] := by
  have hc := hdigits c List.mem_cons_self
  have hdash : c ≠ '-' := ne_of_isDigit hdigits rfl c List.mem_cons_self
  have hnone : (Page.run.options.filterMap fun (spelling, choice) =>
      if spelling.toList = ['-', c] then some (choice, spelling, some (String.ofList ds))
      else none) = [] :=
    List.filterMap_eq_nil_iff.2 fun e he => if_neg (toList_ne_of_mem_options hc he [])
  unfold candidates
  split
  next heq =>
    cases heq
    exact absurd rfl hdash
  next heq =>
    cases heq
    exact hnone
  next hother => exact absurd rfl (hother c ds)

theorem isNegativeNumber_of_isDigit : isNegativeNumber ('-' :: c :: ds) = true := by
  have hlast : ('-' :: c :: ds).getLast? ≠ some '\n' := by
    rw [List.getLast?_cons_cons]
    intro h
    exact ne_of_isDigit hdigits rfl _ (List.mem_of_getLast? h) rfl
  have hare : areDigits (c :: ds) = true := by
    simp only [areDigits, List.isEmpty_cons, Bool.not_false, Bool.true_and, List.all_eq_true]
    exact fun d hd => Text.isDigit_of_ascii (hdigits d hd)
  unfold isNegativeNumber
  rw [if_neg (by simpa using hlast)]
  simp only [hare, Bool.true_or]

/-- **A negative number is a plain word**: it stands for no option. -/
theorem read_negative {s : String} (hs : s.toList = '-' :: c :: ds) :
    read Page.run.options s = .ok (plain s) := by
  unfold read
  rw [if_neg (by simp [hs]), exact_negative hdigits hs]
  simp only [hs, candidates_negative hdigits, isNegativeNumber_of_isDigit hdigits, Bool.true_or,
    if_true]
  rw [if_neg (by simp)]

end Negative

/-- **The text of an integer is a plain word.** -/
theorem read_intText (n : Int) :
    read Page.run.options (Text.intText n) = .ok (plain (Text.intText n)) := by
  obtain ⟨c, ds, hds, -⟩ := Text.exists_toDigits n.natAbs
  have hdigits := Text.isDigit_of_mem_toDigits (n := n.natAbs)
  by_cases hn : n < 0
  · have htext := Text.toList_intText_of_neg hn
    rw [hds] at htext hdigits
    exact read_negative hdigits htext
  · refine read_of_head?_ne ?_
    rw [Text.toList_intText_of_not_neg hn, hds, List.head?_cons, ne_eq, Option.some.injEq]
    rintro rfl
    cases Text.isDigit_of_toDigits hds

theorem intText_ne_separatorText (n : Int) : Text.intText n ≠ separatorText := by
  intro h
  have htext : (Text.intText n).toList = ['-', '-'] := congrArg String.toList h
  obtain ⟨c, ds, hds, -⟩ := Text.exists_toDigits n.natAbs
  have hc := Text.isDigit_of_toDigits hds
  by_cases hn : n < 0
  · rw [Text.toList_intText_of_neg hn, hds] at htext
    cases htext
    cases hc
  · rw [Text.toList_intText_of_not_neg hn, hds] at htext
    cases htext
    cases hc

end Word

/-! ### Whole command lines -/

theorem parseRun_of_parseCommand {extra args : List String} {name : String} {o : Options}
    (h : parseCommand extra name args = .ok (some o)) :
    extra = [] ∧ name = Page.runName ∧ parseRun args = .ok (o, []) := by
  unfold parseCommand at h
  split at h
  · cases h
  next hname =>
    split at h
    · cases h
    next o' hrun =>
      split at h <;> cases h
      next hextra =>
        exact ⟨List.isEmpty_iff.1 hextra, by simpa using hname, hrun⟩
    · cases h

theorem parseRun_of_parseFrom {extra args : List String} {o : Options}
    (h : parseFrom extra args = .ok (some o)) :
    extra = [] ∧ ∃ rest, args = Page.runName :: rest ∧ parseRun rest = .ok (o, []) := by
  induction args generalizing extra with
  | nil =>
    rw [parseFrom] at h
    split at h <;> cases h
  | cons s rest ih =>
    rw [parseFrom] at h
    split at h
    · split at h <;> cases h
    · split at h
      · cases h
      · simpa using (ih h).1
      · split at h <;> cases h
      next w hunknown hoption hread =>
        cases w with
        | plain t =>
          cases Word.eq_of_read_plain hread
          obtain ⟨hextra, hname, hrun⟩ := parseRun_of_parseCommand h
          exact ⟨hextra, rest, by rw [← hname]; rfl, hrun⟩
        | option choice spelling attached => exact absurd rfl (hoption choice spelling attached)
        | unknown t => exact absurd rfl (hunknown t)
        | separator => cases Word.isSeparator_of_read hread

/-- A command line asks for a run exactly if it names the command and the words behind it are read to
their end. -/
theorem parse_eq_some_iff {args : List String} {o : Options} :
    Options.parse args = .ok (some o) ↔
      ∃ rest, args = Page.runName :: rest ∧ parseRun rest = .ok (o, []) := by
  constructor
  · exact fun h => (parseRun_of_parseFrom h).2
  · rintro ⟨rest, rfl, hrun⟩
    rw [parse_run, hrun]

/-- The word that asks for a number of threads. -/
def threadsText : String := "--threads"

theorem readAll_threads (n : Int) :
    Word.readAll Page.run.options [threadsText, Text.intText n] =
      .ok [.option .threads threadsText none, .plain (Text.intText n)] := by
  have hread : Word.read Page.run.options threadsText = .ok (.option .threads threadsText none) := by
    decide
  rw [Word.readAll, if_neg (by decide), hread]
  simp only [Word.readAll, Word.intText_ne_separatorText n, if_false, Word.read_intText]
  rfl

/-- **Behind a command line any number of threads can be asked for**, if it has no separator and the
number is not too long.  The number counts, whatever was asked for before. -/
theorem parse_append_threads {args : List String} {o : Options}
    (hargs : Word.separatorText ∉ args) (ho : Options.parse args = .ok (some o)) {n : Int}
    (hn : (Nat.toDigits 10 n.natAbs).length ≤ Text.Numeral.maxDigits) :
    Options.parse (args ++ [threadsText, Text.intText n]) =
      .ok (some { o with threads := some n }) := by
  obtain ⟨rest, rfl, hrun⟩ := parse_eq_some_iff.1 ho
  obtain ⟨ws, d, hws, hreads, hfinish⟩ := parseRun_eq_ok_iff.1 hrun
  have hrest : Word.separatorText ∉ rest := fun hmem => hargs (List.mem_cons_of_mem _ hmem)
  have hwords : Word.readAll Page.run.options (rest ++ [threadsText, Text.intText n]) =
      .ok (ws ++ [.option .threads threadsText none, .plain (Text.intText n)]) := by
    rw [Word.readAll_append hrest, hws, readAll_threads]
    rfl
  have hset : d.setAll [(.threads, some (Text.intText n))] =
      .ok { d with threads := some n } := by
    simp only [Draft.setAll, Draft.set, Text.Numeral.read_intText hn]
  have hall : Draft.Reads {} (ws ++ [.option .threads threadsText none, .plain (Text.intText n)])
      { d with threads := some n } :=
    hreads.append (by simp [Word.isPositional]) (.option rfl rfl hset .done)
  refine parse_eq_some_iff.2 ⟨_, rfl, parseRun_eq_ok_iff.2 ⟨_, _, hwords, hall, ?_⟩⟩
  unfold Draft.finish at hfinish ⊢
  split at hfinish
  next config inputs output hconfig hinputs houtput =>
    cases hfinish
    simp only [hconfig, hinputs, houtput]
  next => cases hfinish

end Harvest.Command
