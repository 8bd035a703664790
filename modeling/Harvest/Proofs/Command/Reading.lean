import Harvest.Command.Arguments
import Mathlib.Data.List.TakeWhile

/-!
# How a command line is read

To read words ends in one of two ways.  Either an option stops it, and which one that is does not
depend on the plain words (`readWords_eq_error_iff`); or the words are read to their end.  If then
all of them meant something, the draft at the end is reached word by word (`Reads`,
`readWords_eq_ok_iff`).

So a command line asks for an extraction where all of its words mean something and the draft at the
end lacks nothing (`parseRun_eq_ok_iff`), and for help where that is the first stop
(`parseRun_eq_help_iff`).
-/

namespace Harvest.Command

namespace Word

variable {ω : Type}

theorem isPositional_of_isSeparator {w : Word ω} (h : w.isSeparator = true) :
    w.isPositional = true := by
  cases w <;> first | rfl | cases h

end Word

namespace Draft

variable {d d' df : Draft} {ws : List (Word Choice)}

/-! ### What plain words are taken for -/

theorem exists_takeOne {s : String} {rest : List (Word Choice)} (h : takeOne ws = some (s, rest)) :
    ∃ taken, ws = taken ++ rest ∧ ∀ w ∈ taken, w.isPositional = true := by
  unfold takeOne at h
  split at h
  next s' rest' hdrop =>
    cases h
    refine ⟨ws.takeWhile Word.isSeparator ++ .plain s :: rest'.takeWhile Word.isSeparator, ?_, ?_⟩
    · rw [List.append_assoc, List.cons_append, List.takeWhile_append_dropWhile, ← hdrop,
        List.takeWhile_append_dropWhile]
    · have hseps (us : List (Word Choice)) :
          ∀ w ∈ us.takeWhile Word.isSeparator, w.isPositional = true := fun w hw =>
        Word.isPositional_of_isSeparator (List.mem_takeWhile_imp hw)
      exact List.forall_mem_append.2 ⟨hseps ws, List.forall_mem_cons.2 ⟨rfl, hseps rest'⟩⟩
  next => cases h

theorem exists_takeInputs (d : Draft) (ws : List (Word Choice)) :
    ∃ taken, ws = taken ++ (d.takeInputs ws).2 ∧ ∀ w ∈ taken, w.isPositional = true := by
  unfold takeInputs takeMany
  split
  next inputs rest h =>
    split at h
    · cases h
      exact ⟨_, (List.takeWhile_append_dropWhile).symm, fun w hw => List.mem_takeWhile_imp hw⟩
    · cases h
  next => exact ⟨[], rfl, by simp⟩

/-- What a draft takes from words are plain words and separators in front of those that are left. -/
theorem exists_takePlain (d : Draft) (ws : List (Word Choice)) :
    ∃ taken, ws = taken ++ (d.takePlain ws).2 ∧ ∀ w ∈ taken, w.isPositional = true := by
  unfold takePlain
  split
  · split
    next config rest h =>
      obtain ⟨taken, rfl, htaken⟩ := exists_takeOne h
      obtain ⟨more, hmore, hall⟩ := exists_takeInputs { d with config := some config } rest
      refine ⟨taken ++ more, ?_, List.forall_mem_append.2 ⟨htaken, hall⟩⟩
      rw [List.append_assoc, ← hmore]
    next => exact ⟨[], rfl, by simp⟩
  · exact exists_takeInputs d ws
  · exact ⟨[], rfl, by simp⟩

/-! ### What stops the reading -/

/-- The stop at the first option of some words that stops the reading. -/
def firstStop : List (Word Choice) → Option Stop
  | [] => none
  | .option choice spelling attached :: ws =>
    match bundleOf .run choice spelling attached with
    | .error problem => some (stop problem)
    | .ok b =>
      match h : b.settings ws with
      | .error problem => some (stop problem)
      | .ok (sets, rest) =>
        have := Bundle.length_le_of_settings h
        match setAll {} sets with
        | .error e => some e
        | .ok _ => firstStop rest
  | _ :: ws => firstStop ws
  termination_by ws => ws.length

theorem firstStop_of_isPositional {w : Word Choice} (h : w.isPositional = true)
    (ws : List (Word Choice)) : firstStop (w :: ws) = firstStop ws := by
  rw [firstStop]
  rintro choice spelling attached rfl
  cases h

theorem firstStop_append_of_isPositional {us : List (Word Choice)}
    (h : ∀ w ∈ us, w.isPositional = true) (ws : List (Word Choice)) :
    firstStop (us ++ ws) = firstStop ws := by
  induction us with
  | nil => rfl
  | cons w us ih =>
    rw [List.cons_append, firstStop_of_isPositional (h w List.mem_cons_self),
      ih fun v hv => h v (List.mem_cons_of_mem w hv)]

section Option

variable {choice : Choice} {spelling : String} {attached : Option String} {b : Bundle}

theorem firstStop_of_missing {problem : Problem}
    (hb : bundleOf .run choice spelling attached = .ok b) (hs : b.settings ws = .error problem) :
    firstStop (.option choice spelling attached :: ws) = some (stop problem) := by
  rw [firstStop]
  simp only [hb]
  split <;> simp_all

theorem firstStop_of_settings {sets : List (Choice × Option String)} {rest : List (Word Choice)}
    (hb : bundleOf .run choice spelling attached = .ok b) (hs : b.settings ws = .ok (sets, rest)) :
    firstStop (.option choice spelling attached :: ws) =
      match setAll {} sets with
      | .error e => some e
      | .ok _ => firstStop rest := by
  rw [firstStop]
  simp only [hb]
  split <;> simp_all

end Option

/-- Whether an option can be set does not depend on the draft. -/
theorem set_eq_error_iff (d d' : Draft) {choice : Choice} {value : Option String} {e : Stop} :
    d.set choice value = .error e ↔ d'.set choice value = .error e := by
  cases choice with
  | threads =>
    simp only [set]
    cases value with
    | none => simp
    | some s =>
      dsimp only
      cases Text.Numeral.read s <;> simp
  | _ => simp [set]

theorem setAll_eq_error_iff (d d' : Draft) {sets : List (Choice × Option String)} {e : Stop} :
    d.setAll sets = .error e ↔ d'.setAll sets = .error e := by
  induction sets generalizing d d' with
  | nil => simp [setAll]
  | cons set sets ih =>
    obtain ⟨choice, value⟩ := set
    rw [setAll, setAll]
    cases h : d.set choice value with
    | error e' =>
      rw [(set_eq_error_iff d d').1 h]
    | ok d₁ =>
      cases h' : d'.set choice value with
      | error e' => cases h.symm.trans ((set_eq_error_iff d' d).1 h')
      | ok d₁' => exact ih d₁ d₁'

/-- **What stops the reading is the first option that does**, whatever else is read. -/
theorem readWords_eq_error_iff {extra : List String} {e : Stop} :
    d.readWords extra ws = .error e ↔ firstStop ws = some e := by
  fun_induction readWords d extra ws with
  | case1 d extra => simp [firstStop]
  | case2 d extra s ws ih => rw [ih, firstStop]; simp
  | case3 d extra choice spelling attached ws problem hb => simp [firstStop, hb]
  | case4 d extra choice spelling attached ws b hb problem hs =>
    rw [firstStop_of_missing hb hs]
    simp
  | case5 d extra choice spelling attached ws b hb sets rest hs _ stopped hset =>
    rw [firstStop_of_settings hb hs, (setAll_eq_error_iff d {}).1 hset]
    simp
  | case6 d extra choice spelling attached ws b hb sets rest hs _ d₁ hset ih =>
    rw [ih, firstStop_of_settings hb hs]
    cases hset' : setAll {} sets with
    | error e' => cases hset.symm.trans ((setAll_eq_error_iff {} d).1 hset')
    | ok _ => rfl
  | case7 d extra w ws _ hoption taken _ ih =>
    obtain ⟨passed, heq, hpassed⟩ := exists_takePlain d (w :: ws)
    rw [ih, heq, firstStop_append_of_isPositional hpassed]
  | case8 d extra w ws _ hoption taken _ ih =>
    rw [ih, firstStop]
    exact hoption

/-! ### Words that all mean something -/

/-- A draft becomes another as words are read that all mean something. -/
inductive Reads : Draft → List (Word Choice) → Draft → Prop
  /-- No words are left. -/
  | done {d : Draft} : Reads d [] d
  /-- An option is set. -/
  | option {d d' df : Draft} {choice : Choice} {spelling : String} {attached : Option String}
      {b : Bundle} {sets : List (Choice × Option String)} {ws rest : List (Word Choice)}
      (bundle : bundleOf .run choice spelling attached = .ok b)
      (settings : b.settings ws = .ok (sets, rest)) (set : d.setAll sets = .ok d')
      (later : Reads d' rest df) : Reads d (.option choice spelling attached :: ws) df
  /-- Plain words are taken for what the draft lacks. -/
  | plain {d df : Draft} {w : Word Choice} {ws : List (Word Choice)}
      (positional : w.isPositional = true)
      (taken : (d.takePlain (w :: ws)).2.length < (w :: ws).length)
      (later : Reads (d.takePlain (w :: ws)).1 (d.takePlain (w :: ws)).2 df) :
      Reads d (w :: ws) df

theorem reads_of_readWords {extra : List String} (h : d.readWords extra ws = .ok (df, [])) :
    extra = [] ∧ Reads d ws df := by
  fun_induction readWords d extra ws with
  | case1 d extra =>
    cases h
    exact ⟨rfl, .done⟩
  | case2 d extra s ws ih => simpa using (ih h).1
  | case3 d extra choice spelling attached ws problem hb => cases h
  | case4 d extra choice spelling attached ws b hb problem hs => cases h
  | case5 d extra choice spelling attached ws b hb sets rest hs _ stopped hset => cases h
  | case6 d extra choice spelling attached ws b hb sets rest hs _ d₁ hset ih =>
    obtain ⟨hextra, hrest⟩ := ih h
    exact ⟨hextra, .option hb hs hset hrest⟩
  | case7 d extra w ws hunknown hoption taken htaken ih =>
    obtain ⟨hextra, hrest⟩ := ih h
    refine ⟨hextra, .plain ?_ htaken hrest⟩
    cases w with
    | plain s => rfl
    | separator => rfl
    | option choice spelling attached => exact absurd rfl (hoption choice spelling attached)
    | unknown s => exact absurd rfl (hunknown s)
  | case8 d extra w ws _ _ taken _ ih => simpa using (ih h).1

/-- **To read words without a rest is to read each for something.** -/
theorem readWords_eq_ok_iff : d.readWords [] ws = .ok (df, []) ↔ Reads d ws df := by
  refine ⟨fun h => (reads_of_readWords h).2, fun h => ?_⟩
  induction h with
  | done => rw [readWords]
  | option hb hs hset _ ih =>
    rw [readWords]
    simp only [hb]
    split <;> simp_all
  | plain hw htaken _ ih =>
    rw [readWords]
    · rw [if_pos htaken]
      exact ih
    · rintro s rfl
      cases hw
    · rintro choice spelling attached rfl
      cases hw

end Draft

/-! ### Whole command lines -/

namespace Word

variable {ω : Type} {table : List (String × ω)}

theorem isSeparator_of_read {s : String} {w : Word ω} (h : read table s = .ok w) :
    w.isSeparator = false := by
  unfold read at h
  dsimp only at h
  split at h
  · cases h
    rfl
  · split at h
    next w' hexact =>
      cases h
      unfold exact at hexact
      split at hexact
      · cases hexact
        rfl
      · obtain ⟨_, -, hexact⟩ := Option.bind_eq_some_iff.1 hexact
        obtain ⟨choice, -, rfl⟩ := Option.map_eq_some_iff.1 hexact
        rfl
    next =>
      split at h
      · cases h
        rfl
      · split at h
        · cases h
          rfl
        · split at h <;> cases h <;> rfl
        · cases h

/-- Words in front of which no separator stands are read one by one. -/
theorem readAll_append {us : List String} (h : separatorText ∉ us) (vs : List String) :
    readAll table (us ++ vs) =
      (readAll table us).bind fun ws => (readAll table vs).map (ws ++ ·) := by
  induction us with
  | nil =>
    change readAll table vs = (readAll table vs).map id
    cases readAll table vs <;> rfl
  | cons s us ih =>
    rw [List.mem_cons, not_or] at h
    rw [List.cons_append, readAll, readAll, if_neg (Ne.symm h.1), if_neg (Ne.symm h.1)]
    cases read table s with
    | error spellings => rfl
    | ok w =>
      dsimp only
      rw [ih h.2]
      cases readAll table us with
      | error e => rfl
      | ok ws => cases readAll table vs <;> rfl

theorem isSeparator_of_readAll {us : List String} (h : separatorText ∉ us) {ws : List (Word ω)}
    (hws : readAll table us = .ok ws) : ∀ w ∈ ws, w.isSeparator = false := by
  induction us generalizing ws with
  | nil =>
    cases hws
    simp
  | cons s us ih =>
    rw [List.mem_cons, not_or] at h
    rw [readAll, if_neg (Ne.symm h.1)] at hws
    cases hfirst : read table s with
    | error spellings =>
      rw [hfirst] at hws
      cases hws
    | ok w =>
      rw [hfirst] at hws
      cases hrest : readAll table us with
      | error e =>
        rw [hrest] at hws
        cases hws
      | ok rest =>
        rw [hrest] at hws
        cases hws
        exact List.forall_mem_cons.2 ⟨isSeparator_of_read hfirst, ih h.2 hrest⟩

end Word

theorem parseRun_eq_ok_iff {args : List String} {o : Options} :
    parseRun args = .ok (o, []) ↔ ∃ ws d, Word.readAll Page.run.options args = .ok ws ∧
      Draft.Reads {} ws d ∧ d.finish = .ok o := by
  simp only [← Draft.readWords_eq_ok_iff]
  unfold parseRun
  cases Word.readAll Page.run.options args with
  | error word => simp
  | ok ws =>
    dsimp only
    cases hread : Draft.readWords {} [] ws with
    | error e => simp [hread]
    | ok read =>
      obtain ⟨d, extra⟩ := read
      cases hfinish : d.finish with
      | error e => simp [hread, hfinish, Except.map]
      | ok o' =>
        simp only [hfinish, Except.map, Except.ok.injEq, Prod.mk.injEq]
        constructor
        · rintro ⟨rfl, rfl⟩
          exact ⟨ws, d, rfl, hread, hfinish⟩
        · rintro ⟨_, d', rfl, hread', hfinish'⟩
          cases hread.symm.trans hread'
          cases hfinish.symm.trans hfinish'
          exact ⟨rfl, rfl⟩

theorem Draft.finish_ne_help (d : Draft) (page : Page) : d.finish ≠ .error (.help page) := by
  unfold Draft.finish
  split
  · exact nofun
  · exact nofun

theorem parseRun_eq_help_iff {args : List String} {page : Page} :
    parseRun args = .error (.help page) ↔ ∃ ws, Word.readAll Page.run.options args = .ok ws ∧
      Draft.firstStop ws = some (.help page) := by
  unfold parseRun
  cases Word.readAll Page.run.options args with
  | error word => simp [Draft.stop]
  | ok ws =>
    have hstop : Draft.readWords {} [] ws = .error (.help page) ↔
        Draft.firstStop ws = some (.help page) := Draft.readWords_eq_error_iff
    simp only [Except.ok.injEq, exists_eq_left', ← hstop]
    cases hread : Draft.readWords {} [] ws with
    | error e => simp
    | ok read =>
      obtain ⟨d, extra⟩ := read
      cases hfinish : d.finish with
      | error e =>
        have hne : e ≠ .help page := fun h => d.finish_ne_help page (h ▸ hfinish)
        simp [hfinish, Except.map, hne]
      | ok o => simp [hfinish, Except.map]

theorem parse_run (args : List String) :
    Options.parse (Page.runName :: args) =
      match parseRun args with
      | .error e => .error e
      | .ok (o, []) => .ok (some o)
      | .ok (_, more) => .error (stop (.unrecognized more)) := by
  have hread : Word.read Page.program.options Page.runName = .ok (.plain Page.runName) := by decide
  rw [Options.parse, parseFrom, if_neg (by decide), hread]
  rfl

end Harvest.Command
