import Harvest.Proofs.Command.Appending

/-!
# Command lines without their dry run

A word that asks for a dry run is taken out of a command line.  The options that stop the reading
are the same, unless the word was in the place of a value (`firstStop_without`).  If the command line
was read to its end, it still is, and asks for the same but the dry run (`Rehearses`, `parse_without`).
One thing may change: where the word stood between the configuration and a separator, the separator
now belongs to the configuration, so that another separator among the inputs is left out.
-/

namespace Harvest.Command

/-- The text that asks for a dry run. -/
def dryText : String := "--dry-run"

/-- The word that asks for a dry run. -/
def dryWord : Word Choice := .option .dryRun dryText none

theorem bundleOf_dryWord : bundleOf .run .dryRun dryText none = .ok ⟨[], .dryRun, none⟩ := rfl

theorem settings_dryWord (vs : List (Word Choice)) :
    (⟨[], .dryRun, none⟩ : Bundle).settings vs = .ok ([(.dryRun, none)], vs) := rfl

/-! ### Options in front of the word -/

/-- A bundle takes the same from the words behind it, unless the word was in the place of its value.
-/
theorem Bundle.settings_without (b : Bundle) (us vs : List (Word Choice)) :
    (∃ problem, b.settings (us ++ dryWord :: vs) = .error problem) ∨
      ∃ sets us', us' <:+ us ∧ b.settings (us ++ dryWord :: vs) = .ok (sets, us' ++ dryWord :: vs) ∧
        b.settings (us ++ vs) = .ok (sets, us' ++ vs) := by
  unfold Bundle.settings
  cases b.attached with
  | some s => exact .inr ⟨_, us, List.suffix_refl us, rfl, rfl⟩
  | none =>
    dsimp only
    cases b.last.takesValue with
    | false => exact .inr ⟨_, us, List.suffix_refl us, rfl, rfl⟩
    | true =>
      cases us with
      | nil => exact .inl ⟨_, rfl⟩
      | cons w us =>
        cases w with
        | plain s => exact .inr ⟨_, us, List.suffix_cons _ us, rfl, rfl⟩
        | option choice spelling attached => exact .inl ⟨_, rfl⟩
        | unknown s => exact .inl ⟨_, rfl⟩
        | separator => exact .inl ⟨_, rfl⟩

namespace Draft

variable {d d' df : Draft} {ws : List (Word Choice)}

/-- **The word does not stop the reading**, and keeps no other option from it, unless it is in the
place of a value. -/
theorem firstStop_without (us vs : List (Word Choice)) :
    (∃ e, firstStop (us ++ dryWord :: vs) = some (.usage e)) ∨
      firstStop (us ++ dryWord :: vs) = firstStop (us ++ vs) := by
  induction hlen : us.length using Nat.strongRecOn generalizing us with
  | ind n ih =>
    subst hlen
    cases us with
    | nil => exact .inr (firstStop_of_settings bundleOf_dryWord (settings_dryWord vs))
    | cons w us =>
      cases w with
      | option choice spelling attached =>
        rw [List.cons_append, List.cons_append]
        cases hb : bundleOf .run choice spelling attached with
        | error problem => exact .inr (by simp only [firstStop, hb])
        | ok b =>
          obtain ⟨problem, hs⟩ | ⟨sets, us', hsuffix, hs, hs'⟩ := b.settings_without us vs
          · exact .inl ⟨_, firstStop_of_missing hb hs⟩
          · rw [firstStop_of_settings hb hs, firstStop_of_settings hb hs']
            cases setAll {} sets with
            | error e => exact .inr rfl
            | ok _ => exact ih us'.length (Nat.lt_succ_of_le hsuffix.length_le) us' rfl
      | _ =>
        simp only [List.cons_append, firstStop]
        exact ih us.length (Nat.lt_succ_self _) us rfl

/-! ### Drafts that rehearse others -/

/-- A draft rehearses another: they agree, but that the other may have fewer inputs and may be
without a dry run. -/
structure Rehearses (d d' : Draft) : Prop where
  config_eq : d'.config = d.config
  inputs_rel : Option.Rel (· ⊆ ·) d'.inputs d.inputs
  output_eq : d'.output = d.output
  rules_eq : d'.rules = d.rules
  items_eq : d'.items = d.items
  continueOnFail_eq : d'.continueOnFail = d.continueOnFail
  threads_eq : d'.threads = d.threads
  verbose_eq : d'.verbose = d.verbose

namespace Rehearses

theorem inputs_refl (inputs : Option (List String)) : Option.Rel (· ⊆ ·) inputs inputs := by
  cases inputs with
  | none => exact .none
  | some paths => exact .some (List.Subset.refl paths)

theorem inputs_trans {a b c : Option (List String)} (h : Option.Rel (· ⊆ ·) a b)
    (h' : Option.Rel (· ⊆ ·) b c) : Option.Rel (· ⊆ ·) a c := by
  cases h with
  | none => exact h'
  | some hab =>
    cases h' with
    | some hbc => exact .some (List.Subset.trans hab hbc)

theorem refl (d : Draft) : Rehearses d d :=
  ⟨rfl, inputs_refl _, rfl, rfl, rfl, rfl, rfl, rfl⟩

theorem trans {d'' : Draft} (h : Rehearses d d') (h' : Rehearses d' d'') : Rehearses d d'' where
  config_eq := h'.config_eq.trans h.config_eq
  inputs_rel := inputs_trans h'.inputs_rel h.inputs_rel
  output_eq := h'.output_eq.trans h.output_eq
  rules_eq := h'.rules_eq.trans h.rules_eq
  items_eq := h'.items_eq.trans h.items_eq
  continueOnFail_eq := h'.continueOnFail_eq.trans h.continueOnFail_eq
  threads_eq := h'.threads_eq.trans h.threads_eq
  verbose_eq := h'.verbose_eq.trans h.verbose_eq

theorem dry (d : Draft) : Rehearses { d with dryRun := true } d :=
  ⟨rfl, inputs_refl _, rfl, rfl, rfl, rfl, rfl, rfl⟩

theorem withInputs (h : Rehearses d d') {paths paths' : List String} (hsub : paths' ⊆ paths) :
    Rehearses { d with inputs := some paths } { d' with inputs := some paths' } :=
  { h with inputs_rel := .some hsub }

theorem withConfig (h : Rehearses d d') (path : String) :
    Rehearses { d with config := some path } { d' with config := some path } :=
  { h with config_eq := rfl }

theorem takeInputs (h : Rehearses d d') (ws : List (Word Choice)) :
    Rehearses (d.takeInputs ws).1 (d'.takeInputs ws).1 ∧
      (d'.takeInputs ws).2 = (d.takeInputs ws).2 := by
  unfold Draft.takeInputs
  cases takeMany ws with
  | none => exact ⟨h, rfl⟩
  | some taken => exact ⟨h.withInputs (List.Subset.refl _), rfl⟩

theorem takePlain (h : Rehearses d d') (ws : List (Word Choice)) :
    Rehearses (d.takePlain ws).1 (d'.takePlain ws).1 ∧
      (d'.takePlain ws).2 = (d.takePlain ws).2 := by
  have hrel := h.inputs_rel
  unfold Draft.takePlain
  rw [h.config_eq]
  cases d.config with
  | none =>
    dsimp only
    cases takeOne ws with
    | none => exact ⟨h, rfl⟩
    | some taken => exact (h.withConfig taken.1).takeInputs taken.2
  | some config =>
    cases hi : d.inputs with
    | none =>
      rw [hi] at hrel
      cases hi' : d'.inputs with
      | none => exact h.takeInputs ws
      | some paths =>
        rw [hi'] at hrel
        cases hrel
    | some paths =>
      rw [hi] at hrel
      cases hi' : d'.inputs with
      | none =>
        rw [hi'] at hrel
        cases hrel
      | some paths' => exact ⟨h, rfl⟩

theorem set (h : Rehearses d d') {choice : Choice} {value : Option String} {d₁ : Draft}
    (hset : d.set choice value = .ok d₁) :
    ∃ d₁', d'.set choice value = .ok d₁' ∧ Rehearses d₁ d₁' := by
  unfold Draft.set at hset ⊢
  cases choice with
  | help => cases hset
  | output =>
    cases hset
    exact ⟨_, rfl, { h with output_eq := rfl }⟩
  | rules =>
    cases hset
    exact ⟨_, rfl, { h with rules_eq := rfl }⟩
  | items =>
    cases hset
    exact ⟨_, rfl, { h with items_eq := rfl }⟩
  | continueOnFail =>
    cases hset
    exact ⟨_, rfl, { h with continueOnFail_eq := rfl }⟩
  | dryRun =>
    cases hset
    exact ⟨_, rfl, { h with }⟩
  | verbose =>
    cases hset
    exact ⟨_, rfl, { h with verbose_eq := rfl }⟩
  | threads =>
    cases value with
    | none =>
      cases hset
      exact ⟨_, rfl, { h with threads_eq := rfl }⟩
    | some s =>
      dsimp only at hset ⊢
      cases hn : Text.Numeral.read s with
      | error e =>
        rw [hn] at hset
        cases hset
      | ok n =>
        rw [hn] at hset
        cases hset
        exact ⟨_, rfl, { h with threads_eq := rfl }⟩

theorem setAll (h : Rehearses d d') {sets : List (Choice × Option String)} {d₁ : Draft}
    (hset : d.setAll sets = .ok d₁) : ∃ d₁', d'.setAll sets = .ok d₁' ∧ Rehearses d₁ d₁' := by
  induction sets generalizing d d' with
  | nil =>
    cases hset
    exact ⟨d', rfl, h⟩
  | cons set sets ih =>
    obtain ⟨choice, value⟩ := set
    rw [Draft.setAll] at hset
    cases hfirst : d.set choice value with
    | error e =>
      rw [hfirst] at hset
      cases hset
    | ok d₂ =>
      rw [hfirst] at hset
      obtain ⟨d₂', hfirst', h₂⟩ := h.set hfirst
      obtain ⟨d₁', hrest, h₁⟩ := ih h₂ hset
      exact ⟨d₁', by rw [Draft.setAll, hfirst']; exact hrest, h₁⟩

end Rehearses

/-- **What is rehearsed is read alike.** -/
theorem Reads.rehearsed (h : Reads d ws df) (hd : Rehearses d d') :
    ∃ df', Reads d' ws df' ∧ Rehearses df df' := by
  induction h generalizing d' with
  | done => exact ⟨d', .done, hd⟩
  | option hb hs hset _ ih =>
    obtain ⟨d₁', hset', h₁⟩ := hd.setAll hset
    obtain ⟨df', hrest, hf⟩ := ih h₁
    exact ⟨df', .option hb hs hset' hrest, hf⟩
  | @plain d df w ws hw htaken _ ih =>
    obtain ⟨htake, hrest⟩ := hd.takePlain (w :: ws)
    obtain ⟨df', hlater, hf⟩ := ih htake
    rw [← hrest] at hlater htaken
    exact ⟨df', .plain hw htaken hlater, hf⟩

/-! ### Reading without the word -/

theorem reads_dryWord_iff {vs : List (Word Choice)} :
    Reads d (dryWord :: vs) df ↔ Reads { d with dryRun := true } vs df := by
  constructor
  · intro h
    cases h with
    | option hb hs hset hlater =>
      cases bundleOf_dryWord.symm.trans hb
      cases (settings_dryWord vs).symm.trans hs
      cases hset
      exact hlater
    | plain hw _ _ => cases hw
  · exact fun h => .option bundleOf_dryWord (settings_dryWord vs) rfl h

theorem takePlain_of_config {config : String} (hconfig : d.config = some config)
    (hinputs : d.inputs = none) (ws : List (Word Choice)) : d.takePlain ws = d.takeInputs ws := by
  simp only [takePlain, hconfig, hinputs]

theorem takePlain_of_inputs {config : String} {inputs : List String}
    (hconfig : d.config = some config) (hinputs : d.inputs = some inputs)
    (ws : List (Word Choice)) : d.takePlain ws = (d, ws) := by
  simp only [takePlain, hconfig, hinputs]

/-- A draft that lacks nothing takes no plain words. -/
theorem Reads.not_isPositional {config : String} {inputs : List String} {w : Word Choice}
    (h : Reads d (w :: ws) df) (hconfig : d.config = some config)
    (hinputs : d.inputs = some inputs) : w.isPositional = false := by
  cases h with
  | option => rfl
  | plain hw htaken _ =>
    rw [takePlain_of_inputs hconfig hinputs] at htaken
    exact absurd htaken (Nat.lt_irrefl _)

/-- Plain words that a draft with a configuration reads are its inputs. -/
theorem Reads.exists_takeMany {config : String} {w : Word Choice} (h : Reads d (w :: ws) df)
    (hw : w.isPositional = true) (hconfig : d.config = some config) :
    d.inputs = none ∧ ∃ inputs rest, takeMany (w :: ws) = some (inputs, rest) ∧
      Reads { d with inputs := some inputs } rest df := by
  cases hinputs : d.inputs with
  | some inputs => cases hw.symm.trans (h.not_isPositional hconfig hinputs)
  | none =>
    cases h with
    | option => cases hw
    | plain _ htaken hlater =>
      rw [takePlain_of_config hconfig hinputs, takeInputs] at htaken hlater
      cases hmany : takeMany (w :: ws) with
      | none =>
        rw [hmany] at htaken
        exact absurd htaken (Nat.lt_irrefl _)
      | some taken =>
        rw [hmany] at hlater
        exact ⟨rfl, taken.1, taken.2, rfl, hlater⟩

/-- Separators in front are not counted among the inputs, but for one that is left out. -/
theorem takeMany_separator {inputs : List String} {rest : List (Word Choice)}
    (h : takeMany (.separator :: ws) = some (inputs, rest)) :
    ∃ inputs', takeMany ws = some (inputs', rest) ∧ inputs' ⊆ inputs := by
  unfold takeMany at h ⊢
  rw [List.dropWhile_cons_of_pos rfl] at h
  split at h
  next s ws' hdrop =>
    rw [List.takeWhile_cons_of_pos rfl, List.dropWhile_cons_of_pos rfl, List.map_cons, Word.text,
      List.erase_cons_head] at h
    cases h
    exact ⟨_, rfl, List.erase_subset⟩
  next => cases h

/-- Where the separators in front are left out, the inputs are found without another. -/
theorem takeMany_dropWhile {inputs : List String} {rest : List (Word Choice)}
    (h : takeMany ws = some (inputs, rest)) :
    ∃ inputs', takeMany (ws.dropWhile Word.isSeparator) = some (inputs', rest) ∧
      inputs' ⊆ inputs := by
  induction ws generalizing inputs with
  | nil => cases h
  | cons w ws ih =>
    cases w with
    | separator =>
      obtain ⟨inputs₁, h₁, hsub₁⟩ := takeMany_separator h
      obtain ⟨inputs', h', hsub'⟩ := ih h₁
      exact ⟨inputs', h', fun path hpath => hsub₁ (hsub' hpath)⟩
    | _ => exact ⟨inputs, h, List.Subset.refl _⟩

/-- The word can be taken out where it stands behind some words and in front of others. -/
def Removable (us vs : List (Word Choice)) : Prop :=
  ∀ d df, Reads d (us ++ dryWord :: vs) df → ∃ df', Reads d (us ++ vs) df' ∧ Rehearses df df'

theorem removable_nil (vs : List (Word Choice)) : Removable [] vs := fun d _ h =>
  (reads_dryWord_iff.1 h).rehearsed (.dry d)

theorem removable_option {choice : Choice} {spelling : String} {attached : Option String}
    {us vs : List (Word Choice)} (ih : ∀ us', us' <:+ us → Removable us' vs) :
    Removable (.option choice spelling attached :: us) vs := by
  intro d df h
  cases h with
  | plain hw _ _ => cases hw
  | @option _ d₁ _ _ _ _ b _ _ _ hb hs hset hlater =>
    obtain ⟨problem, hs₁⟩ | ⟨sets, us', hsuffix, hs₁, hs₂⟩ := b.settings_without us vs
    · cases hs₁.symm.trans hs
    · cases hs₁.symm.trans hs
      obtain ⟨df', hlater', hf⟩ := ih us' hsuffix d₁ df hlater
      exact ⟨df', .option hb hs₂ hset hlater', hf⟩

/-- Behind the configuration it does not matter for the inputs whether separators in front of them are
left out. -/
theorem Reads.skip_separators {config : String} {vs : List (Word Choice)} (h : Reads d vs df)
    (hconfig : d.config = some config) :
    let taken := d.takeInputs (vs.dropWhile Word.isSeparator)
    ∃ df', Reads taken.1 taken.2 df' ∧ Rehearses df df' := by
  have hplain {w : Word Choice} {ws : List (Word Choice)} (h : Reads d (w :: ws) df)
      (hw : w.isPositional = true) :
      let taken := d.takeInputs ((w :: ws).dropWhile Word.isSeparator)
      ∃ df', Reads taken.1 taken.2 df' ∧ Rehearses df df' := by
    obtain ⟨-, inputs, rest, hmany, hlater⟩ := h.exists_takeMany hw hconfig
    obtain ⟨inputs', hmany', hsub⟩ := takeMany_dropWhile hmany
    rw [takeInputs, hmany']
    exact hlater.rehearsed ((Rehearses.refl d).withInputs hsub)
  cases vs with
  | nil => exact ⟨df, h, .refl df⟩
  | cons w ws =>
    cases w with
    | plain s => exact hplain h rfl
    | separator => exact hplain h rfl
    | option choice spelling attached => exact ⟨df, h, .refl df⟩
    | unknown s => exact ⟨df, h, .refl df⟩

/-- Plain words are inputs up to the first word that is none. -/
theorem takeInputs_plain (d : Draft) (s : String) {us ws : List (Word Choice)}
    (hus : ∀ w ∈ us, w.isPositional = true) (hws : ∀ w ∈ ws.head?, w.isPositional = false) :
    d.takeInputs (.plain s :: (us ++ ws)) =
      ({ d with inputs := some ((s :: us.map Word.text).erase Word.separatorText) }, ws) := by
  have hall : ∀ w ∈ Word.plain s :: us, w.isPositional = true :=
    List.forall_mem_cons.2 ⟨rfl, hus⟩
  have hmany : takeMany (.plain s :: us) =
      some ((s :: us.map Word.text).erase Word.separatorText, []) := by
    unfold takeMany
    rw [List.dropWhile_cons_of_neg (by simp [Word.isSeparator]), List.takeWhile_eq_self_iff.2 hall,
      List.dropWhile_eq_nil_iff.2 hall, List.map_cons, Word.text]
  rw [← List.cons_append, takeInputs_append hws, takeInputs, hmany, List.nil_append]

/-- Among plain words, or behind them, the word can be taken out where the draft looks for inputs. -/
theorem Reads.takeInputs_without {config : String} {s : String} {us vs : List (Word Choice)}
    (ih : ∀ us', us' <:+ us → Removable us' vs) (hconfig : d.config = some config)
    (h : let taken := d.takeInputs (.plain s :: (us ++ dryWord :: vs))
      Reads taken.1 taken.2 df) :
    let taken := d.takeInputs (.plain s :: (us ++ vs))
    ∃ df', Reads taken.1 taken.2 df' ∧ Rehearses df df' := by
  -- the plain words in front, and what is left from the first option on
  obtain ⟨plains, rest, rfl, hplains, hrest⟩ : ∃ plains rest, us = plains ++ rest ∧
      (∀ w ∈ plains, w.isPositional = true) ∧ ∀ w ∈ rest.head?, w.isPositional = false := by
    refine ⟨us.takeWhile Word.isPositional, us.dropWhile Word.isPositional,
      List.takeWhile_append_dropWhile.symm, fun w hw => List.mem_takeWhile_imp hw, fun w hw => ?_⟩
    have hnot := List.head?_dropWhile_not Word.isPositional us
    rw [Option.mem_def.1 hw] at hnot
    exact hnot
  simp only [List.append_assoc] at h ⊢
  cases rest with
  | nil =>
    rw [List.nil_append] at h ⊢
    rw [takeInputs_plain d s hplains (by simp [dryWord, Word.isPositional]), reads_dryWord_iff] at h
    have hstop : ∀ w ∈ vs.head?, w.isPositional = false := by
      intro w hw
      obtain ⟨ws, rfl⟩ := List.head?_eq_some_iff.1 hw
      exact h.not_isPositional hconfig rfl
    rw [takeInputs_plain d s hplains hstop]
    exact h.rehearsed (.dry _)
  | cons w ws =>
    have hhead (more : List (Word Choice)) :
        ∀ v ∈ (w :: ws ++ more).head?, v.isPositional = false := hrest
    rw [takeInputs_plain d s hplains (hhead _)] at h ⊢
    exact ih _ (List.suffix_append _ _) _ _ h

/-- The first of the plain words that are met before a configuration is the configuration. -/
theorem takePlain_of_none (hconfig : d.config = none) (s : String) (ws : List (Word Choice)) :
    d.takePlain (.plain s :: ws) =
      { d with config := some s }.takeInputs (ws.dropWhile Word.isSeparator) := by
  unfold takePlain
  rw [hconfig]
  rfl

theorem length_takeInputs_le (d : Draft) (ws : List (Word Choice)) :
    (d.takeInputs ws).2.length ≤ ws.length := by
  obtain ⟨taken, hws, -⟩ := d.exists_takeInputs ws
  have hlen := congrArg List.length hws
  rw [List.length_append] at hlen
  omega

theorem reads_iff_of_none {s : String} (hconfig : d.config = none) :
    Reads d (.plain s :: ws) df ↔
      let taken := { d with config := some s }.takeInputs (ws.dropWhile Word.isSeparator)
      Reads taken.1 taken.2 df := by
  rw [← takePlain_of_none hconfig]
  constructor
  · intro h
    cases h with
    | plain _ _ hlater => exact hlater
  · refine .plain rfl ?_
    rw [takePlain_of_none hconfig]
    exact Nat.lt_succ_of_le ((length_takeInputs_le _ _).trans (List.length_dropWhile_le _ _))

theorem reads_iff_of_config {s config : String} (hconfig : d.config = some config)
    (hinputs : d.inputs = none) :
    Reads d (.plain s :: ws) df ↔
      let taken := d.takeInputs (.plain s :: ws)
      Reads taken.1 taken.2 df := by
  rw [← takePlain_of_config hconfig hinputs]
  constructor
  · intro h
    cases h with
    | plain _ _ hlater => exact hlater
  · refine .plain rfl ?_
    rw [takePlain_of_config hconfig hinputs]
    change (ws.dropWhile Word.isPositional).length < ws.length + 1
    exact Nat.lt_succ_of_le (List.length_dropWhile_le _ _)

/-- Behind the configuration the word can be taken out, whatever stands between both. -/
theorem Reads.takeInputs_dropWhile {config : String} {us vs : List (Word Choice)}
    (hus : ∀ w ∈ us, w.isSeparator = false) (ih : ∀ us', us' <:+ us → Removable us' vs)
    (hconfig : d.config = some config)
    (h : let taken := d.takeInputs ((us ++ dryWord :: vs).dropWhile Word.isSeparator)
      Reads taken.1 taken.2 df) :
    let taken := d.takeInputs ((us ++ vs).dropWhile Word.isSeparator)
    ∃ df', Reads taken.1 taken.2 df' ∧ Rehearses df df' := by
  cases us with
  | nil =>
    obtain ⟨df₁, h₁, hf₁⟩ := removable_nil vs d df h
    obtain ⟨df', hlater, hf⟩ := h₁.skip_separators hconfig
    exact ⟨df', hlater, hf₁.trans hf⟩
  | cons w us =>
    have hkept (more : List (Word Choice)) :
        (w :: us ++ more).dropWhile Word.isSeparator = w :: us ++ more :=
      List.dropWhile_cons_of_neg (by simp [hus w List.mem_cons_self])
    rw [hkept] at h ⊢
    cases w with
    | plain t =>
      exact h.takeInputs_without (fun us' hs => ih us' (hs.trans (List.suffix_cons _ _))) hconfig
    | separator => cases hus .separator List.mem_cons_self
    | option choice spelling attached => exact ih _ (List.suffix_refl _) d df h
    | unknown t => exact ih _ (List.suffix_refl _) d df h

/-- The word can be taken out behind a plain word. -/
theorem removable_plain {s : String} {us vs : List (Word Choice)}
    (hus : ∀ w ∈ us, w.isSeparator = false) (ih : ∀ us', us' <:+ us → Removable us' vs) :
    Removable (.plain s :: us) vs := by
  intro d df h
  rw [List.cons_append] at h ⊢
  cases hconfig : d.config with
  | none =>
    obtain ⟨df', hlater, hf⟩ :=
      ((reads_iff_of_none hconfig).1 h).takeInputs_dropWhile hus ih rfl
    exact ⟨df', (reads_iff_of_none hconfig).2 hlater, hf⟩
  | some config =>
    obtain ⟨hinputs, -⟩ := h.exists_takeMany rfl hconfig
    obtain ⟨df', hlater, hf⟩ :=
      ((reads_iff_of_config hconfig hinputs).1 h).takeInputs_without ih hconfig
    exact ⟨df', (reads_iff_of_config hconfig hinputs).2 hlater, hf⟩

/-- **The word can be taken out** where no separator stands in front of it. -/
theorem removable (us vs : List (Word Choice)) (hus : ∀ w ∈ us, w.isSeparator = false) :
    Removable us vs := by
  induction hlen : us.length using Nat.strongRecOn generalizing us with
  | ind n ih =>
    subst hlen
    cases us with
    | nil => exact removable_nil vs
    | cons w us =>
      have hsuffix (us' : List (Word Choice)) (hs : us' <:+ us) : Removable us' vs :=
        ih us'.length (Nat.lt_succ_of_le hs.length_le) us'
          (fun v hv => hus v (List.mem_cons_of_mem w (hs.subset hv))) rfl
      cases w with
      | plain s => exact removable_plain (fun v hv => hus v (List.mem_cons_of_mem _ hv)) hsuffix
      | option choice spelling attached => exact removable_option hsuffix
      | separator => cases hus .separator List.mem_cons_self
      | unknown s =>
        intro d df h
        cases h with
        | plain hw _ _ => cases hw

end Draft

/-! ### Whole command lines -/

/-- Some options rehearse others: they agree, but that the others may have fewer inputs and may be
without a dry run. -/
structure Options.Rehearses (o o' : Options) : Prop where
  config_eq : o'.config = o.config
  inputs_subset : o'.inputs ⊆ o.inputs
  output_eq : o'.output = o.output
  rules_eq : o'.rules = o.rules
  items_eq : o'.items = o.items
  continueOnFail_eq : o'.continueOnFail = o.continueOnFail
  threads_eq : o'.threads = o.threads
  verbose_eq : o'.verbose = o.verbose

theorem Draft.Rehearses.finish {d d' : Draft} {o : Options} (h : d.Rehearses d')
    (hd : d.finish = .ok o) : ∃ o', d'.finish = .ok o' ∧ o.Rehearses o' := by
  obtain ⟨hconfig, hinputs, houtput, hrules, hitems, hcontinue, hthreads, hverbose⟩ := h
  unfold Draft.finish at hd ⊢
  split at hd
  next config inputs output hc hi ho =>
    cases hd
    rw [hi] at hinputs
    rw [hc] at hconfig
    rw [ho] at houtput
    cases hi' : d'.inputs with
    | none =>
      rw [hi'] at hinputs
      cases hinputs
    | some paths =>
      rw [hi'] at hinputs
      cases hinputs with
      | some hsub =>
        rw [hconfig, houtput]
        exact ⟨_, rfl, rfl, hsub, rfl, hrules, hitems, hcontinue, hthreads, hverbose⟩
  next => cases hd

theorem readAll_dryText (after : List String) :
    Word.readAll Page.run.options (dryText :: after) =
      (Word.readAll Page.run.options after).map (dryWord :: ·) := by
  have hread : Word.read Page.run.options dryText = .ok dryWord := by decide
  rw [Word.readAll, if_neg (by decide), hread]

/-- **A command line without its dry run is read alike.** -/
theorem parse_without {before : List String} (hbefore : Word.separatorText ∉ before)
    (after : List String) :
    (∀ o, Options.parse (Page.runName :: (before ++ dryText :: after)) = .ok (some o) →
      ∃ o', Options.parse (Page.runName :: (before ++ after)) = .ok (some o') ∧ o.Rehearses o') ∧
    ∀ page, Options.parse (Page.runName :: (before ++ dryText :: after)) = .error (.help page) →
      Options.parse (Page.runName :: (before ++ after)) = .error (.help page) := by
  have hwords {ws : List (Word Choice)}
      (h : Word.readAll Page.run.options (before ++ dryText :: after) = .ok ws) :
      ∃ us vs, ws = us ++ dryWord :: vs ∧ (∀ w ∈ us, w.isSeparator = false) ∧
        Word.readAll Page.run.options (before ++ after) = .ok (us ++ vs) := by
    rw [Word.readAll_append hbefore, readAll_dryText] at h
    rw [Word.readAll_append hbefore]
    cases hus : Word.readAll Page.run.options before with
    | error e =>
      rw [hus] at h
      cases h
    | ok us =>
      cases hvs : Word.readAll Page.run.options after with
      | error e =>
        rw [hus, hvs] at h
        cases h
      | ok vs =>
        rw [hus, hvs] at h
        cases h
        exact ⟨us, vs, rfl, Word.isSeparator_of_readAll hbefore hus, rfl⟩
  rw [parse_run, parse_run]
  refine ⟨fun o ho => ?_, fun page hpage => ?_⟩
  · have hrun : parseRun (before ++ dryText :: after) = .ok (o, []) := by
      split at ho <;> cases ho
      assumption
    obtain ⟨ws, d, hws, hreads, hfinish⟩ := parseRun_eq_ok_iff.1 hrun
    obtain ⟨us, vs, rfl, hus, hws'⟩ := hwords hws
    obtain ⟨d', hreads', hd⟩ := Draft.removable us vs hus _ _ hreads
    obtain ⟨o', hfinish', ho'⟩ := hd.finish hfinish
    rw [parseRun_eq_ok_iff.2 ⟨_, d', hws', hreads', hfinish'⟩]
    exact ⟨o', rfl, ho'⟩
  · have hrun : parseRun (before ++ dryText :: after) = .error (.help page) := by
      split at hpage <;> cases hpage
      assumption
    obtain ⟨ws, hws, hstop⟩ := parseRun_eq_help_iff.1 hrun
    obtain ⟨us, vs, rfl, -, hws'⟩ := hwords hws
    obtain ⟨e, he⟩ | hsame := Draft.firstStop_without us vs
    · cases he.symm.trans hstop
    · rw [parseRun_eq_help_iff.2 ⟨_, hws', hsame.symm.trans hstop⟩]

end Harvest.Command
