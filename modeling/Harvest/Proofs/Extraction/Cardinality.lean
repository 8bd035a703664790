import Harvest.Proofs.Extraction.Correspondence
import Harvest.Proofs.Extraction.Mirror
import Harvest.Proofs.Extraction.ReadAhead

/-!
# Rules for all matches and for the first one

A rule for all matches makes a value of each match, and the rule for the first match, which is the
same but for that, makes one of the first.  What the latter makes of a node `m` is seen where `m` is
the first match; `View.offering` adds a node to a tree from which nothing but chosen nodes is found,
so that every node can be the first match somewhere.

The two check the rule at different moments, but for a node that there is both come to the same
(`valueOf`): the rule for the first match does it once, and the rule for all matches once for each
match, in order (`outcome_all`).  So its list is that of the values of the other rule, and when it
fails on some matches, it fails as the other does on the first of them on which that fails
(`all_matches_are_first_matches`).
-/

namespace Harvest.Extraction

variable {ν ν' α β : Type}

/-! ### Trees with a chosen first match -/

/-- An answer with its nodes replaced. -/
def Answer.map (f : ν → ν') : Answer ν → Answer ν'
  | .nodes matched => .nodes (matched.map f)
  | .nothing => .nothing
  | .malformed reason => .malformed reason
  | .failed error => .failed error

/-- A tree with one more node, `none`, from which every selector finds the same nodes. -/
def View.offering (view : View ν) (matched : List ν) : View (Option ν) where
  find
    | none, _ => .nodes (matched.map some)
    | some n, selector => (view.find n selector).map some
  text n := n.elim "" view.text
  attr n name := n.elim .null (view.attr · name)

theorem Answer.corresponds_map (f : ν → ν') (answer : Answer ν) :
    answer.Corresponds (fun n n' => f n = n') (answer.map f) := by
  cases answer with
  | nodes matched =>
    refine .nodes (List.forall₂_map_right_iff.2 (List.forall₂_same.2 fun _ _ => rfl))
  | nothing => exact .nothing
  | malformed reason => exact .malformed reason
  | failed error => exact .failed error

theorem View.resembles_offering (view : View ν) (matched : List ν) :
    view.Resembles (fun n n' => some n = n') (view.offering matched) where
  find {n n'} h selector := by
    cases h
    exact Answer.corresponds_map some _
  text h := by cases h; rfl
  attr h := by cases h; rfl

/-! ### Runs for the elements of a list -/

theorem forall₂_of_outcome_forAll {f : α → Run ν β} {as : List α} {bs : List β}
    (h : (Run.forAll f as).outcome = .ok bs) :
    List.Forall₂ (fun a b => (f a).outcome = .ok b) as bs := by
  induction as generalizing bs with
  | nil =>
    cases h
    exact .nil
  | cons a as ih =>
    obtain ⟨b, rest, hb, hrest, rfl⟩ := Run.outcome_forAll_eq_ok h
    exact .cons hb (ih hrest)

/-- Runs for the elements of a list fail as the first that fails. -/
theorem exists_of_outcome_forAll_eq_error {f : α → Run ν β} {as : List α} {failure : Failure}
    (h : (Run.forAll f as).outcome = .error failure) :
    ∃ before a after, as = before ++ a :: after ∧ (f a).outcome = .error failure ∧
      ∀ b ∈ before, ∃ v, (f b).outcome = .ok v := by
  induction as with
  | nil => cases h
  | cons a as ih =>
    rw [Run.forAll] at h
    cases ha : (f a).outcome with
    | error failure' =>
      rw [Run.bind_of_error ha] at h
      cases h
      exact ⟨[], a, as, rfl, ha, by simp⟩
    | ok v =>
      rw [Run.bind_of_ok ha] at h
      have hrest : (Run.forAll f as).outcome = .error failure := by
        cases hrest : (Run.forAll f as).outcome with
        | ok vs =>
          simp only [Run.map, hrest] at h
          cases h
        | error failure' =>
          simpa only [Run.map, hrest, Except.map] using h
      obtain ⟨before, a', after, rfl, hfails, hbefore⟩ := ih hrest
      exact ⟨a :: before, a', after, rfl, hfails, List.forall_mem_cons.2 ⟨⟨v, ha⟩, hbefore⟩⟩

/-! ### The value of one match -/

variable {view : View ν} {node : ν} {r : Rule} {selector : String}

/-- The run that makes the value of a node by a rule, unless the rule has a flaw. -/
def valueOf (view : View ν) (r : Rule) (m : ν) : Run ν Value :=
  (sound r r.plan).bind fun _ => follow view r r.plan m

theorem outcome_resolve_singleton (view : View ν) (node : ν) (r : Rule) :
    (resolve view node [r]).outcome = (applyRule view node r).outcome.map (store r []) := by
  rw [resolve_singleton]
  rfl

/-- A rule for the first match stores the value of it. -/
theorem outcome_first (hm : r.multi ≠ some true) (hs : r.selector = some selector)
    (hne : selector ≠ "") {m : ν} {rest : List ν}
    (hf : view.find node selector = .nodes (m :: rest)) :
    (resolve view node [r]).outcome = (valueOf view r m).outcome.map fun v => [(r.name, v)] := by
  have hcollect : collect r r.plan (fun m => follow view r r.plan m) (.nodes (m :: rest)) =
      (valueOf view r m).map some := by
    rw [valueOf, Run.map_bind, collect, if_neg hm]
  rw [outcome_resolve_singleton, applyRule_of_searches hs hne, hf, hcollect]
  change ((valueOf view r m).outcome.map some).map (store r []) = _
  cases (valueOf view r m).outcome <;> rfl

/-- A rule for all matches, if there are some, stores the list of their values. -/
theorem outcome_all (hm : r.multi = some true) (hs : r.selector = some selector)
    (hne : selector ≠ "") {ms : List ν} (hms : ms ≠ [])
    (hf : view.find node selector = .nodes ms) :
    (resolve view node [r]).outcome =
      (Run.forAll (valueOf view r) ms).outcome.map fun vs => [(r.name, .list vs)] := by
  obtain ⟨m, rest, rfl⟩ := List.exists_cons_of_ne_nil hms
  -- the rule is checked once and not for each match, which makes no difference to the outcome
  have honce : ((sound r r.plan).bind fun _ =>
        Run.forAll (fun m => follow view r r.plan m) (m :: rest)).outcome =
      (Run.forAll (valueOf view r) (m :: rest)).outcome := by
    unfold valueOf sound
    cases r.plan.flaw? with
    | some flaw => rfl
    | none => simp only [Run.pure_bind]
  have hcollect : collect r r.plan (fun m => follow view r r.plan m) (.nodes (m :: rest)) =
      ((sound r r.plan).bind fun _ =>
        Run.forAll (fun m => follow view r r.plan m) (m :: rest)).map
          fun vs => some (.list vs) := by
    rw [Run.map_bind, collect, if_pos hm]
  rw [outcome_resolve_singleton, applyRule_of_searches hs hne, hf, hcollect, Run.map, honce]
  cases (Run.forAll (valueOf view r) (m :: rest)).outcome <;> rfl

/-- A rule for all matches that finds none stores the empty list, if it can be used. -/
theorem outcome_all_of_unmatched {es : Entries} (hm : r.multi = some true)
    (hs : r.selector = some selector) (hne : selector ≠ "")
    (hf : view.find node selector = .nodes [])
    (h : (resolve view node [r]).outcome = .ok es) : es = [(r.name, .list [])] := by
  rw [outcome_resolve_singleton, applyRule_of_searches hs hne, hf, collect, if_pos hm] at h
  cases hsound : (sound r r.plan : Run ν Unit).outcome with
  | error failure =>
    rw [Run.bind_of_error hsound] at h
    cases h
  | ok u =>
    rw [Run.bind_of_ok hsound] at h
    cases h
    rfl

/-- What a rule for all matches stores is the list of their values. -/
theorem exists_values_of_all {ms : List ν} {es : Entries} (hm : r.multi = some true)
    (hs : r.selector = some selector) (hne : selector ≠ "")
    (hf : view.find node selector = .nodes ms) (h : (resolve view node [r]).outcome = .ok es) :
    ∃ vs, es = [(r.name, .list vs)] ∧
      List.Forall₂ (fun m v => (valueOf view r m).outcome = .ok v) ms vs := by
  by_cases hms : ms = []
  · subst hms
    exact ⟨[], outcome_all_of_unmatched hm hs hne hf h, .nil⟩
  · rw [outcome_all hm hs hne hms hf] at h
    cases hvs : (Run.forAll (valueOf view r) ms).outcome with
    | error failure =>
      rw [hvs] at h
      cases h
    | ok vs =>
      rw [hvs] at h
      cases h
      exact ⟨vs, rfl, forall₂_of_outcome_forAll hvs⟩

/-- A rule for all matches fails as the making of the first value that fails. -/
theorem exists_failing_of_all {ms : List ν} {failure : Failure} (hm : r.multi = some true)
    (hs : r.selector = some selector) (hne : selector ≠ "") (hms : ms ≠ [])
    (hf : view.find node selector = .nodes ms)
    (h : (resolve view node [r]).outcome = .error failure) :
    ∃ before m after, ms = before ++ m :: after ∧ (valueOf view r m).outcome = .error failure ∧
      ∀ b ∈ before, ∃ v, (valueOf view r b).outcome = .ok v := by
  rw [outcome_all hm hs hne hms hf] at h
  cases hvs : (Run.forAll (valueOf view r) ms).outcome with
  | ok vs =>
    rw [hvs] at h
    cases h
  | error failure' =>
    rw [hvs] at h
    cases h
    exact exists_of_outcome_forAll_eq_error hvs

/-! ### Both cardinalities -/

theorem plan_withMulti (r : Rule) (multi : Option Bool) :
    ({ r with multi } : Rule).plan = r.plan := by
  rw [Rule.plan_eq, Rule.plan_eq r]
  rfl

/-- The failures of two runs are told alike. -/
def ToldAlike (f f' : Failure) : Prop :=
  f'.told = f.told

theorem ToldAlike.refl (f : Failure) : ToldAlike f f := rfl

/-- Of a node that there is, both cardinalities of a rule make the same value. -/
theorem corresponds_valueOf (r : Rule) (multi multi' : Option Bool) (m : ν) :
    Run.Corresponds ToldAlike Eq (valueOf view { r with multi } m)
      (valueOf view { r with multi := multi' } m) := by
  unfold valueOf
  rw [plan_withMulti r multi, plan_withMulti r multi']
  cases r.plan with
  | flawed flaw =>
    refine Run.corresponds_fail ?_
    cases flaw <;> rfl
  | text => exact Run.corresponds_refl ToldAlike.refl (fun _ => rfl) _
  | attr name => exact Run.corresponds_refl ToldAlike.refl (fun _ => rfl) _
  | object steps => exact Run.corresponds_refl ToldAlike.refl (fun _ => rfl) _

/-- Wherever a node that looks the same is the first match, a rule for the first match does the
same. -/
theorem outcome_first_of_resembles {ρ : ν → ν' → Prop} {view' : View ν'}
    (h : view.Resembles ρ view') (hm : r.multi ≠ some true) (hs : r.selector = some selector)
    (hne : selector ≠ "") {m : ν} {m' node' : ν'} {rest : List ν'} (hmatch : ρ m m')
    (hf : view'.find node' selector = .nodes (m' :: rest)) :
    (resolve view' node' [r]).outcome = (valueOf view r m).outcome.map fun v => [(r.name, v)] := by
  have hvalue : (valueOf view' r m').outcome = (valueOf view r m).outcome := by
    refine Run.corresponds_eq_iff.1 (Run.Corresponds.bind (R := Eq) ?_ fun _ _ _ => ?_)
    · unfold sound
      split
      · exact Run.corresponds_fail rfl
      · exact Run.corresponds_pure rfl
    · exact resembles_follow h r r.plan m m' hmatch
  rw [outcome_first hm hs hne hf, hvalue]

/-- **A rule for all matches is the rule for the first match, mapped over the matches.**  Take a
rule that searches, and a node from which its selector finds some nodes.  What the rule for the first
match yields where a node is that first match (`single`) is the same in every tree in which the node
looks the same, whatever else is found.

If the rule for all matches yields a map, it holds a list with one value for each match, in order,
which is the one that the rule for the first match yields there.  So that rule yields the first value
of the list, if there is a match; otherwise the list is empty, and it yields nothing.  If there are
matches and the rule for all of them fails, it fails with what is told of the rule for the first match
where the first match is one on which that rule fails, and it does not fail on any match before. -/
theorem all_matches_are_first_matches (view : View ν) (node : ν) (r : Rule) {selector : String}
    (hs : r.selector = some selector) (hne : selector ≠ "") {ms : List ν}
    (hf : view.find node selector = .nodes ms) {multi : Option Bool} (hm : multi ≠ some true) :
    let all : Rule := { r with multi := some true }
    let first : Rule := { r with multi }
    let single (m : ν) := (resolve (view.offering [m]) none [first]).outcome
    (∀ (m : ν) (ν' : Type) (ρ : ν → ν' → Prop) (view' : View ν') (node' m' : ν') (rest : List ν'),
      view.Resembles ρ view' → ρ m m' → view'.find node' selector = .nodes (m' :: rest) →
        (resolve view' node' [first]).outcome = single m) ∧
    (∀ es, (resolve view node [all]).outcome = .ok es → ∃ values, es = [(r.name, .list values)] ∧
      List.Forall₂ (fun m v => single m = .ok [(r.name, v)]) ms values ∧
      (ms ≠ [] → ∃ v, values.head? = some v ∧
        (resolve view node [first]).outcome = .ok [(r.name, v)]) ∧
      (ms = [] → values = [])) ∧
    (ms = [] → (resolve view node [first]).outcome = .ok []) ∧
    (ms ≠ [] → ∀ failure, (resolve view node [all]).outcome = .error failure →
      ∃ before m after failure', ms = before ++ m :: after ∧ single m = .error failure' ∧
        failure'.told = failure.told ∧
        ∀ b ∈ before, ∃ v, single b = .ok [(r.name, v)]) := by
  intro all first single
  have hfirst {ν' : Type} {ρ : ν → ν' → Prop} {view' : View ν'} (h : view.Resembles ρ view')
      {m : ν} {m' node' : ν'} {rest : List ν'} (hmatch : ρ m m')
      (hf' : view'.find node' selector = .nodes (m' :: rest)) :
      (resolve view' node' [first]).outcome =
        (valueOf view first m).outcome.map fun v => [(r.name, v)] :=
    outcome_first_of_resembles (r := first) h hm hs hne hmatch hf'
  have hsingle (m : ν) : single m = (valueOf view first m).outcome.map fun v => [(r.name, v)] :=
    hfirst (view.resembles_offering [m]) rfl rfl
  have hvalue (m : ν) : Run.Corresponds ToldAlike Eq (valueOf view all m) (valueOf view first m) :=
    corresponds_valueOf r (some true) multi m
  have hyields {m : ν} {v : Value} (h : (valueOf view all m).outcome = .ok v) :
      single m = .ok [(r.name, v)] := by
    obtain ⟨w, hw, rfl⟩ := (hvalue m).exists_ok h
    rw [hsingle, hw]
    rfl
  refine ⟨fun m ν' ρ view' node' m' rest h hmatch hf' => ?_, fun es hes => ?_, fun hms => ?_,
    fun hms failure hfailure => ?_⟩
  · rw [hfirst h hmatch hf', hsingle]
  · obtain ⟨vs, hlist, hvs⟩ := exists_values_of_all (r := all) rfl hs hne hf hes
    have heach : List.Forall₂ (fun m v => single m = .ok [(r.name, v)]) ms vs :=
      hvs.imp fun _ _ => hyields
    refine ⟨vs, hlist, heach, fun hms => ?_, fun hms => ?_⟩
    · -- the node itself is where the first match is the first match
      cases heach with
      | nil => exact absurd rfl hms
      | cons hv _ =>
        refine ⟨_, rfl, ?_⟩
        rw [hfirst view.resembles_refl rfl hf, ← hsingle, hv]
    · subst hms
      cases heach
      rfl
  · subst hms
    have hunmatched := applyRule_of_unmatched (r := first) hm hs hf
    rw [outcome_resolve_singleton, hunmatched]
    rfl
  · obtain ⟨before, m, after, hsplit, hm', hbefore⟩ :=
      exists_failing_of_all (r := all) rfl hs hne hms hf hfailure
    obtain ⟨failure', hfailure', htold⟩ := (hvalue m).exists_error hm'
    refine ⟨before, m, after, failure', hsplit, ?_, htold, fun b hb => ?_⟩
    · rw [hsingle, hfailure']
      rfl
    · obtain ⟨v, hv⟩ := hbefore b hb
      exact ⟨v, hyields hv⟩

theorem plan_listing : listing.plan = .object [(title, .text)] := by
  have htitle : title.plan = .text := by
    rw [Rule.plan_eq]
    rfl
  have hnested : listing.nested = .ok [title] := rfl
  rw [Rule.plan_of_kind_object rfl hnested, Rule.plans, List.map_singleton, htitle]

/-- In a tree where the second of two entries cannot be searched for a title, the rule for all
entries fails as the rule for the first entry does on the second. -/
theorem all_matches_are_first_matches_entries :
    let first : Rule := { listing with multi := none }
    let single (m : Nat) := (resolve (catalogue.offering [m]) none [first]).outcome
    listing.selector = some "li" ∧ "li" ≠ "" ∧ catalogue.find 0 "li" = .nodes [1, 2] ∧
      (none : Option Bool) ≠ some true ∧
      ∃ failure failure', (resolve catalogue 0 [listing]).outcome = .error failure ∧
        single 2 = .error failure' ∧ failure'.told = failure.told ∧
        ∃ v, single 1 = .ok [("entries", v)] := by
  intro first single
  have hsteps {r : Rule} (h : r.plan = .object [(title, .text)]) :
      Rule.plans [r] = [(r, .object [(title, .text)])] := by
    rw [Rule.plans, List.map_singleton, h]
  obtain ⟨failure, hall⟩ :
      ∃ failure, (resolve catalogue 0 [listing]).outcome = .error failure := by
    rw [resolve, hsteps plan_listing]
    exact ⟨_, rfl⟩
  obtain ⟨es, hes⟩ : ∃ es, single 1 = .ok es := by
    simp only [single]
    rw [resolve, hsteps ((plan_withMulti listing none).trans plan_listing)]
    exact ⟨_, rfl⟩
  have hf : catalogue.find 0 "li" = .nodes [1, 2] := rfl
  have hfirst : (none : Option Bool) ≠ some true := by decide
  have h := all_matches_are_first_matches catalogue 0 listing rfl (by decide) hf hfirst
  obtain ⟨before, m, after, failure', hsplit, hm, htold, hbefore⟩ :=
    h.2.2.2 (by simp) failure hall
  refine ⟨rfl, by decide, hf, hfirst, failure, failure', hall, ?_⟩
  -- the entry that it fails on is not the first one
  rcases before with _ | ⟨b, _ | ⟨b', before⟩⟩
  · cases hsplit
    cases hes.symm.trans hm
  · cases hsplit
    exact ⟨hm, htold, hbefore 1 (by simp)⟩
  · simp at hsplit

end Harvest.Extraction
