import Harvest.Proofs.Extraction.Sequence
import Harvest.Proofs.Rule.Usable
import Mathlib.Algebra.Group.Int.Defs

/-!
# The rules that an extraction reaches

A rule is reached at a node when it searches there; a rule without a selector never does.  `visits`
lists the places where the rules of a list are reached, in the order of an extraction that nothing
stops: rule by rule and, behind a rule for maps, match by match the visits of its inner rules.  A
visit can be bad (`Visit.Bad`), because the selector is malformed or because a value is wanted of
a rule that cannot be used.

On a tree that answers searches with nodes or calls the selector malformed (`View.Plain`), an
extraction goes along its visits up to the first bad one (`tracks_resolve`).  So it fails exactly
when a bad rule is reached, and it is the first one that is blamed, unless its flaw cannot be told
(`resolve_fails_at_first_bad`).
-/

namespace Harvest.Extraction

variable {ν α β : Type}

/-! ### Searches -/

/-- The search that an access is, if it is one. -/
def Access.search? : Access ν → Option (ν × String)
  | .find node selector => some (node, selector)
  | _ => none

/-- The searches of a run, in order. -/
def Run.searches (x : Run ν α) : List (ν × String) :=
  x.accesses.filterMap Access.search?

theorem Run.searches_bind_of_ok {x : Run ν α} {a : α} (h : x.outcome = .ok a)
    (f : α → Run ν β) : (x.bind f).searches = x.searches ++ (f a).searches := by
  rw [bind_of_ok h]
  exact List.filterMap_append

theorem Run.searches_bind_of_error {x : Run ν α} {failure : Failure}
    (h : x.outcome = .error failure) (f : α → Run ν β) : (x.bind f).searches = x.searches := by
  rw [bind_of_error h]
  rfl

/-- A tree that answers every search with nodes, unless the selector is malformed, and of which
an attribute is absent, a text or a list of texts. -/
structure View.Plain (view : View ν) : Prop where
  /-- What a search may be answered with. -/
  find : ∀ node selector, (∃ matched, view.find node selector = .nodes matched) ∨
    ∃ reason, view.find node selector = .malformed reason
  /-- What an attribute may be. -/
  attr : ∀ node name, view.attr node name = .null ∨ (∃ s, view.attr node name = .text s) ∨
    ∃ texts : List String, view.attr node name = .list (texts.map .text)

/-! ### Visits -/

/-- A rule that is reached at a node. -/
structure Visit (ν : Type) where
  /-- The node below which the rule searches. -/
  node : ν
  /-- The rule. -/
  rule : Rule

/-- The search of a visit. -/
def Visit.query (v : Visit ν) : ν × String :=
  (v.node, v.rule.selector.getD "")

/-- The answer to the search of a visit. -/
def Visit.answer (view : View ν) (v : Visit ν) : Answer ν :=
  view.find v.node (v.rule.selector.getD "")

/-- The ways in which a visit ends an extraction. -/
inductive Visit.Bad (view : View ν) (v : Visit ν) : Prop where
  /-- The selector is malformed. -/
  | selector {reason : String} (h : v.answer view = .malformed reason)
  /-- A value is wanted, of all matches or of one that there is, and the rule cannot be used. -/
  | rule {matched : List ν} (h : v.answer view = .nodes matched)
      (hm : v.rule.multi = some true ∨ matched ≠ []) (hr : v.rule.Unusable)

/-- What is wrong with a visit that is bad: the selector is malformed for a reason, or the rule has a
flaw. -/
def Visit.Shows (view : View ν) (v : Visit ν) (flaw : Rule.Flaw) : Prop :=
  (∃ reason, v.answer view = .malformed reason ∧ flaw = .selector reason) ∨
    (∃ matched, v.answer view = .nodes matched) ∧ v.rule.plan = .flawed flaw

/-- What is wrong with a visit cannot be told: the selector is in order, and the rule has a flaw of
which the message would show an integer with too many digits. -/
def Visit.Untellable (view : View ν) (v : Visit ν) : Prop :=
  (∃ matched, v.answer view = .nodes matched) ∧ v.rule.Untellable

theorem Visit.Shows.untold_iff {view : View ν} {v : Visit ν} {flaw : Rule.Flaw}
    (h : v.Shows view flaw) : flaw = .untold ↔ v.Untellable view := by
  unfold Visit.Untellable
  rw [← Rule.plan_eq_untold_iff]
  rcases h with ⟨reason, ha, rfl⟩ | ⟨hnodes, hplan⟩
  · simp [ha]
  · simp [hnodes, hplan]

/-- The matches that a rule makes values of: all, or the first one. -/
def chosen (r : Rule) : Answer ν → List ν
  | .nodes matched => if r.multi = some true then matched else matched.take 1
  | _ => []

/-- The visits of a rule and of its inner rules, from a node where the rule is applied. -/
def trail (view : View ν) (node : ν) (r : Rule) : List (Visit ν) :=
  match r.selector with
  | none => []
  | some "" => []
  | some selector =>
    ⟨node, r⟩ :: (chosen r (view.find node selector)).flatMap fun m =>
      r.inner.attach.flatMap fun ⟨r', h⟩ =>
        have := Rule.depth_lt_of_mem_inner h
        trail view m r'
  termination_by r.source.depth

/-- The visits of some rules, from a node where they are applied in order. -/
def visits (view : View ν) (node : ν) (rules : List Rule) : List (Visit ν) :=
  rules.flatMap (trail view node)

theorem trail_of_selector {view : View ν} {node : ν} {r : Rule} {selector : String}
    (h : r.selector = some selector) (hne : selector ≠ "") :
    trail view node r =
      ⟨node, r⟩ :: (chosen r (view.find node selector)).flatMap fun m =>
        visits view m r.inner := by
  rw [trail]
  split
  next h' => rw [h] at h'; cases h'
  next h' => rw [h] at h'; cases h'; exact absurd rfl hne
  next s _ h' =>
    cases h.symm.trans h'
    simp [visits, List.flatMap]

/-- A rule without a selector is not reached. -/
theorem selector_of_mem_trail {view : View ν} {node : ν} {r : Rule} {v : Visit ν}
    (h : v ∈ trail view node r) : v.rule.selector ≠ none ∧ v.rule.selector ≠ some "" := by
  induction r using Rule.inner_induction generalizing node with
  | step r ih =>
    cases hs : r.selector with
    | none => simp [trail, hs] at h
    | some selector =>
      by_cases hne : selector = ""
      · subst hne
        simp [trail, hs] at h
      · rw [trail_of_selector hs hne] at h
        rcases List.mem_cons.1 h with rfl | h
        · simp [hs, hne]
        · obtain ⟨m, -, h⟩ := List.mem_flatMap.1 h
          obtain ⟨r', hr', h⟩ := List.mem_flatMap.1 h
          exact ih r' hr' h

/-! ### Runs along visits -/

/-- A run goes along a list of visits: it searches as they do, up to the first bad one, which is
what it fails with; where none is bad it yields a result. -/
inductive Tracks (view : View ν) (x : Run ν α) (vs : List (Visit ν)) : Prop where
  /-- No visit is bad. -/
  | done {a : α} (h : x.outcome = .ok a) (good : ∀ v ∈ vs, ¬ v.Bad view)
      (hs : x.searches = vs.map Visit.query)
  /-- A visit is bad, and none before it. -/
  | stopped {before after : List (Visit ν)} {v : Visit ν} {flaw : Rule.Flaw}
      (hvs : vs = before ++ v :: after) (good : ∀ w ∈ before, ¬ w.Bad view) (bad : v.Bad view)
      (shows : v.Shows view flaw) (h : x.outcome = .error (.ofFlaw v.rule flaw))
      (hs : x.searches = (before ++ [v]).map Visit.query)

namespace Tracks

variable {view : View ν}

theorem pure (a : α) : Tracks view (Run.pure a : Run ν α) [] :=
  .done rfl (by simp) rfl

theorem bind {x : Run ν α} {f : α → Run ν β} {vs ws : List (Visit ν)} (hx : Tracks view x vs)
    (hf : ∀ a, x.outcome = .ok a → Tracks view (f a) ws) : Tracks view (x.bind f) (vs ++ ws) := by
  cases hx with
  | @done a h good hs =>
    -- the second run decides, and its visits come behind those of the first
    have hb := Run.searches_bind_of_ok h f
    rcases hf a h with ⟨h', good', hs'⟩ | ⟨rfl, good', bad, shows, h', hs'⟩
    · refine .done (by rw [Run.bind_of_ok h]; exact h') (fun v hv => ?_) ?_
      · exact (List.mem_append.1 hv).elim (good v) (good' v)
      · rw [hb, hs, hs', List.map_append]
    · refine .stopped (List.append_assoc ..).symm (fun w hw => ?_) bad shows
        (by rw [Run.bind_of_ok h]; exact h') ?_
      · exact (List.mem_append.1 hw).elim (good w) (good' w)
      · rw [hb, hs, hs', ← List.map_append, List.append_assoc]
  | stopped hvs good bad shows h hs =>
    subst hvs
    refine .stopped (List.append_assoc ..) good bad shows (by rw [Run.bind_of_error h]) ?_
    rw [Run.searches_bind_of_error h, hs]

theorem map {x : Run ν α} {vs : List (Visit ν)} (hx : Tracks view x vs) (f : α → β) :
    Tracks view (x.map f) vs := by
  rw [Run.map_eq_bind, ← List.append_nil vs]
  exact hx.bind fun a _ => pure (f a)

theorem forAll {f : α → Run ν β} {vs : α → List (Visit ν)} (hf : ∀ a, Tracks view (f a) (vs a))
    (as : List α) : Tracks view (Run.forAll f as) (as.flatMap vs) := by
  induction as with
  | nil => exact pure []
  | cons a as ih => exact (hf a).bind fun b _ => ih.map (b :: ·)

/-- A look at a text or an attribute is no search. -/
theorem access {what : Access ν} (h : what.search? = none) (a : α) :
    Tracks view (Run.access what a) [] :=
  .done rfl (by simp) (by simp [Run.searches, Run.access, h])

/-- The search of a good visit. -/
theorem search {v : Visit ν} (hv : ¬ v.Bad view) (a : α) :
    Tracks view (Run.access (.find v.node (v.rule.selector.getD "")) a) [v] :=
  .done rfl (by simpa using hv) rfl

/-- The search of a bad visit, behind which nothing comes. -/
theorem stop {v : Visit ν} {flaw : Rule.Flaw} (hv : v.Bad view) (shows : v.Shows view flaw) (a : β)
    {f : β → Run ν α} (hf : f a = .fail (.ofFlaw v.rule flaw)) (ws : List (Visit ν)) :
    Tracks view ((Run.access (.find v.node (v.rule.selector.getD "")) a).bind f) (v :: ws) := by
  have h : ((Run.access (.find v.node (v.rule.selector.getD "")) a).bind f).outcome =
      .error (.ofFlaw v.rule flaw) := by
    rw [Run.bind_of_ok rfl, hf]
    rfl
  refine .stopped (List.nil_append _).symm (by simp) hv shows h ?_
  rw [Run.searches_bind_of_ok rfl, hf]
  rfl

end Tracks

/-! ### The run of a rule -/

variable {view : View ν}

theorem sound_of_usable {r : Rule} (h : ¬ r.Unusable) : sound r r.plan = (.pure () : Run ν Unit) := by
  have hno : r.plan.flaw? = none := by
    cases hp : r.plan with
    | flawed flaw => exact absurd (Rule.unusable_iff.2 ⟨flaw, hp⟩) h
    | _ => rfl
  rw [sound, hno]

theorem sound_of_flawed {r : Rule} {flaw : Rule.Flaw} (h : r.plan = .flawed flaw) :
    sound r r.plan = (.fail (.ofFlaw r flaw) : Run ν Unit) := by
  rw [sound, h]
  rfl

theorem textsFrom_map_text (index : Nat) (texts : List String) :
    textsFrom index (texts.map .text) = .ok texts := by
  induction texts generalizing index with
  | nil => rfl
  | cons s texts ih => simp [textsFrom, ih, Except.map]

theorem View.Plain.attributeText (hv : view.Plain) (node : ν) (name : String) :
    ∃ s, attributeText (view.attr node name) = .ok s := by
  rcases hv.attr node name with h | ⟨s, h⟩ | ⟨texts, h⟩
  · exact ⟨"", by rw [h]; rfl⟩
  · exact ⟨_, by rw [h]; rfl⟩
  · exact ⟨" ".intercalate texts, by rw [h, Extraction.attributeText, textsFrom_map_text]; rfl⟩

theorem tracks_readAttribute (hv : view.Plain) (name : Option String) (node : ν) :
    Tracks view (readAttribute view name node) [] := by
  unfold readAttribute
  split
  · exact .pure _
  · exact .pure _
  next name _ =>
    change Tracks view _ ([] ++ [])
    refine (Tracks.access (by rfl) _).bind fun a h => ?_
    cases h
    obtain ⟨s, hs⟩ := hv.attributeText node name
    rw [hs]
    exact .pure _

/-- Rules in a row go along their visits when each of them does. -/
theorem tracks_fill {rules : List Rule} {node : ν}
    (h : ∀ r ∈ rules, Tracks view (applyRule view node r) (trail view node r)) (acc : Entries) :
    Tracks view (fill view node (Rule.plans rules) acc) (visits view node rules) := by
  induction rules generalizing acc with
  | nil => exact .pure acc
  | cons r rules ih =>
    rw [fill_plans_cons]
    exact (h r List.mem_cons_self).bind fun v _ =>
      ih (fun r' h' => h r' (List.mem_cons_of_mem _ h')) _

/-- The value of a rule that can be used is made along the visits of its inner rules. -/
theorem tracks_follow (hv : view.Plain) {r : Rule} (hr : ¬ r.Unusable)
    (ih : ∀ r' ∈ r.inner, ∀ node, Tracks view (applyRule view node r') (trail view node r'))
    (node : ν) : Tracks view (follow view r r.plan node) (visits view node r.inner) := by
  have hp := Rule.planned_plan r
  generalize r.plan = p at hp ⊢
  cases hp with
  | text hk hn =>
    rw [Rule.inner_of_kind hk (by decide)]
    exact .access (by rfl) _
  | attr hk hn =>
    rw [Rule.inner_of_kind hk (by decide)]
    exact tracks_readAttribute hv _ node
  | object hk hn =>
    rw [Rule.inner_of_nested hk hn] at ih ⊢
    rw [follow]
    exact (tracks_fill (fun r' h' => ih r' h' node) []).map Value.map
  | flawed h => exact absurd h hr

theorem collect_of_bad {r : Rule} {node : ν} (hbad : Visit.Bad view ⟨node, r⟩)
    (value : ν → Run ν Value) :
    ∃ flaw, Visit.Shows view ⟨node, r⟩ flaw ∧
      collect r r.plan value (Visit.answer view ⟨node, r⟩) = .fail (.ofFlaw r flaw) := by
  cases hbad with
  | @selector reason h => exact ⟨.selector reason, .inl ⟨reason, h, rfl⟩, by rw [h]; rfl⟩
  | @rule matched h hm hr =>
    obtain ⟨flaw, hp⟩ := Rule.unusable_iff.1 hr
    have hs : sound r r.plan = (.fail (.ofFlaw r flaw) : Run ν Unit) := sound_of_flawed hp
    refine ⟨flaw, .inr ⟨⟨matched, h⟩, hp⟩, ?_⟩
    simp only [h, collect, hs]
    split_ifs with hmulti
    · rfl
    · cases matched with
      | nil => exact absurd rfl (hm.resolve_left hmulti)
      | cons m ms => rfl

theorem tracks_collect (hv : view.Plain) {r : Rule} {node : ν}
    (hgood : ¬ Visit.Bad view ⟨node, r⟩) {value : ν → Run ν Value} {vs : ν → List (Visit ν)}
    (hvalue : ¬ r.Unusable → ∀ m, Tracks view (value m) (vs m)) :
    Tracks view (collect r r.plan value (Visit.answer view ⟨node, r⟩))
      ((chosen r (Visit.answer view ⟨node, r⟩)).flatMap vs) := by
  rcases hv.find node (r.selector.getD "") with ⟨matched, h⟩ | ⟨reason, h⟩
  · have ha : Visit.answer view ⟨node, r⟩ = .nodes matched := h
    -- a value is wanted only of a rule that can be used, since the visit is good
    have hr (hm : r.multi = some true ∨ matched ≠ []) : ¬ r.Unusable :=
      fun hr => hgood (.rule ha hm hr)
    simp only [ha, collect, chosen]
    split_ifs with hmulti
    · have hr := hr (.inl hmulti)
      rw [sound_of_usable hr, Run.pure_bind]
      exact (Tracks.forAll (hvalue hr) matched).map _
    · cases matched with
      | nil => exact .pure none
      | cons m ms =>
        have hr := hr (.inr (List.cons_ne_nil m ms))
        simp only [sound_of_usable hr, Run.pure_bind, List.take_succ_cons, List.take_zero,
          List.flatMap_cons, List.flatMap_nil, List.append_nil]
        exact (hvalue hr m).map some
  · exact absurd (.selector h) hgood

/-- **A rule goes along its visits.** -/
theorem tracks_applyRule (hv : view.Plain) (r : Rule) (node : ν) :
    Tracks view (applyRule view node r) (trail view node r) := by
  induction r using Rule.inner_induction generalizing node with
  | step r ih =>
    unfold applyRule apply
    split
    next h =>
      rw [trail, h]
      exact .pure none
    next h =>
      rw [trail, h]
      exact .pure none
    next selector hne h =>
      have hsel : r.selector.getD "" = selector := by rw [h]; rfl
      have ha : view.find node selector = Visit.answer view ⟨node, r⟩ := by
        rw [Visit.answer, hsel]
      rw [trail_of_selector h hne, ha, ← hsel]
      -- a bad visit ends the run at once; behind a good one come the visits of the inner rules
      by_cases hbad : Visit.Bad view ⟨node, r⟩
      · obtain ⟨flaw, shows, hf⟩ := collect_of_bad hbad fun m => follow view r r.plan m
        exact .stop hbad shows _ hf _
      · refine (Tracks.search hbad _).bind fun a h => ?_
        cases h
        exact tracks_collect hv hbad fun hr m => tracks_follow hv hr ih m

/-- **An extraction goes along its visits.** -/
theorem tracks_resolve (hv : view.Plain) (node : ν) (rules : List Rule) :
    Tracks view (resolve view node rules) (visits view node rules) :=
  tracks_fill (fun r _ => tracks_applyRule hv r node) []

/-! ### The rule that is blamed -/

/-- **The first bad rule that is reached ends an extraction, and nothing else does.**  On a plain
tree an extraction fails exactly when it reaches a bad rule; it then has searched as its visits up
to the first bad one do, and blames the rule of that visit, whose name its message starts with.  Only
if what is wrong with that visit cannot be told, no rule is blamed, and the failure is that of the
integer with too many digits.  Otherwise an extraction searches as all its visits do.  Rules without a
selector are not reached. -/
theorem resolve_fails_at_first_bad (hv : view.Plain) (node : ν) (rules : List Rule) :
    ((∃ failure, (resolve view node rules).outcome = .error failure) ↔
      ∃ v ∈ visits view node rules, v.Bad view) ∧
    (∀ failure, (resolve view node rules).outcome = .error failure →
      ∃ before v after, visits view node rules = before ++ v :: after ∧
        (∀ w ∈ before, ¬ w.Bad view) ∧ v.Bad view ∧
        (resolve view node rules).searches = (before ++ [v]).map Visit.query ∧
        (¬ v.Untellable view → (∃ flaw, failure = .rule v.rule flaw) ∧
          ∃ rest, failure.message = v.rule.name ++ ": " ++ rest) ∧
        (v.Untellable view → failure = .longInteger)) ∧
    (∀ es, (resolve view node rules).outcome = .ok es →
      (resolve view node rules).searches = (visits view node rules).map Visit.query) ∧
    (∀ v ∈ visits view node rules, v.rule.selector ≠ none ∧ v.rule.selector ≠ some "") := by
  have hsel : ∀ v ∈ visits view node rules,
      v.rule.selector ≠ none ∧ v.rule.selector ≠ some "" := by
    intro v h
    obtain ⟨r, -, h⟩ := List.mem_flatMap.1 h
    exact selector_of_mem_trail h
  cases tracks_resolve hv node rules with
  | done h good hs =>
    refine ⟨⟨?_, ?_⟩, ?_, fun _ _ => hs, hsel⟩
    · rintro ⟨failure, hf⟩
      rw [h] at hf
      cases hf
    · rintro ⟨v, hmem, hbad⟩
      exact absurd hbad (good v hmem)
    · intro failure hf
      rw [h] at hf
      cases hf
  | @stopped before after v flaw hvs good bad shows h hs =>
    refine ⟨⟨fun _ => ?_, fun _ => ⟨_, h⟩⟩, fun failure hf => ?_, fun es he => ?_, hsel⟩
    · exact ⟨v, by rw [hvs]; exact List.mem_append_right _ List.mem_cons_self, bad⟩
    · rw [h] at hf
      cases hf
      refine ⟨before, v, after, hvs, good, bad, hs, fun htold => ?_, fun huntold => ?_⟩
      · have hne : flaw ≠ .untold := mt shows.untold_iff.1 htold
        rw [Failure.ofFlaw_of_ne hne]
        exact ⟨⟨flaw, rfl⟩, Rule.exists_message_eq v.rule hne⟩
      · rw [shows.untold_iff.2 huntold]
        rfl
    · rw [h] at he
      cases he

/-- A tree with two entries below the root, of which the second cannot be searched for a
title. -/
def catalogue : View Nat where
  find node selector :=
    if selector = "li" ∧ node = 0 then .nodes [1, 2]
    else if selector = "b" ∧ node = 1 then .nodes [3]
    else if selector = "b" then .malformed "Expected a selector"
    else .nodes []
  text _ := "A title"
  attr _ _ := .null

/-- The rule for the title of an entry. -/
def title : Rule :=
  ⟨"title", some "b", .text "text", .null, none⟩

/-- The rule for all entries. -/
def listing : Rule :=
  ⟨"entries", some "li", .text " Object", .list [title.toValue], some true⟩

theorem plain_catalogue : catalogue.Plain := by
  refine ⟨fun node selector => ?_, fun _ _ => .inl rfl⟩
  unfold catalogue
  simp only
  split_ifs
  · exact .inl ⟨_, rfl⟩
  · exact .inl ⟨_, rfl⟩
  · exact .inr ⟨_, rfl⟩
  · exact .inl ⟨_, rfl⟩

theorem visits_catalogue :
    visits catalogue 0 [listing] = [⟨0, listing⟩, ⟨1, title⟩, ⟨2, title⟩] := by
  have hinner : listing.inner = [title] := Rule.inner_of_nested rfl rfl
  have htitle (m : Nat) : trail catalogue m title = [⟨m, title⟩] := by
    rw [trail_of_selector (by rfl : title.selector = some "b") (by decide),
      Rule.inner_of_kind (by rfl : title.kind = .ok .text) (by decide)]
    simp [visits]
  have hchosen : chosen listing (catalogue.find 0 "li") = [1, 2] := rfl
  simp only [visits, List.flatMap_cons, List.flatMap_nil]
  rw [trail_of_selector (by rfl : listing.selector = some "li") (by decide), hinner, hchosen]
  simp [visits, htitle]

/-- The title of the second entry is blamed, after all three searches. -/
theorem resolve_fails_at_second_title : catalogue.Plain ∧
    ∃ flaw, (resolve catalogue 0 [listing]).outcome = .error (.rule title flaw) ∧
      (resolve catalogue 0 [listing]).searches = [(0, "li"), (1, "b"), (2, "b")] := by
  refine ⟨plain_catalogue, ?_⟩
  have h := resolve_fails_at_first_bad plain_catalogue 0 [listing]
  rw [visits_catalogue] at h
  have hbad : Visit.Bad catalogue ⟨2, title⟩ := .selector rfl
  have hlisting : ¬ Visit.Bad catalogue ⟨0, listing⟩ := by
    have ha : Visit.answer catalogue ⟨0, listing⟩ = .nodes [1, 2] := rfl
    rintro (⟨h⟩ | ⟨-, -, hr⟩)
    · rw [ha] at h
      cases h
    · exact Rule.not_unusable (by rfl : listing.kind = .ok .object) (absurd rfl)
        (fun _ => ⟨[title], rfl⟩) hr
  have htitle : ¬ Visit.Bad catalogue ⟨1, title⟩ := by
    have ha : Visit.answer catalogue ⟨1, title⟩ = .nodes [3] := rfl
    rintro (⟨h⟩ | ⟨-, -, hr⟩)
    · rw [ha] at h
      cases h
    · exact Rule.not_unusable (by rfl : title.kind = .ok .text) (fun _ => ⟨none, rfl⟩)
        (absurd · (by decide)) hr
  obtain ⟨failure, hf⟩ := h.1.2 ⟨_, by simp, hbad⟩
  obtain ⟨before, v, after, hvs, hgood, hv, hs, htold, -⟩ := h.2.1 failure hf
  -- the bad visit is the last of the three
  match before, hvs with
  | [], hvs =>
    cases hvs
    exact absurd hv hlisting
  | [_], hvs =>
    cases hvs
    exact absurd hv htitle
  | [_, _], hvs =>
    cases hvs
    have hmalformed : ¬ Visit.Untellable catalogue ⟨2, title⟩ := by
      rintro ⟨⟨matched, hnodes⟩, -⟩
      cases hnodes
    obtain ⟨⟨flaw, rfl⟩, -⟩ := htold hmalformed
    exact ⟨flaw, hf, hs⟩
  | _ :: _ :: _ :: before, hvs => simp at hvs

/-- A tree with one entry below the root. -/
def leaflet : View Nat where
  find node selector := if selector = "p" ∧ node = 0 then .nodes [1] else .nodes []
  text _ := "a"
  attr _ _ := .null

/-- A rule for maps with an integer of one digit too many in place of a nested rule. -/
def crowded : Rule :=
  ⟨"t", some "p", .text "object", .list [.int (10 ^ Text.Numeral.maxDigits)], some false⟩

/-- The rule is reached and bad, and yet it is not blamed. -/
theorem resolve_of_long_source :
    Visit.Bad leaflet ⟨0, crowded⟩ ∧ ⟨0, crowded⟩ ∈ visits leaflet 0 [crowded] ∧
      (resolve leaflet 0 [crowded]).outcome = .error .longInteger := by
  have hword : crowded.word? = some "object" := by decide +kernel
  have hno : ¬ ∀ v ∈ [Value.int (10 ^ Text.Numeral.maxDigits)], Rule.Describes v := by
    intro h
    simp [Rule.Describes] at h
  have hplan : crowded.plan = .flawed .untold :=
    Rule.plan_eq_untold_iff.2 (.source hword rfl hno (by decide +kernel))
  refine ⟨.rule rfl (.inr (List.cons_ne_nil 1 [])) (Rule.unusable_iff.2 ⟨_, hplan⟩), ?_, ?_⟩
  · rw [visits, List.flatMap_singleton,
      trail_of_selector (by rfl : crowded.selector = some "p") (by decide)]
    exact List.mem_cons_self
  · rw [resolve, Rule.plans, List.map_singleton, hplan]
    rfl

end Harvest.Extraction
