import Harvest.Proofs.Extraction.Correspondence
import Harvest.Proofs.Extraction.Mirror
import Harvest.Proofs.Rule.Payload
import Harvest.Proofs.Rule.Source
import Mathlib.Data.List.Perm.Basic

/-!
# Sibling rules are independent

The rules of a list are applied one after the other, but none sees what another did.  So a list
resolves exactly if each of its rules can be applied (`exists_outcome_resolve_iff`), and where the
names of the rules are pairwise different, the map is just the list of what they write
(`eq_writes_of_nodup`).  Neither depends on the order of the rules but for the order of the entries.

Nested rules are siblings, too.  `Rule.ShuffledSource` relates a source to the same source in which
lists of rules with different names are put in another order, at any depth, and
`Rule.ShuffledRules` relates lists of rules in the same way.  Values that differ by the order of keys
alone, at any depth, are `Value.Reordered`.

Main statement: rules in another order, at any depth, resolve on the same nodes, and to the same map
but for the order of its keys and of those of the maps in it (`siblings_are_independent`).
-/

namespace Harvest

/-! ### The order of keys -/

/-- Two entries have the same key, and related values. -/
inductive EntryAlike (V : Value → Value → Prop) : String × Value → String × Value → Prop where
  | intro {key : String} {v v' : Value} (h : V v v') : EntryAlike V (key, v) (key, v')

/-- Two values are the same but for the order of keys in maps. -/
inductive Value.Reordered : Value → Value → Prop where
  /-- One value. -/
  | refl (v : Value) : Reordered v v
  /-- Lists of such values. -/
  | list {vs vs' : List Value} (h : List.Forall₂ Reordered vs vs') : Reordered (.list vs) (.list vs')
  /-- Maps with such values under the same keys, which are there once and stand in another order. -/
  | map {es fs es' : Entries} (nodup : es.keys.Nodup)
      (h : List.Forall₂ (EntryAlike Reordered) es fs) (hp : fs.Perm es') :
      Reordered (.map es) (.map es')

namespace Entries

theorem keys_alike {V : Value → Value → Prop} {es es' : Entries}
    (h : List.Forall₂ (EntryAlike V) es es') : es'.keys = es.keys := by
  induction h with
  | nil => rfl
  | cons he _ ih =>
    cases he with
    | intro hv => exact congrArg (_ :: ·) ih

theorem get?_alike {V : Value → Value → Prop} {es es' : Entries}
    (h : List.Forall₂ (EntryAlike V) es es') (key : String) :
    Option.Rel V (es.get? key) (es'.get? key) := by
  induction h with
  | nil => exact .none
  | cons he _ ih =>
    cases he with
    | intro hv =>
      rw [get?_cons, get?_cons]
      split
      · exact .some hv
      · exact ih

/-- A map with every key once answers in the same way when its entries stand in another order. -/
theorem get?_of_perm {es es' : Entries} (hd : es.keys.Nodup) (hp : es.Perm es') (key : String) :
    es'.get? key = es.get? key := by
  induction hp with
  | nil => rfl
  | cons e _ ih =>
    rw [get?_cons, get?_cons, ih (List.nodup_cons.1 hd).2]
  | swap e f es =>
    -- no two entries have one key, so the first that has it is the same
    have hne : f.1 ≠ e.1 := fun h => (List.nodup_cons.1 hd).1 (h ▸ List.mem_cons_self)
    rw [get?_cons, get?_cons, get?_cons, get?_cons]
    by_cases hf : key = f.1
    · rw [if_pos hf, if_neg fun he => hne (hf.symm.trans he), if_pos hf]
    · rw [if_neg hf, if_neg hf]
  | trans hp _ ih ih' => rw [ih' ((hp.map Prod.fst).nodup_iff.1 hd), ih hd]

theorem forall₂_put {V : Value → Value → Prop} {es es' : Entries} {v v' : Value}
    (h : List.Forall₂ (EntryAlike V) es es') (key : String) (hv : V v v') :
    List.Forall₂ (EntryAlike V) (put key v es) (put key v' es') := by
  induction h with
  | nil => exact .cons (.intro hv) .nil
  | cons he hes ih =>
    cases he with
    | @intro k w w' hw =>
      rw [put, put]
      split
      · exact .cons (.intro hv) hes
      · exact .cons (.intro hw) ih

/-- Pairs with different keys are a map as they are. -/
theorem ofList_of_nodup {pairs : List (String × Value)} (h : (keys pairs).Nodup) :
    ofList pairs = pairs := by
  induction pairs using List.reverseRecOn with
  | nil => rfl
  | append_singleton pairs e ih =>
    rw [keys_append, List.nodup_append] at h
    obtain ⟨hpairs, -, hnew⟩ := h
    have he : e.1 ∉ keys pairs := fun hmem => hnew e.1 hmem e.1 (by simp [keys]) rfl
    rw [ofList_append, ih hpairs, update_cons, update_nil, put_of_not_mem he]

end Entries

/-- Maps that are the same but for the order of keys have such values under each key. -/
theorem Value.Reordered.get? {es es' : Entries} (h : Reordered (.map es) (.map es'))
    (key : String) : Option.Rel Reordered (es.get? key) (es'.get? key) := by
  cases h with
  | refl => exact Entries.get?_alike (List.forall₂_same.2 fun e _ => .intro (.refl e.2)) key
  | map nodup hes hp =>
    rw [Entries.get?_of_perm (Entries.keys_alike hes ▸ nodup) hp]
    exact Entries.get?_alike hes key

namespace Rule

open Validation

/-! ### Lists of rules in another order -/

/-- The rules in a list, if it can be read, have pairwise different names. -/
def DistinctNames (vs : List Value) : Prop :=
  ∀ rules, ofList vs = .ok rules → (rules.map name).Nodup

mutual

/-- An entry of a payload, and the entry with lists of rules inside it put in another order. -/
inductive Shuffled : Value → Value → Prop where
  /-- Everything keeps its order. -/
  | same (v : Value) : Shuffled v v
  /-- Lists inside a map are put in another order. -/
  | map {es es' : Entries} (h : List.Forall₂ (FieldUpTo ShuffledSource) es es') :
      Shuffled (.map es) (.map es')
  /-- Lists inside a rule are put in another order. -/
  | rule {name : String} {selector : Option String} {declared source source' : Value}
      {multi : Option Bool} (h : ShuffledSource source source') :
      Shuffled (.rule name selector declared source multi)
        (.rule name selector declared source' multi)

/-- The source of a rule, and the source with its list and lists inside put in another order. -/
inductive ShuffledSource : Value → Value → Prop where
  /-- Everything keeps its order. -/
  | same (v : Value) : ShuffledSource v v
  /-- Lists inside the entries are put in another order, and then the entries, unless two rules have
  the same name. -/
  | list {vs ws vs' : List Value} (h : List.Forall₂ Shuffled vs ws) (hp : ws.Perm vs')
      (hd : ws = vs' ∨ DistinctNames vs) : ShuffledSource (.list vs) (.list vs')

end

/-- A list of rules, and the same rules with lists inside them, and then themselves, put in another
order, unless two have the same name. -/
def ShuffledRules (rules rules' : List Rule) : Prop :=
  ∃ mid, List.Forall₂ (UpToSource ShuffledSource) rules mid ∧ mid.Perm rules' ∧
    (mid = rules' ∨ (rules.map name).Nodup)

theorem ShuffledRules.refl (rules : List Rule) : ShuffledRules rules rules :=
  ⟨rules, List.forall₂_same.2 fun r _ => .refl .same r, .refl _, .inl rfl⟩

/-- A list in another order holds the same rules in another order, or is refused as well. -/
theorem matched_ofList_of_perm {vs vs' : List Value} (h : vs.Perm vs') :
    Matched AnyErrors List.Perm (ofList vs) (ofList vs') := by
  have hread {vs vs' : List Value} (h : vs.Perm vs') {rules : List Rule} (hvs : ofList vs = .ok rules) :
      ∃ rules', ofList vs' = .ok rules' ∧ rules'.Perm rules := by
    obtain ⟨rules', hrules', hperm⟩ := List.perm_comp_forall₂ h.symm (ofList_eq_ok_iff.1 hvs)
    exact ⟨rules', ofList_eq_ok_iff.2 hrules', hperm⟩
  cases hvs : ofList vs with
  | ok rules =>
    obtain ⟨rules', hvs', hperm⟩ := hread h hvs
    rw [hvs']
    exact .ok hperm.symm
  | error reason =>
    cases hvs' : ofList vs' with
    | ok rules' =>
      obtain ⟨rules, hvs'', -⟩ := hread h.symm hvs'
      cases hvs.symm.trans hvs''
    | error reason' => exact .error trivial

theorem matched_ofEntry_shuffled {v v' : Value} (h : Shuffled v v') :
    Matched AnyErrors (UpToSource ShuffledSource) (ofEntry v) (ofEntry v') := by
  cases h with
  | same v => exact .refl (fun _ => trivial) (UpToSource.refl .same) _
  | map hfields =>
    rw [ofEntry_map, ofEntry_map]
    exact (matched_ofEntries_of_fields .same hfields).mapErrors fun _ _ _ => trivial
  | rule h => exact .ok ⟨rfl, rfl, rfl, rfl, h⟩

theorem map_name_of_upToSource {S : Value → Value → Prop} {rules rules' : List Rule}
    (h : List.Forall₂ (UpToSource S) rules rules') : rules'.map name = rules.map name := by
  induction h with
  | nil => rfl
  | cons hr _ ih => rw [List.map_cons, List.map_cons, hr.name, ih]

/-- **Nested rules are shuffled with the source** that lists them. -/
theorem matched_nested_shuffled {r r' : Rule} (h : UpToSource ShuffledSource r r') :
    Matched AnyErrors ShuffledRules r.nested r'.nested := by
  have hsource := h.source
  unfold nested
  generalize r.source = s, r'.source = s' at hsource
  cases hsource with
  | same => exact .refl (fun _ => trivial) ShuffledRules.refl _
  | @list vs ws vs' hinside hp hd =>
    have hlist : Matched AnyErrors (List.Forall₂ (UpToSource ShuffledSource)) (ofList vs)
        (ofList ws) :=
      matched_ofList_of_entries (hinside.imp fun _ _ => matched_ofEntry_shuffled)
    refine Matched.mapErrors (E := AnyErrors) ?_ fun _ _ _ => trivial
    refine hlist.trans (matched_ofList_of_perm hp) fun rules mid rules' hvs hws hvs' hrules hmid => ?_
    refine ⟨mid, hrules, hmid, hd.imp (fun heq => ?_) fun hdistinct => hdistinct rules hvs⟩
    cases heq
    cases hws.symm.trans hvs'
    rfl

end Rule

namespace Extraction

open Rule Run

variable {ν : Type} {view : View ν} {node : ν}

/-! ### Rules in another order -/

/-- A list of rules resolves exactly if each of its rules can be applied. -/
theorem exists_outcome_resolve_iff {rules : List Rule} :
    (∃ es, (resolve view node rules).outcome = .ok es) ↔
      ∀ r ∈ rules, ∃ stored, (applyRule view node r).outcome = .ok stored := by
  refine ⟨fun ⟨es, hes⟩ r hr => exists_outcome_applyRule hes hr, fun h => ?_⟩
  induction rules with
  | nil => exact ⟨[], rfl⟩
  | cons r rules ih =>
    obtain ⟨hfirst, hrest⟩ := List.forall_mem_cons.1 h
    obtain ⟨stored, hstored⟩ := hfirst
    obtain ⟨es, hes⟩ := ih hrest
    rw [resolve_cons]
    simp only [Run.outcome_bind_eq_ok_iff, Run.outcome_map_eq_ok_iff]
    exact ⟨_, stored, hstored, es, hes, rfl⟩

/-- Every key of the map of a list of rules is there once. -/
theorem nodup_keys_of_resolve {rules : List Rule} {es : Entries}
    (h : (resolve view node rules).outcome = .ok es) : es.keys.Nodup := by
  rw [eq_ofList_writes h]
  exact Entries.nodup_keys_ofList _

/-- Where the names of rules are pairwise different, their map is the list of what they write. -/
theorem eq_writes_of_nodup {rules : List Rule} {es : Entries}
    (hd : (rules.map Rule.name).Nodup) (h : (resolve view node rules).outcome = .ok es) :
    es = writes view node rules := by
  have hkeys : (Entries.keys (writes view node rules)).Nodup := by
    rw [keys_writes]
    exact hd.sublist (List.filter_sublist.map Rule.name)
  rw [eq_ofList_writes h, Entries.ofList_of_nodup hkeys]

/-- **Rules with different names in another order** write the same entries in another order. -/
theorem corresponds_resolve_of_perm {rules rules' : List Rule} (hp : rules.Perm rules')
    (hd : (rules.map Rule.name).Nodup) :
    Corresponds AnyErrors List.Perm (resolve view node rules) (resolve view node rules') := by
  have hd' : (rules'.map Rule.name).Nodup := (hp.map Rule.name).nodup_iff.1 hd
  have hok : (∃ es, (resolve view node rules).outcome = .ok es) ↔
      ∃ es, (resolve view node rules').outcome = .ok es := by
    rw [exists_outcome_resolve_iff, exists_outcome_resolve_iff]
    exact ⟨fun h r hr => h r (hp.mem_iff.2 hr), fun h r hr => h r (hp.mem_iff.1 hr)⟩
  unfold Corresponds
  match hes : (resolve view node rules).outcome, hes' : (resolve view node rules').outcome with
  | .ok es, .ok es' =>
    rw [eq_writes_of_nodup hd hes, eq_writes_of_nodup hd' hes']
    exact .ok (hp.filterMap _)
  | .error _, .error _ => exact .error trivial
  | .ok es, .error _ =>
    obtain ⟨es', h⟩ := hok.1 ⟨es, hes⟩
    cases hes'.symm.trans h
  | .error _, .ok es' =>
    obtain ⟨es, h⟩ := hok.2 ⟨es', hes'⟩
    cases hes.symm.trans h

/-! ### Lists inside rules in another order -/

/-- Rules that store values alike one by one fill maps that are alike. -/
theorem corresponds_fill {rules rules' : List Rule}
    (h : List.Forall₂ (fun r r' => r'.name = r.name ∧ Corresponds AnyErrors
      (Option.Rel Value.Reordered) (applyRule view node r) (applyRule view node r')) rules rules')
    {acc acc' : Entries} (hacc : List.Forall₂ (EntryAlike Value.Reordered) acc acc') :
    Corresponds AnyErrors (List.Forall₂ (EntryAlike Value.Reordered))
      (fill view node (plans rules) acc) (fill view node (plans rules') acc') := by
  induction h generalizing acc acc' with
  | nil => exact corresponds_pure hacc
  | @cons r r' rules rules' h _ ih =>
    rw [fill_plans_cons, fill_plans_cons]
    refine h.2.bind fun stored stored' hstored => ih ?_
    cases hstored with
    | none => exact hacc
    | some hv =>
      rw [store, store, h.1]
      exact Entries.forall₂_put hacc r.name hv

/-- Lists of rules resolve alike in another order, and with lists inside them in another order, when
what is inside makes no difference to what each of them stores. -/
theorem corresponds_resolve_of_shuffled {rules rules' : List Rule} (h : ShuffledRules rules rules')
    (hinside : ∀ r ∈ rules, ∀ r', UpToSource ShuffledSource r r' → Corresponds AnyErrors
      (Option.Rel Value.Reordered) (applyRule view node r) (applyRule view node r')) :
    Corresponds AnyErrors (fun es es' => Value.Reordered (.map es) (.map es'))
      (resolve view node rules) (resolve view node rules') := by
  obtain ⟨mid, hmid, hp, hd⟩ := h
  have hfill : Corresponds AnyErrors (List.Forall₂ (EntryAlike Value.Reordered))
      (resolve view node rules) (resolve view node mid) := by
    unfold resolve
    refine corresponds_fill ?_ .nil
    have hmem : ∀ r ∈ rules, r ∈ rules := fun _ hr => hr
    exact ((List.forall₂_and_left _ _).2 ⟨hmem, hmid⟩).imp fun r r' hr =>
      ⟨hr.2.name, hinside r hr.1 r' hr.2⟩
  have hperm : Corresponds AnyErrors List.Perm (resolve view node mid) (resolve view node rules') := by
    obtain rfl | hd := hd
    · exact corresponds_refl (fun _ => trivial) List.Perm.refl _
    · rw [← map_name_of_upToSource hmid] at hd
      exact corresponds_resolve_of_perm hp hd
  refine hfill.trans hperm fun es mid es' hes _ _ hfilled hp => ?_
  exact .map (nodup_keys_of_resolve hes) hfilled hp

/-- A run corresponds to itself. -/
theorem corresponds_self (x : Run ν Value) : Corresponds AnyErrors Value.Reordered x x :=
  corresponds_refl (fun _ => trivial) Value.Reordered.refl x

/-- What the plans of two rules come to: both pass or neither does, and the values that they make of a
node are alike. -/
structure PlansCorrespond (view : View ν) (r : Rule) (p : Plan) (r' : Rule) (p' : Plan) : Prop where
  passes : Corresponds AnyErrors Eq (sound r p : Run ν Unit) (sound r' p' : Run ν Unit)
  values (m : ν) :
    Corresponds AnyErrors Value.Reordered (follow view r p m) (follow view r' p' m)

theorem plansCorrespond_of_shuffled {r r' : Rule} (h : UpToSource ShuffledSource r r')
    (hinner : ∀ q ∈ r.inner, ∀ q', UpToSource ShuffledSource q q' → ∀ m, Corresponds AnyErrors
      (Option.Rel Value.Reordered) (applyRule view m q) (applyRule view m q')) :
    PlansCorrespond view r r.plan r' r'.plan := by
  have hname : r'.attributeName = r.attributeName := by
    have hsource := h.source
    unfold attributeName
    rw [h.declared]
    generalize r.source = s, r'.source = s' at hsource
    cases hsource <;> rfl
  have hplans := Rule.plansMatch (M := AnyErrors) (fun _ => trivial) h.declared hname
    (matched_nested_shuffled h)
  generalize r.plan = p, r'.plan = p' at hplans
  cases hplans with
  | flawed _ => exact ⟨corresponds_fail trivial, fun _ => corresponds_fail trivial⟩
  | text => exact ⟨corresponds_pure rfl, fun _ => corresponds_self _⟩
  | attr name => exact ⟨corresponds_pure rfl, fun _ => corresponds_self _⟩
  | object hrules =>
    obtain ⟨hinner', hrules⟩ := hrules
    rw [hinner'] at hinner
    refine ⟨corresponds_pure rfl, fun m => ?_⟩
    exact (corresponds_resolve_of_shuffled hrules fun q hq q' hqq' => hinner q hq q' hqq' m).map
      fun _ _ hes => hes

/-- **What a rule stores does not depend on the order of lists inside it**, but for the order of
keys. -/
theorem corresponds_applyRule_of_shuffled {r r' : Rule} (h : UpToSource ShuffledSource r r')
    (node : ν) : Corresponds AnyErrors (Option.Rel Value.Reordered) (applyRule view node r)
      (applyRule view node r') := by
  induction r using Rule.inner_induction generalizing r' node with
  | step r ih =>
    have hplans : PlansCorrespond view r r.plan r' r'.plan :=
      plansCorrespond_of_shuffled h fun q hq q' hqq' m => ih q hq hqq' m
    exact corresponds_apply (fun _ => trivial) (fun _ _ => .list) (fun _ => trivial) h.selector
      h.multi hplans.passes (fun m m' hm => hm ▸ hplans.values m)
      fun selector => Answer.corresponds_refl _

/-! ### The order of siblings -/

/-- **Sibling rules are independent.**  Take rules with pairwise different names, in two orders.  One
list can be resolved at a node exactly if the other can, and then both maps have the same entries, in
another order, so that every key has the same value.

The same holds when lists of rules inside the rules, with pairwise different names, are put in another
order, at any depth: one list can be resolved exactly if the other can, and then both maps have the
same keys and the same values, in which maps may have their keys in another order again. -/
theorem siblings_are_independent (view : View ν) (node : ν) :
    (∀ rules rules' : List Rule, rules.Perm rules' → (rules.map Rule.name).Nodup →
      ((∃ es, (resolve view node rules).outcome = .ok es) ↔
        ∃ es, (resolve view node rules').outcome = .ok es) ∧
      ∀ es es', (resolve view node rules).outcome = .ok es →
        (resolve view node rules').outcome = .ok es' →
          es.Perm es' ∧ ∀ key, es'.get? key = es.get? key) ∧
    ∀ rules rules' : List Rule, ShuffledRules rules rules' →
      ((∃ es, (resolve view node rules).outcome = .ok es) ↔
        ∃ es, (resolve view node rules').outcome = .ok es) ∧
      ∀ es es', (resolve view node rules).outcome = .ok es →
        (resolve view node rules').outcome = .ok es' → Value.Reordered (.map es) (.map es') ∧
          ∀ key, Option.Rel Value.Reordered (es.get? key) (es'.get? key) := by
  refine ⟨fun rules rules' hp hd => ?_, fun rules rules' h => ?_⟩
  · have hsame : Corresponds AnyErrors List.Perm (resolve view node rules)
        (resolve view node rules') := corresponds_resolve_of_perm hp hd
    refine ⟨hsame.isOk_iff, fun es es' hes hes' => ?_⟩
    have hperm := hsame.related hes hes'
    exact ⟨hperm, Entries.get?_of_perm (nodup_keys_of_resolve hes) hperm⟩
  · have hsame : Corresponds AnyErrors (fun es es' => Value.Reordered (.map es) (.map es'))
        (resolve view node rules) (resolve view node rules') :=
      corresponds_resolve_of_shuffled h fun r _ r' hrr' =>
        corresponds_applyRule_of_shuffled hrr' node
    refine ⟨hsame.isOk_iff, fun es es' hes hes' => ?_⟩
    have hreordered := hsame.related hes hes'
    exact ⟨hreordered, hreordered.get?⟩

/-- The rule for the heading of an entry. -/
def heading : Rule :=
  ⟨"heading", some "b", .text "text", .null, none⟩

/-- A rule for all entries, with the rules for each of them in one order or another. -/
def entriesBy (rules : List Rule) : Rule :=
  ⟨"entries", some "li", .text "object", .list (rules.map Rule.toValue), some true⟩

theorem shuffledRules_entriesBy {rules rules' : List Rule} (hp : rules.Perm rules')
    (hd : DistinctNames (rules.map Rule.toValue)) :
    ShuffledRules [entriesBy rules, heading] [heading, entriesBy rules'] := by
  have hsource : ShuffledSource (entriesBy rules).source (entriesBy rules').source :=
    .list (List.forall₂_same.2 fun v _ => .same v) (hp.map Rule.toValue) (.inr hd)
  have hnames : ["entries", "heading"].Nodup := by decide
  refine ⟨[entriesBy rules', heading], ?_, .swap .., .inr hnames⟩
  exact .cons ⟨rfl, rfl, rfl, rfl, hsource⟩ (.cons (.refl .same heading) .nil)

/-- Two rules in both orders, at the root of a library and in the rule for its entries. -/
theorem siblings_are_independent_entries :
    let rules := [entriesBy [title, heading], heading]
    let swapped := [heading, entriesBy [title, heading]]
    let shuffled := [heading, entriesBy [heading, title]]
    rules.Perm swapped ∧ (rules.map Rule.name).Nodup ∧ ShuffledRules rules shuffled ∧
    ∃ es es₁ es₂, (resolve library 0 rules).outcome = .ok es ∧
      (resolve library 0 swapped).outcome = .ok es₁ ∧
      (resolve library 0 shuffled).outcome = .ok es₂ ∧
      es.Perm es₁ ∧ Value.Reordered (.map es) (.map es₂) := by
  intro rules swapped shuffled
  have hperm : rules.Perm swapped := .swap ..
  have hnodup : (rules.map Rule.name).Nodup := by decide
  have hshuffled : ShuffledRules rules shuffled := by
    refine shuffledRules_entriesBy (.swap ..) fun inner hinner => ?_
    cases hinner
    decide
  have htext : title.plan = .text ∧ heading.plan = .text := by
    rw [Rule.plan_eq, Rule.plan_eq heading]
    exact ⟨rfl, rfl⟩
  have hentries : (entriesBy [title, heading]).plan =
      .object [(title, .text), (heading, .text)] := by
    have hnested : (entriesBy [title, heading]).nested = .ok [title, heading] := rfl
    rw [Rule.plan_of_kind_object rfl hnested]
    simp only [Rule.plans, List.map_cons, List.map_nil, htext]
  obtain ⟨es, hes⟩ : ∃ es, (resolve library 0 rules).outcome = .ok es := by
    simp only [rules, resolve, Rule.plans, List.map_cons, List.map_nil, hentries, htext]
    exact ⟨_, rfl⟩
  have h := siblings_are_independent library 0
  obtain ⟨hok₁, hsame₁⟩ := h.1 rules swapped hperm hnodup
  obtain ⟨hok₂, hsame₂⟩ := h.2 rules shuffled hshuffled
  obtain ⟨es₁, hes₁⟩ := hok₁.1 ⟨es, hes⟩
  obtain ⟨es₂, hes₂⟩ := hok₂.1 ⟨es, hes⟩
  exact ⟨hperm, hnodup, hshuffled, es, es₁, es₂, hes, hes₁, hes₂, (hsame₁ es es₁ hes hes₁).1,
    (hsame₂ es es₂ hes hes₂).1⟩

end Extraction

end Harvest
