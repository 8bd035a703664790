import Harvest.Proofs.Extraction.Yields
import Harvest.Proofs.Rule.Nesting

/-!
# Resolving ends

`resolve` follows plans, which are finite.  Here it is compared with calls that know nothing of plans:
a call goes through its rules and, where it reaches a rule for maps, reads the nested rules of its
source and calls again, with them, for each node that the tree answers with (`call`).  The answers
need not be any smaller than the node that was searched; what ends the calls is the depth of the
rules.

`resolveWithin limit` makes such calls up to a depth and then does something else.  Rules that end
within the limit never get there (`resolveWithin_of_endsWithin`).  And the value that a rule makes
of a node nests maps no deeper than its plan does (`mapDepth_follow`).

Main statement: rules of a payload resolve by calls, and make maps, that are nested no deeper than
the payload (`resolution_ends`).
-/

namespace Harvest

/-! ### How deep maps are nested -/

namespace Value

mutual
/-- How deep maps are nested in a value. -/
def mapDepth : Value → Nat
  | list vs => mapDepthAll vs
  | tuple vs => mapDepthAll vs
  | map es => mapDepthEntries es + 1
  | rule _ _ declared source _ => max declared.mapDepth source.mapDepth
  | _ => 0

/-- The greatest such depth among some values. -/
def mapDepthAll : List Value → Nat
  | [] => 0
  | v :: vs => max v.mapDepth (mapDepthAll vs)

/-- The greatest such depth among the values of some entries. -/
def mapDepthEntries : List (String × Value) → Nat
  | [] => 0
  | (_, v) :: es => max v.mapDepth (mapDepthEntries es)
end

theorem mapDepthAll_le_iff {vs : List Value} {n : Nat} :
    mapDepthAll vs ≤ n ↔ ∀ v ∈ vs, v.mapDepth ≤ n := by
  induction vs with
  | nil => simp [mapDepthAll]
  | cons v vs ih => rw [mapDepthAll, Nat.max_le, List.forall_mem_cons, ih]

theorem mapDepthEntries_put_le {es : Entries} {n : Nat} (h : mapDepthEntries es ≤ n) (key : String)
    {v : Value} (hv : v.mapDepth ≤ n) : mapDepthEntries (Entries.put key v es) ≤ n := by
  induction es with
  | nil => simpa [Entries.put, mapDepthEntries] using hv
  | cons e es ih =>
    obtain ⟨k, w⟩ := e
    rw [mapDepthEntries, Nat.max_le] at h
    rw [Entries.put]
    split
    · rw [mapDepthEntries, Nat.max_le]
      exact ⟨hv, h.2⟩
    · rw [mapDepthEntries, Nat.max_le]
      exact ⟨h.1, ih h.2⟩

end Value

namespace Extraction

open Run Value

variable {ν : Type} {view : View ν}

theorem mapDepth_of_text {v : Value} {n : Nat} (h : ∃ s, v = .text s) : v.mapDepth ≤ n := by
  obtain ⟨s, rfl⟩ := h
  rw [mapDepth]
  · exact Nat.zero_le n
  all_goals nofun

theorem mapDepth_store {acc : Entries} {n : Nat} (hacc : mapDepthEntries acc ≤ n) (r : Rule)
    {stored : Option Value} (h : ∀ v ∈ stored, v.mapDepth ≤ n) :
    mapDepthEntries (store r acc stored) ≤ n := by
  cases stored with
  | none => exact hacc
  | some v => exact mapDepthEntries_put_le hacc r.name (h v rfl)

mutual
/-- A plan nests maps as deep as it says, or less. -/
theorem mapDepth_follow (r : Rule) : (p : Plan) → ∀ node : ν,
    Yields (fun v => v.mapDepth ≤ p.depth) (follow view r p node)
  | .text, node => (yields_readText node).imp fun _ => mapDepth_of_text
  | .attr name, node => (yields_readAttribute name node).imp fun _ => mapDepth_of_text
  | .object steps, node => by
    rw [Plan.depth]
    refine (mapDepth_fill node steps [] (Nat.le_refl _) (Nat.zero_le _)).map fun es hes => ?_
    rw [mapDepth]
    exact Nat.succ_le_succ hes
  | .flawed flaw, node => yields_fail _

/-- Rules nest maps as deep as the deepest of their plans says, or less. -/
theorem mapDepth_fill (node : ν) {n : Nat} : (steps : List (Rule × Plan)) → ∀ acc : Entries,
    Plan.depthAll steps ≤ n → mapDepthEntries acc ≤ n →
      Yields (fun es => mapDepthEntries es ≤ n) (fill view node steps acc)
  | [], _, _, hacc => yields_pure hacc
  | (r, p) :: steps, acc, hsteps, hacc => by
    rw [Plan.depthAll, Nat.max_le] at hsteps
    have hvalue (m : ν) : Yields (fun v => v.mapDepth ≤ n) (follow view r p m) :=
      (mapDepth_follow r p m).imp fun _ hv => Nat.le_trans hv hsteps.1
    have hlist (vs : List Value) (hvs : ∀ v ∈ vs, v.mapDepth ≤ n) : (list vs).mapDepth ≤ n := by
      rw [mapDepth]
      exact mapDepthAll_le_iff.2 hvs
    exact (yields_apply hlist hvalue node r p).bind fun stored hstored =>
      mapDepth_fill node steps _ hsteps.2 (mapDepth_store hacc r hstored)
end

/-! ### Calls -/

/-- How a rule makes a value of a node, or its flaw; `deeper` is the call for its nested rules. -/
def maker (view : View ν) (deeper : ν → List Rule → Run ν Entries) (r : Rule) :
    Except Rule.Flaw (ν → Run ν Value) :=
  match r.kind with
  | .error flaw => .error flaw
  | .ok .text => r.attributeName.map fun _ => readText view
  | .ok .attr => r.attributeName.map fun name => readAttribute view name
  | .ok .object => r.nested.map fun nested node => (deeper node nested).map .map

/-- What a rule stores when a call reaches it.  Its plan matters for its flaw only, so any plan
without one will do. -/
def reach (view : View ν) (deeper : ν → List Rule → Run ν Entries) (node : ν) (r : Rule) :
    Run ν (Option Value) :=
  match maker view deeper r with
  | .error flaw => apply view node r (.flawed flaw) fun _ => .fail (.rule r flaw)
  | .ok make => apply view node r .text make

/-- One call: rules are applied to a node in order. -/
def call (view : View ν) (deeper : ν → List Rule → Run ν Entries) (node : ν) :
    List Rule → Entries → Run ν Entries
  | [], acc => .pure acc
  | r :: rules, acc =>
    (reach view deeper node r).bind fun v => call view deeper node rules (store r acc v)

/-- Calls up to a depth, and what is done beyond it. -/
def resolveWithin (view : View ν) (beyond : ν → List Rule → Run ν Entries) :
    Nat → ν → List Rule → Run ν Entries
  | 0, node, rules => beyond node rules
  | limit + 1, node, rules => call view (resolveWithin view beyond limit) node rules []

/-! ### Calls do what plans say -/

theorem apply_congr {p q : Plan} (h : p.flaw? = q.flaw?) (node : ν) (r : Rule)
    (value : ν → Run ν Value) : apply view node r p value = apply view node r q value := by
  have hsound : (sound r p : Run ν Unit) = sound r q := by
    rw [sound, sound, h]
  have hcollect : collect r p value = collect r q value := by
    funext answer
    unfold collect
    rw [hsound]
  unfold apply
  rw [hcollect]

variable {deeper : ν → List Rule → Run ν Entries}

/-- A rule that is reached does what its plan says if the deeper calls do. -/
theorem reach_eq_applyRule {r : Rule} (node : ν)
    (h : r.kind = .ok .object → ∀ nested, r.nested = .ok nested →
      ∀ m, deeper m nested = resolve view m nested) :
    reach view deeper node r = applyRule view node r := by
  unfold reach applyRule maker
  rw [Rule.plan_eq]
  cases hk : r.kind with
  | error flaw => rfl
  | ok k =>
    cases k with
    | text => cases r.attributeName <;> rfl
    | attr =>
      cases r.attributeName with
      | error flaw => rfl
      | ok name => exact apply_congr rfl node r _
    | object =>
      cases hn : r.nested with
      | error flaw => rfl
      | ok nested =>
        have hvalue : (fun m => (deeper m nested).map .map) =
            fun m => follow view r (.object (Rule.plans nested)) m := by
          funext m
          rw [h hk nested hn m]
          rfl
        simp only [Except.map, hvalue]
        exact apply_congr rfl node r _

theorem call_eq_fill {rules : List Rule} (node : ν)
    (h : ∀ nested, Rule.Nests rules nested → ∀ m, deeper m nested = resolve view m nested)
    (acc : Entries) : call view deeper node rules acc = fill view node (Rule.plans rules) acc := by
  induction rules generalizing acc with
  | nil => rfl
  | cons r rules ih =>
    have hr : reach view deeper node r = applyRule view node r :=
      reach_eq_applyRule node fun hk nested hn => h nested ⟨r, List.mem_cons_self, hk, hn⟩
    rw [call, fill_plans_cons, hr]
    congr 1
    funext v
    refine ih (fun nested hnests => h nested ?_) _
    obtain ⟨r', hr', hrest⟩ := hnests
    exact ⟨r', List.mem_cons_of_mem r hr', hrest⟩

/-- Resolving is a call whose deeper calls resolve. -/
theorem resolve_eq_call (view : View ν) (node : ν) (rules : List Rule) :
    resolve view node rules = call view (resolve view) node rules [] :=
  (call_eq_fill node (fun _ _ _ => rfl) []).symm

/-- Rules that end within the limit never go beyond it. -/
theorem resolveWithin_of_endsWithin {beyond : ν → List Rule → Run ν Entries} {limit : Nat}
    {rules : List Rule} (h : Rule.EndsWithin limit rules) (node : ν) :
    resolveWithin view beyond limit node rules = resolve view node rules := by
  induction h generalizing node with
  | intro _ ih => exact call_eq_fill node ih []

/-! ### Payloads -/

theorem mapDepth_of_resolve {rules : List Rule} {n : Nat} {node : ν} {es : Entries}
    (hpos : 0 < n) (hrules : ∀ r ∈ rules, r.source.depth < n)
    (h : (resolve view node rules).outcome = .ok es) : (map es).mapDepth ≤ n := by
  obtain ⟨n, rfl⟩ := Nat.exists_eq_add_one_of_ne_zero hpos.ne'
  have hplans : Plan.depthAll (Rule.plans rules) ≤ n := by
    refine Plan.depthAll_le fun s hs => ?_
    obtain ⟨r, hr, rfl⟩ := List.mem_map.1 hs
    exact Nat.le_trans (Rule.depth_plan_le r) (Nat.le_of_lt_succ (hrules r hr))
  rw [mapDepth]
  exact Nat.succ_le_succ (mapDepth_fill node _ [] hplans (Nat.zero_le n) es h)

/-- **Resolving ends.**  Nested rules are less deep than the rule that holds them.  So the rules of
any payload resolve by calls that are nested no deeper than the payload: no chain of nested rules is
longer, whatever a tree answers, and calls that are cut off beyond that depth, or at any greater one,
are not cut off at all, on any tree and at any node of it.  The maps that they yield are nested no
deeper either.  A payload of depth zero lists no rules; it takes one call and yields one empty
map. -/
theorem resolution_ends {payload : Value} {rules : List Rule} (h : Rule.parse payload = .ok rules) :
    (∀ (r : Rule) nested, r.nested = .ok nested → ∀ r' ∈ nested, r'.toValue.depth < r.toValue.depth) ∧
    ∃ v, Rule.decode payload = .ok v ∧
      (∀ calls, List.IsChain Rule.Nests (rules :: calls) →
        (rules :: calls).length ≤ max v.depth 1) ∧
      ∀ (ν : Type) (view : View ν) (node : ν),
        resolve view node rules = call view (resolve view) node rules [] ∧
        (∀ limit beyond, max v.depth 1 ≤ limit →
          resolveWithin view beyond limit node rules = resolve view node rules) ∧
        ∀ es, (resolve view node rules).outcome = .ok es → (map es).mapDepth ≤ max v.depth 1 := by
  obtain ⟨v, entries, hv, -, -⟩ := Rule.parse_eq_ok_iff.1 h
  have hdecode : Rule.decode payload = .ok v := Rule.decode_of_standsFor hv
  have hdepth {limit : Nat} (hlimit : max v.depth 1 ≤ limit) :
      ∀ r ∈ rules, r.source.depth < limit := by
    intro r hr
    calc r.source.depth < r.toValue.depth := by
          rw [Rule.depth_toValue]
          exact Nat.lt_succ_of_le (Nat.le_max_right ..)
      _ ≤ v.depth := Rule.depth_le_of_parse h hdecode hr
      _ ≤ limit := Nat.le_trans (Nat.le_max_left ..) hlimit
  have hends {limit : Nat} (hlimit : max v.depth 1 ≤ limit) : Rule.EndsWithin limit rules :=
    Rule.endsWithin_of_depth (Nat.le_trans (Nat.le_max_right ..) hlimit) (hdepth hlimit)
  refine ⟨fun r nested hn r' hr' => Rule.depth_lt_of_nested hn hr', v, hdecode, ?_, ?_⟩
  · intro calls hcalls
    exact (hends (Nat.le_refl _)).length_lt hcalls
  · intro ν view node
    refine ⟨resolve_eq_call view node rules, ?_, ?_⟩
    · intro limit beyond hlimit
      exact resolveWithin_of_endsWithin (hends hlimit) node
    · intro es hes
      exact mapDepth_of_resolve (Nat.lt_of_lt_of_le Nat.one_pos (Nat.le_max_right ..))
        (hdepth (Nat.le_refl _)) hes

/-- A tree whose one node is below itself: every search finds the node that is searched. -/
def echo : View Unit where
  find node _ := .nodes [node]
  text _ := "here"
  attr _ _ := .null

/-- In that tree, a rule for maps with one rule nested in it takes two calls. -/
theorem resolution_ends_echo :
    let inside : Value :=
      .map [("varName", .text "b"), ("selector", .text "*"), ("valueType", .text "text")]
    let payload : Value :=
      .map [("varName", .text "a"), ("selector", .text "*"), ("valueType", .text "object"),
        ("valueBy", .list [inside])]
    ∃ rules, Rule.parse payload = .ok rules ∧ payload.depth = 3 ∧
      (resolve echo () rules).outcome = .ok [("a", .map [("b", .text "here")])] := by
  intro inside payload
  have hparse : Rule.parse payload = .ok _ := rfl
  obtain ⟨-, v, hv, -, hends⟩ := resolution_ends hparse
  cases hv
  obtain ⟨-, hwithin, -⟩ := hends Unit echo ()
  have hdepth : payload.depth = 3 := by decide +kernel
  have hcalls := hwithin 3 (fun _ _ => .fail .noNodes) (by rw [hdepth]; decide)
  refine ⟨_, hparse, hdepth, ?_⟩
  have htext : nodeText echo () = "here" := by decide +kernel
  rw [← hcalls, ← htext]
  rfl

end Extraction

end Harvest
