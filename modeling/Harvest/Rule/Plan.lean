import Harvest.Rule.Payload

/-!
# Plans of rules

A rule keeps its declared kind and its source as they were written.  `Rule.plan` reads them, down
through all nested rules, into a `Plan`: what is to be done with a node, or what is wrong with the
rule.  A plan is a finite tree, so an extraction that follows it ends.

Main statements: `plan_eq_object_iff` (an object plan holds the nested rules, each with its own
plan) and `depth_plan_le` (a plan is no deeper than the source of its rule).
-/

namespace Harvest

/-- What is to be done with a node that a rule matches. -/
inductive Plan where
  /-- Take its text. -/
  | text
  /-- Take an attribute, or nothing where none is named. -/
  | attr (name : Option String)
  /-- Fill a map by nested rules. -/
  | object (steps : List (Rule × Plan))
  /-- Nothing, since the rule has a flaw. -/
  | flawed (flaw : Rule.Flaw)
  deriving Inhabited

namespace Plan

/-- The flaw of a plan that cannot be followed. -/
def flaw? : Plan → Option Rule.Flaw
  | flawed flaw => some flaw
  | _ => none

mutual
/-- How deep maps are nested in what a plan yields. -/
def depth : Plan → Nat
  | object steps => depthAll steps + 1
  | _ => 0

/-- The greatest depth among some plans. -/
def depthAll : List (Rule × Plan) → Nat
  | [] => 0
  | (_, p) :: steps => max p.depth (depthAll steps)
end

theorem depthAll_le {steps : List (Rule × Plan)} {n : Nat} (h : ∀ s ∈ steps, s.2.depth ≤ n) :
    depthAll steps ≤ n := by
  induction steps with
  | nil => exact Nat.zero_le _
  | cons s steps ih =>
    obtain ⟨r, p⟩ := s
    rw [depthAll]
    exact Nat.max_le.2
      ⟨h (r, p) List.mem_cons_self, ih fun s hs => h s (List.mem_cons_of_mem _ hs)⟩

end Plan

namespace Rule

/-- The plan of a rule. -/
def plan (r : Rule) : Plan :=
  match r.kind with
  | .error flaw => .flawed flaw
  | .ok .text =>
    match r.attributeName with
    | .error flaw => .flawed flaw
    | .ok _ => .text
  | .ok .attr =>
    match r.attributeName with
    | .error flaw => .flawed flaw
    | .ok name => .attr name
  | .ok .object =>
    match h : r.nested with
    | .error flaw => .flawed flaw
    | .ok rules =>
      .object <| rules.attach.map fun ⟨r', h'⟩ =>
        have := depth_lt_of_mem_nested h h'
        (r', plan r')
  termination_by r.source.depth

/-- Some rules, each with its plan. -/
def plans (rules : List Rule) : List (Rule × Plan) :=
  rules.map fun r => (r, r.plan)

theorem plan_of_kind_object {r : Rule} {rules : List Rule} (hk : r.kind = .ok .object)
    (hn : r.nested = .ok rules) : r.plan = .object (plans rules) := by
  rw [plan, hk]
  simp only
  split
  next flaw he => rw [hn] at he; cases he
  next rules' he =>
    rw [hn] at he
    cases he
    simp [plans]

/-- An object plan holds the nested rules of its rule, each with its own plan. -/
theorem plan_eq_object_iff {r : Rule} {steps : List (Rule × Plan)} :
    r.plan = .object steps ↔
      r.kind = .ok .object ∧ ∃ rules, r.nested = .ok rules ∧ steps = plans rules := by
  constructor
  · intro h
    rw [plan] at h
    split at h
    · cases h
    · split at h <;> cases h
    · split at h <;> cases h
    next hk =>
      refine ⟨hk, ?_⟩
      split at h
      · cases h
      next rules hn =>
        refine ⟨rules, hn, ?_⟩
        cases h
        simp [plans]
  · rintro ⟨hk, rules, hn, rfl⟩
    exact plan_of_kind_object hk hn

/-- A plan is no deeper than the source of its rule. -/
theorem depth_plan_le (r : Rule) : r.plan.depth ≤ r.source.depth := by
  cases hp : r.plan with
  | text => simp [Plan.depth]
  | attr name => simp [Plan.depth]
  | flawed flaw => simp [Plan.depth]
  | object steps =>
    obtain ⟨hk, rules, hn, rfl⟩ := plan_eq_object_iff.1 hp
    obtain ⟨vs, hs, -⟩ := nested_eq_ok_iff.1 hn
    have hpos : r.source.depth = Value.depthAll vs + 1 := by rw [hs, Value.depth]
    rw [Plan.depth, hpos]
    refine Nat.succ_le_succ (Plan.depthAll_le fun s hm => ?_)
    obtain ⟨r', hr', rfl⟩ := List.mem_map.1 hm
    have hlt := depth_lt_of_mem_nested hn hr'
    have hle := depth_plan_le r'
    rw [hpos] at hlt
    exact Nat.le_trans hle (Nat.le_of_lt_succ hlt)
  termination_by r.source.depth
  decreasing_by exact hlt

end Rule

end Harvest
