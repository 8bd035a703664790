import Harvest.Proofs.Rule.Payload

/-!
# How deep rules are nested

The rules nested in a rule come from its source, so each is less deep than the rule that holds it
(`depth_lt_of_nested`), and the rules of a payload are no deeper than the value that it stands for
(`depth_le_of_parse`).

A call that applies rules to a node calls itself with rules that these nest, once for each match and
whatever the tree looks like (`Nests`).  `EndsWithin n` says that calls which start with some rules
are never more than `n` deep, and rules whose sources are less deep than `n` are such
(`endsWithin_of_depth`).
-/

namespace Harvest.Rule

/-! ### Depth -/

theorem depth_toValue (r : Rule) :
    r.toValue.depth = max r.declared.depth r.source.depth + 1 := by
  rw [toValue, Value.depth]

/-- A rule is no deeper than the entry that it is or that describes it. -/
theorem depth_le_of_ofEntry {v : Value} {r : Rule} (h : ofEntry v = .ok r) :
    r.toValue.depth ≤ v.depth := by
  cases ofEntry_eq_ok_iff.1 h with
  | kept => exact Nat.le_refl _
  | map hes =>
    rw [depth_toValue]
    exact Nat.succ_le_of_lt
      (Nat.max_lt.2 ⟨depth_declared_lt_of_ofEntries hes, depth_source_lt_of_ofEntries hes⟩)

/-- **A nested rule is less deep than the rule that holds it.** -/
theorem depth_lt_of_nested {r r' : Rule} {nested : List Rule} (h : r.nested = .ok nested)
    (hr : r' ∈ nested) : r'.toValue.depth < r.toValue.depth := by
  obtain ⟨vs, hs, hnested⟩ := nested_eq_ok_iff.1 h
  obtain ⟨v, hv, he⟩ := exists_of_mem_ofList hnested hr
  calc r'.toValue.depth ≤ v.depth := depth_le_of_ofEntry he
    _ < r.source.depth := hs ▸ Value.depth_lt_of_mem_list hv
    _ < r.toValue.depth := by
      rw [depth_toValue]
      exact Nat.lt_succ_of_le (Nat.le_max_right ..)

theorem depth_le_of_mem_entriesOf {v w : Value} (h : w ∈ entriesOf v) : w.depth ≤ v.depth := by
  unfold entriesOf at h
  split at h
  · cases h
  · split at h
    · exact Nat.le_of_lt (Value.depth_lt_of_mem_list h)
    · rw [List.mem_singleton.1 h]

/-- The rules of a payload are no deeper than the value that it stands for. -/
theorem depth_le_of_parse {payload v : Value} {rules : List Rule} (h : parse payload = .ok rules)
    (hv : decode payload = .ok v) {r : Rule} (hr : r ∈ rules) : r.toValue.depth ≤ v.depth := by
  rw [parse_of_standsFor (decode_eq_ok_iff.1 hv) (lists_iff.2 rfl), mapError_eq_ok_iff] at h
  obtain ⟨w, hw, he⟩ := exists_of_mem_ofList h hr
  exact Nat.le_trans (depth_le_of_ofEntry he) (depth_le_of_mem_entriesOf hw)

/-! ### Calls -/

/-- A call with some rules may call with others: one of the rules is for maps and nests them. -/
def Nests (rules nested : List Rule) : Prop :=
  ∃ r ∈ rules, r.kind = .ok .object ∧ r.nested = .ok nested

/-- Calls that start with some rules are at most this deep. -/
inductive EndsWithin : Nat → List Rule → Prop where
  /-- The calls that the first one makes are less deep. -/
  | intro {n : Nat} {rules : List Rule} (h : ∀ nested, Nests rules nested → EndsWithin n nested) :
      EndsWithin (n + 1) rules

/-- Rules whose sources are less deep than a bound end within it. -/
theorem endsWithin_of_depth {n : Nat} {rules : List Rule} (hpos : 0 < n)
    (h : ∀ r ∈ rules, r.source.depth < n) : EndsWithin n rules := by
  induction n generalizing rules with
  | zero => cases hpos
  | succ n ih =>
    refine .intro fun nested ⟨r, hr, _, hnested⟩ => ?_
    have hle : r.source.depth ≤ n := Nat.le_of_lt_succ (h r hr)
    -- the source of a rule that nests rules is a list, so the bound is not used up
    have hpos : 0 < r.source.depth := by
      obtain ⟨vs, hs, -⟩ := nested_eq_ok_iff.1 hnested
      rw [hs, Value.depth]
      exact Nat.succ_pos _
    exact ih (Nat.lt_of_lt_of_le hpos hle) fun r' hr' =>
      Nat.lt_of_lt_of_le (depth_lt_of_mem_nested hnested hr') hle

/-- A chain of calls is no longer than the bound. -/
theorem EndsWithin.length_lt {n : Nat} {rules : List Rule} (h : EndsWithin n rules)
    {calls : List (List Rule)} (hcalls : List.IsChain Nests (rules :: calls)) :
    calls.length < n := by
  induction h generalizing calls with
  | @intro n rules _ ih =>
    cases calls with
    | nil => exact Nat.succ_pos n
    | cons nested calls =>
      rw [List.isChain_cons_cons] at hcalls
      exact Nat.succ_lt_succ (ih nested hcalls.1 hcalls.2)

end Harvest.Rule
