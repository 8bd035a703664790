import Harvest.Value.Basic

/-!
# Nesting depth of values

`Value.depth` counts how deep lists, tuples, maps and rules are nested in a value.  It is the measure
by which work on nested values ends: what a list or a map holds is less deep than the list or map
(`depth_lt_of_mem_list`, `depth_lt_of_get?`).
-/

namespace Harvest.Value

mutual
/-- How deep a value is nested. -/
def depth : Value → Nat
  | list vs => depthAll vs + 1
  | tuple vs => depthAll vs + 1
  | map es => depthEntries es + 1
  | rule _ _ declared source _ => max declared.depth source.depth + 1
  | _ => 0

/-- The greatest depth among some values. -/
def depthAll : List Value → Nat
  | [] => 0
  | v :: vs => max v.depth (depthAll vs)

/-- The greatest depth among the values of some entries. -/
def depthEntries : List (String × Value) → Nat
  | [] => 0
  | (_, v) :: es => max v.depth (depthEntries es)
end

theorem depth_le_depthAll {v : Value} {vs : List Value} (h : v ∈ vs) : v.depth ≤ depthAll vs := by
  induction vs with
  | nil => cases h
  | cons w vs ih =>
    rw [depthAll]
    rcases List.mem_cons.1 h with rfl | h
    · exact Nat.le_max_left ..
    · exact Nat.le_trans (ih h) (Nat.le_max_right ..)

/-- An element of a list is less deep than the list. -/
theorem depth_lt_of_mem_list {v : Value} {vs : List Value} (h : v ∈ vs) :
    v.depth < (list vs).depth := by
  rw [depth]
  exact Nat.lt_succ_of_le (depth_le_depthAll h)

theorem depth_le_depthEntries {es : List (String × Value)} {e : String × Value} (h : e ∈ es) :
    e.2.depth ≤ depthEntries es := by
  induction es with
  | nil => cases h
  | cons e' es ih =>
    rw [depthEntries]
    rcases List.mem_cons.1 h with rfl | h
    · exact Nat.le_max_left ..
    · exact Nat.le_trans (ih h) (Nat.le_max_right ..)

/-- The value of an entry is less deep than the map. -/
theorem depth_lt_of_mem_map {es : Entries} {e : String × Value} (h : e ∈ es) :
    e.2.depth < (map es).depth := by
  rw [depth]
  exact Nat.lt_succ_of_le (depth_le_depthEntries h)

/-- The value under a key is less deep than the map. -/
theorem depth_lt_of_get? {es : Entries} {key : String} {v : Value} (h : es.get? key = some v) :
    v.depth < (map es).depth :=
  depth_lt_of_mem_map (Entries.mem_of_get? h)

end Harvest.Value
