import Harvest.Selector.Match
import Mathlib.Logic.Relation

/-!
# What lies below a place

The elements that a search goes through are exactly those below the place that is searched, that is,
those which steps from a place to one directly inside it lead to (`mem_descendants_iff`).  So a
selector matches only below that place (`below_of_mem_select`).  The address of a place ends with the
addresses of all places around it (`suffix_of_below`).
-/

namespace Harvest.Markup.Place

/-- A place is directly inside another. -/
def Child (p q : Place) : Prop :=
  q ∈ p.children

variable {p q : Place}

/-! ### Addresses -/

theorem address_of_child (h : Child p q) : q.address = q.index :: p.address := by
  obtain ⟨n, -, rfl⟩ := List.mem_map.1 h
  rfl

/-- The way to a place leads through all places around it. -/
theorem suffix_of_below (h : Relation.ReflTransGen Child p q) : p.address <:+ q.address := by
  induction h with
  | refl => exact List.suffix_rfl
  | tail _ hstep ih =>
    rw [address_of_child hstep]
    exact ih.trans (List.suffix_cons _ _)

/-! ### Walks -/

/-- A walk from a node starts there and goes on inside. -/
theorem walk_eq_cons (above : List (Node × Nat)) (i : Nat) (n : Node) :
    walk false above i n = ⟨n, i, above⟩ :: walkAll false ((n, i) :: above) 0 n.children := by
  cases n with
  | element name attributes children => rw [walk]; rfl
  | text kind s => rw [walk]; rfl

theorem mem_sideBySide_cons {above : List (Node × Nat)} {i : Nat} {n : Node} {ns : List Node} :
    p ∈ sideBySide above i (n :: ns) ↔ p = ⟨n, i, above⟩ ∨ p ∈ sideBySide above (i + 1) ns := by
  simp only [sideBySide, List.zipIdx_cons, List.map_cons, List.mem_cons]

/-- A walk through neighbours goes through all that is walked from one of them. -/
theorem mem_walkAll {above : List (Node × Nat)} {i : Nat} {ns : List Node}
    (hp : p ∈ sideBySide above i ns) (h : q ∈ walk false p.above p.index p.node) :
    q ∈ walkAll false above i ns := by
  induction ns generalizing i with
  | nil => cases hp
  | cons n ns ih =>
    rw [walkAll, List.mem_append]
    obtain rfl | hp := mem_sideBySide_cons.1 hp
    · exact .inl h
    · exact .inr (ih hp)

mutual
/-- A walk from a place leads only to places below it. -/
theorem below_of_mem_walk : (n : Node) → ∀ {i : Nat} {above : List (Node × Nat)} {q : Place},
    q ∈ walk false above i n → Relation.ReflTransGen Child ⟨n, i, above⟩ q
  | .text kind s, i, above, q, h => by
    rw [walk, List.mem_singleton] at h
    rw [h]
  | .element name attributes children, i, above, q, h => by
    rw [walk_eq_cons, List.mem_cons] at h
    obtain rfl | h := h
    · exact .refl
    · obtain ⟨p, hp, hbelow⟩ := below_of_mem_walkAll children h
      exact .head hp hbelow

/-- A walk through neighbours leads only to places below them. -/
theorem below_of_mem_walkAll : (ns : List Node) → ∀ {i : Nat} {above : List (Node × Nat)}
    {q : Place}, q ∈ walkAll false above i ns →
      ∃ p ∈ sideBySide above i ns, Relation.ReflTransGen Child p q
  | [], _, _, _, h => by
    rw [walkAll] at h
    cases h
  | n :: ns, i, above, q, h => by
    rw [walkAll, List.mem_append] at h
    obtain h | h := h
    · exact ⟨_, mem_sideBySide_cons.2 (.inl rfl), below_of_mem_walk n h⟩
    · obtain ⟨p, hp, hbelow⟩ := below_of_mem_walkAll ns h
      exact ⟨p, mem_sideBySide_cons.2 (.inr hp), hbelow⟩
end

/-- A walk leads to all places below its start. -/
theorem mem_walk_of_below (h : Relation.ReflTransGen Child p q) :
    q ∈ walk false p.above p.index p.node := by
  induction h using Relation.ReflTransGen.head_induction_on with
  | refl =>
    rw [walk_eq_cons]
    exact List.mem_cons_self
  | head hstep _ ih =>
    rw [walk_eq_cons]
    exact List.mem_cons_of_mem _ (mem_walkAll hstep ih)

/-! ### Descendants -/

/-- **What is searched is what lies below**: the descendants of a place are the elements that one or
more steps inside lead to. -/
theorem mem_descendants_iff :
    q ∈ p.descendants false ↔ q.isElement ∧ Relation.TransGen Child p q := by
  rw [descendants, Bool.false_and, if_neg Bool.false_ne_true, List.mem_filter, and_comm]
  refine and_congr_right fun _ => ⟨fun h => ?_, fun h => ?_⟩
  · obtain ⟨m, hm, hbelow⟩ := below_of_mem_walkAll _ h
    exact .head' hm hbelow
  · obtain ⟨m, hm, hbelow⟩ := Relation.TransGen.head'_iff.1 h
    exact mem_walkAll hm (mem_walk_of_below hbelow)

/-- A selector matches only below the place that is searched. -/
theorem below_of_mem_select {alternatives : List Selector.Complex}
    (h : q ∈ Selector.select alternatives p) : Relation.TransGen Child p q :=
  (mem_descendants_iff.1 (List.mem_filter.1 h).1).2

end Harvest.Markup.Place
