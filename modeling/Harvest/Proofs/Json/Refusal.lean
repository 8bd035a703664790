import Harvest.Json.Write

/-!
# Where JSON text breaks off

Whether a value has a JSON form, and which is the first part without one (`misfit?`), does not
depend on the layout or the level it is written at (`breaksAt_writeAt`).  A list breaks off at
its first element without a JSON form, so what follows there makes no difference
(`write_append_of_error`).
-/

namespace Harvest.Json

variable {l : Layout}

mutual
/-- The first part of a value that has no JSON form. -/
def misfit? : Value → Option Misfit
  | .int n => if Text.Numeral.isLong n then some .longInteger else none
  | .list vs => misfitAll? vs
  | .tuple vs => misfitAll? vs
  | .map es => misfitEntries? es
  | v@(.bytes _) => some (.kind v.typeName)
  | v@(.buffer _) => some (.kind v.typeName)
  | v@(.rule ..) => some (.kind v.typeName)
  | _ => none

/-- The first part of some values that has no JSON form. -/
def misfitAll? : List Value → Option Misfit
  | [] => none
  | v :: vs => (misfit? v).or (misfitAll? vs)

/-- The first part of some entries that has no JSON form. -/
def misfitEntries? : List (String × Value) → Option Misfit
  | [] => none
  | (_, v) :: es => (misfit? v).or (misfitEntries? es)
end

/-- Text breaks off at this part without a JSON form, if there is one. -/
def BreaksAt (part? : Option Misfit) (text : Output) : Prop :=
  match part? with
  | none => ∃ s, text = .ok s
  | some misfit => ∃ written, text = .error ⟨written, misfit⟩

theorem breaksAt_ok (s : String) : BreaksAt none (.ok s) :=
  ⟨s, rfl⟩

theorem breaksAt_integer (n : Int) :
    BreaksAt (if Text.Numeral.isLong n then some .longInteger else none) (integer n) := by
  unfold integer
  split
  · exact ⟨"", rfl⟩
  · exact breaksAt_ok _

theorem BreaksAt.after {part? : Option Misfit} {text : Output} (h : BreaksAt part? text)
    (front : String) : BreaksAt part? (text.after front) := by
  cases part? with
  | none =>
    obtain ⟨s, rfl⟩ := h
    exact ⟨front ++ s, rfl⟩
  | some misfit =>
    obtain ⟨written, rfl⟩ := h
    exact ⟨front ++ written, rfl⟩

theorem BreaksAt.append {part? later? : Option Misfit} {text later : Output}
    (h : BreaksAt part? text) (hlater : BreaksAt later? later) :
    BreaksAt (part?.or later?) (text.append later) := by
  cases part? with
  | none =>
    obtain ⟨s, rfl⟩ := h
    exact hlater.after s
  | some misfit =>
    obtain ⟨written, rfl⟩ := h
    exact ⟨written, rfl⟩

mutual
/-- **Where text breaks off depends on the value alone.** -/
theorem breaksAt_writeAt (l : Layout) (level : Nat) : (v : Value) →
    BreaksAt (misfit? v) (writeAt l level v)
  | .null | .bool _ | .float _ | .text _ => breaksAt_ok _
  | .int n => breaksAt_integer n
  | .list [] | .tuple [] | .map [] => breaksAt_ok _
  | .list (v :: vs) | .tuple (v :: vs) =>
    ((breaksAt_writeAt l (level + 1) v).append (breaksAt_writeElements l level vs)).after _
  | .map ((_, v) :: es) =>
    ((breaksAt_writeAt l (level + 1) v).append (breaksAt_writeEntries l level es)).after _
  | .bytes _ | .buffer _ | .rule .. => ⟨"", rfl⟩

theorem breaksAt_writeElements (l : Layout) (level : Nat) : (vs : List Value) →
    BreaksAt (misfitAll? vs) (writeElements l level vs)
  | [] => breaksAt_ok _
  | v :: vs =>
    ((breaksAt_writeAt l (level + 1) v).append (breaksAt_writeElements l level vs)).after _

theorem breaksAt_writeEntries (l : Layout) (level : Nat) : (es : List (String × Value)) →
    BreaksAt (misfitEntries? es) (writeEntries l level es)
  | [] => breaksAt_ok _
  | (_, v) :: es =>
    ((breaksAt_writeAt l (level + 1) v).append (breaksAt_writeEntries l level es)).after _
end

/-- A value has a JSON form exactly if no part of it lacks one. -/
theorem exists_write_iff {v : Value} : (∃ s, write l v = .ok s) ↔ misfit? v = none := by
  have hbreaks := breaksAt_writeAt l 0 v
  constructor
  · rintro ⟨s, hs⟩
    cases hmisfit : misfit? v with
    | none => rfl
    | some misfit =>
      rw [hmisfit] at hbreaks
      obtain ⟨written, hwritten⟩ := hbreaks
      cases hs.symm.trans hwritten
  · intro hmisfit
    rwa [hmisfit] at hbreaks

theorem misfitAll?_append (vs ws : List Value) :
    misfitAll? (vs ++ ws) = (misfitAll? vs).or (misfitAll? ws) := by
  induction vs with
  | nil => rfl
  | cons v vs ih => rw [List.cons_append, misfitAll?, misfitAll?, ih, Option.or_assoc]

/-- Text that breaks off does so whatever is written behind the break. -/
theorem after_append_of_error {front : String} {text later later' : Output} {r : Refusal}
    (h : Output.after front (text.append later) = .error r)
    (hlater : ∀ r, later = .error r → later' = .error r) :
    Output.after front (text.append later') = .error r := by
  cases text with
  | error r' => exact h
  | ok s =>
    cases later with
    | error r' =>
      rw [hlater r' rfl]
      exact h
    | ok t => cases h

theorem writeElements_append_of_error {level : Nat} {vs : List Value} {r : Refusal}
    (h : writeElements l level vs = .error r) (more : List Value) :
    writeElements l level (vs ++ more) = .error r := by
  induction vs generalizing r with
  | nil => cases h
  | cons v vs ih =>
    rw [List.cons_append, writeElements]
    rw [writeElements] at h
    exact after_append_of_error h fun _ => ih

/-- **A list breaks off at the first element without a JSON form**, whatever follows it. -/
theorem write_append_of_error {vs : List Value} {r : Refusal} (h : write l (.list vs) = .error r)
    (more : List Value) : write l (.list (vs ++ more)) = .error r := by
  cases vs with
  | nil => cases h
  | cons v vs =>
    rw [write, List.cons_append, writeAt]
    rw [write, writeAt] at h
    exact after_append_of_error h fun _ hvs => writeElements_append_of_error hvs more

end Harvest.Json
