import Harvest.Proofs.Extraction.Sequence

/-!
# What runs yield

`Run.Yields P` says of a run that its result, if it has one, is as `P` says.  It is kept by all that
runs are built with, so a property of values that lists keep passes from the values that are made of
nodes to what a rule stores (`yields_apply`), whatever the tree answers.
-/

namespace Harvest.Extraction

/-! ### Runs -/

namespace Run

variable {ν α β : Type} {P : α → Prop} {Q : β → Prop}

/-- What a run yields, if it does not fail, is as `P` says. -/
def Yields (P : α → Prop) (x : Run ν α) : Prop :=
  ∀ a, x.outcome = .ok a → P a

theorem Yields.imp {P' : α → Prop} {x : Run ν α} (h : Yields P x) (hP : ∀ a, P a → P' a) :
    Yields P' x :=
  fun a ha => hP a (h a ha)

theorem yields_pure {a : α} (h : P a) : Yields P (pure a : Run ν α) := by
  intro b hb
  cases hb
  exact h

theorem yields_fail (failure : Failure) : Yields P (fail failure : Run ν α) := by
  intro b hb
  cases hb

theorem Yields.bind {x : Run ν α} {f : α → Run ν β} (hx : Yields P x)
    (hf : ∀ a, P a → Yields Q (f a)) : Yields Q (x.bind f) := by
  intro b hb
  obtain ⟨a, ha, hb⟩ := outcome_bind_eq_ok_iff.1 hb
  exact hf a (hx a ha) b hb

theorem Yields.map {x : Run ν α} {f : α → β} (hx : Yields P x) (hf : ∀ a, P a → Q (f a)) :
    Yields Q (x.map f) := by
  intro b hb
  obtain ⟨a, ha, rfl⟩ := outcome_map_eq_ok_iff.1 hb
  exact hf a (hx a ha)

/-- The run that lets pass whatever its outcome. -/
theorem yields_true (x : Run ν α) : Yields (fun _ => True) x :=
  fun _ _ => trivial

theorem yields_forAll {f : α → Run ν β} (hf : ∀ a, Yields Q (f a)) (as : List α) :
    Yields (fun bs => ∀ b ∈ bs, Q b) (forAll f as) := by
  induction as with
  | nil => exact yields_pure (by simp)
  | cons a as ih =>
    refine (hf a).bind fun b hb => ih.map fun bs hbs => ?_
    exact List.forall_mem_cons.2 ⟨hb, hbs⟩

end Run

/-! ### Rules -/

open Run

variable {ν : Type} {view : View ν}

theorem yields_readText (node : ν) : Yields (fun v => ∃ s, v = .text s) (readText view node) := by
  intro v hv
  cases hv
  exact ⟨_, rfl⟩

theorem yields_readAttribute (name : Option String) (node : ν) :
    Yields (fun v => ∃ s, v = .text s) (readAttribute view name node) := by
  unfold readAttribute
  split
  · exact yields_pure ⟨_, rfl⟩
  · exact yields_pure ⟨_, rfl⟩
  · refine (yields_true _).bind fun v _ => ?_
    split
    · exact yields_pure ⟨_, rfl⟩
    · exact yields_fail _

variable {P : Value → Prop} {value : ν → Run ν Value}

/-- What a rule stores is as the values that it makes of nodes are. -/
theorem yields_collect (hlist : ∀ vs, (∀ v ∈ vs, P v) → P (.list vs))
    (h : ∀ node, Yields P (value node)) (r : Rule) (p : Plan) (answer : Answer ν) :
    Yields (fun stored => ∀ v ∈ stored, P v) (collect r p value answer) := by
  unfold collect
  split
  · exact yields_fail _
  · exact yields_fail _
  · split
    · exact (yields_true _).bind fun _ _ => yields_fail _
    · exact yields_pure (by simp)
  next matched =>
    split
    · refine (yields_true _).bind fun _ _ => (yields_forAll h matched).map fun vs hvs => ?_
      simpa only [Option.mem_some_iff, forall_eq'] using hlist vs hvs
    · split
      · exact yields_pure (by simp)
      next node _ =>
        refine (yields_true _).bind fun _ _ => (h node).map fun v hv => ?_
        simpa only [Option.mem_some_iff, forall_eq'] using hv

theorem yields_apply (hlist : ∀ vs, (∀ v ∈ vs, P v) → P (.list vs))
    (h : ∀ node, Yields P (value node)) (node : ν) (r : Rule) (p : Plan) :
    Yields (fun stored => ∀ v ∈ stored, P v) (apply view node r p value) := by
  unfold apply
  split
  · exact yields_pure (by simp)
  · exact yields_pure (by simp)
  · exact (yields_true _).bind fun answer _ => yields_collect hlist h r p answer

end Harvest.Extraction
