import Harvest.Proofs.Extraction.Simulation

/-!
# Outcomes that correspond

Two extractions may differ in their accesses, or even go on in different trees, and still come to
corresponding outcomes: both succeed and their results are related, or both fail and their failures
are (`Run.Corresponds`).  This is kept by all that runs are built with, and by what a rule does with
the answer to its search (`corresponds_collect`, `corresponds_apply`).  The values that two rules
make may be related in any way that carries over to lists of them.

A tree `Resembles` another through a relation of their nodes when related nodes look the same.  A
plan makes the same of related nodes (`resembles_follow`), and rules resolve to the same
(`outcome_resolve_of_resembles`): what is extracted from a node does not depend on the tree around the
nodes that can be found from there.
-/

namespace Harvest.Extraction

variable {ν ν' α α' β β' : Type}

/-! ### Runs -/

namespace Run

/-- Two runs come to corresponding outcomes: results that are related by `R`, or failures that are
related by `E`. -/
def Corresponds (E : Failure → Failure → Prop) (R : α → β → Prop) (x : Run ν α) (y : Run ν' β) :
    Prop :=
  Matched E R x.outcome y.outcome

variable {E : Failure → Failure → Prop} {R : α → α' → Prop} {S : β → β' → Prop}

theorem corresponds_pure {a : α} {b : α'} (h : R a b) :
    Corresponds E R (pure a : Run ν α) (pure b : Run ν' α') :=
  .ok h

theorem corresponds_fail {failure failure' : Failure} (h : E failure failure') :
    Corresponds E R (fail failure : Run ν α) (fail failure' : Run ν' α') :=
  .error h

theorem corresponds_access {what : Access ν} {what' : Access ν'} {a : α} {b : α'} (h : R a b) :
    Corresponds E R (access what a) (access what' b) :=
  .ok h

theorem corresponds_refl {R : α → α → Prop} (hE : ∀ failure, E failure failure)
    (hR : ∀ a, R a a) (x : Run ν α) : Corresponds E R x x :=
  Matched.refl hE hR x.outcome

theorem Corresponds.bind {x : Run ν α} {y : Run ν' α'} {f : α → Run ν β} {g : α' → Run ν' β'}
    (h : Corresponds E R x y) (hf : ∀ a b, R a b → Corresponds E S (f a) (g b)) :
    Corresponds E S (x.bind f) (y.bind g) := by
  obtain ⟨accesses, outcome⟩ := x
  obtain ⟨accesses', outcome'⟩ := y
  cases h with
  | error he => exact .error he
  | ok hab => exact hf _ _ hab

theorem Corresponds.map {x : Run ν α} {y : Run ν' α'} {f : α → β} {g : α' → β'}
    (h : Corresponds E R x y) (hf : ∀ a b, R a b → S (f a) (g b)) :
    Corresponds E S (x.map f) (y.map g) := by
  rw [map_eq_bind, map_eq_bind]
  exact h.bind fun a b hab => corresponds_pure (hf a b hab)

theorem corresponds_forAll {f : α → Run ν β} {g : α' → Run ν' β'} {as : List α} {bs : List α'}
    (h : List.Forall₂ R as bs) (hf : ∀ a b, R a b → Corresponds E S (f a) (g b)) :
    Corresponds E (List.Forall₂ S) (forAll f as) (forAll g bs) := by
  induction h with
  | nil => exact corresponds_pure .nil
  | cons hab _ ih => exact (hf _ _ hab).bind fun _ _ hs => ih.map fun _ _ hss => .cons hs hss

end Run

open Run

/-! ### Rules -/

/-- Two trees answer in the same way, with nodes that are related one by one. -/
inductive Answer.Corresponds (ρ : ν → ν' → Prop) : Answer ν → Answer ν' → Prop where
  /-- Both find nodes. -/
  | nodes {matched : List ν} {matched' : List ν'} (h : List.Forall₂ ρ matched matched') :
      Corresponds ρ (.nodes matched) (.nodes matched')
  /-- Both find nothing that could be gone through. -/
  | nothing : Corresponds ρ .nothing .nothing
  /-- Both call the selector malformed. -/
  | malformed (reason : String) : Corresponds ρ (.malformed reason) (.malformed reason)
  /-- Both fail. -/
  | failed (error : SearchError) : Corresponds ρ (.failed error) (.failed error)

theorem Answer.corresponds_refl (answer : Answer ν) : answer.Corresponds Eq answer := by
  cases answer with
  | nodes matched => exact .nodes (List.forall₂_same.2 fun _ _ => rfl)
  | nothing => exact .nothing
  | malformed reason => exact .malformed reason
  | failed error => exact .failed error

section

variable {E : Failure → Failure → Prop} {V : Value → Value → Prop} {ρ : ν → ν' → Prop}
  {r r' : Rule} {p p' : Plan} {value : ν → Run ν Value} {value' : ν' → Run ν' Value}

/-- Rules that make related values of related nodes store related values of corresponding
answers. -/
theorem corresponds_collect (hE : ∀ failure, E failure failure)
    (hV : ∀ vs vs', List.Forall₂ V vs vs' → V (.list vs) (.list vs'))
    (hselector : ∀ reason, E (.rule r (.selector reason)) (.rule r' (.selector reason)))
    (hmulti : r'.multi = r.multi)
    (hsound : Corresponds E Eq (sound r p : Run ν Unit) (sound r' p' : Run ν' Unit))
    (hvalue : ∀ m m', ρ m m' → Corresponds E V (value m) (value' m'))
    {answer : Answer ν} {answer' : Answer ν'} (h : answer.Corresponds ρ answer') :
    Corresponds E (Option.Rel V) (collect r p value answer) (collect r' p' value' answer') := by
  unfold collect
  rw [hmulti]
  cases h with
  | malformed reason => exact corresponds_fail (hselector reason)
  | failed error => exact corresponds_fail (hE _)
  | nothing =>
    simp only
    split
    · exact hsound.bind fun _ _ _ => corresponds_fail (hE _)
    · exact corresponds_pure .none
  | nodes hmatched =>
    simp only
    split
    · refine hsound.bind fun _ _ _ => (corresponds_forAll hmatched hvalue).map ?_
      exact fun vs vs' hvs => .some (hV vs vs' hvs)
    · cases hmatched with
      | nil => exact corresponds_pure .none
      | cons hm _ =>
        exact hsound.bind fun _ _ _ => (hvalue _ _ hm).map fun _ _ hv => .some hv

theorem corresponds_apply (hE : ∀ failure, E failure failure)
    (hV : ∀ vs vs', List.Forall₂ V vs vs' → V (.list vs) (.list vs'))
    (hselector : ∀ reason, E (.rule r (.selector reason)) (.rule r' (.selector reason)))
    (hs : r'.selector = r.selector) (hmulti : r'.multi = r.multi)
    (hsound : Corresponds E Eq (sound r p : Run ν Unit) (sound r' p' : Run ν' Unit))
    (hvalue : ∀ m m', ρ m m' → Corresponds E V (value m) (value' m'))
    {view : View ν} {view' : View ν'} {node : ν} {node' : ν'}
    (hfind : ∀ selector, (view.find node selector).Corresponds ρ (view'.find node' selector)) :
    Corresponds E (Option.Rel V) (apply view node r p value) (apply view' node' r' p' value') := by
  unfold apply
  rw [hs]
  split
  · exact corresponds_pure .none
  · exact corresponds_pure .none
  next selector _ _ =>
    exact (corresponds_access (hfind selector)).bind fun _ _ hanswer =>
      corresponds_collect hE hV hselector hmulti hsound hvalue hanswer

end

/-! ### Trees that resemble each other -/

/-- Nodes of two trees that are related look the same: they have the same text and attributes, and
what a selector finds from one is related to what it finds from the other. -/
structure View.Resembles (ρ : ν → ν' → Prop) (view : View ν) (view' : View ν') : Prop where
  find {n : ν} {n' : ν'} (h : ρ n n') (selector : String) :
    (view.find n selector).Corresponds ρ (view'.find n' selector)
  text {n : ν} {n' : ν'} (h : ρ n n') : view'.text n' = view.text n
  attr {n : ν} {n' : ν'} (h : ρ n n') : view'.attr n' = view.attr n

theorem View.resembles_refl (view : View ν) : view.Resembles Eq view where
  find {n n'} h selector := by
    cases h
    exact Answer.corresponds_refl _
  text h := by rw [h]
  attr h := by rw [h]

/-- What outcomes correspond to when nothing but the same will do. -/
theorem Run.corresponds_eq_iff {x : Run ν α} {y : Run ν' α} :
    Corresponds Eq Eq x y ↔ y.outcome = x.outcome := by
  unfold Corresponds
  constructor
  · intro h
    generalize x.outcome = ox, y.outcome = oy at h
    cases h with
    | ok h => rw [h]
    | error h => rw [h]
  · intro h
    rw [h]
    exact .refl (fun _ => rfl) (fun _ => rfl) x.outcome

section

variable {ρ : ν → ν' → Prop} {view : View ν} {view' : View ν'}

theorem corresponds_readAttribute (h : view.Resembles ρ view') (name : Option String) {m : ν}
    {m' : ν'} (hm : ρ m m') :
    Corresponds Eq Eq (readAttribute view name m) (readAttribute view' name m') := by
  unfold readAttribute
  rw [h.attr hm]
  split
  · exact corresponds_pure rfl
  · exact corresponds_pure rfl
  · refine (corresponds_access rfl).bind fun v v' hv => ?_
    cases hv
    split
    · exact corresponds_pure rfl
    · exact corresponds_fail rfl

mutual

/-- **A plan makes the same of nodes that look the same.** -/
theorem resembles_follow (h : view.Resembles ρ view') (r : Rule) :
    (p : Plan) → ∀ m m', ρ m m' → Corresponds Eq Eq (follow view r p m) (follow view' r p m')
  | .text, m, m', hm => by
    rw [follow, follow, readText, readText, nodeText, nodeText, h.text hm]
    exact corresponds_access rfl
  | .attr name, m, m', hm => by
    rw [follow, follow]
    exact corresponds_readAttribute h name hm
  | .object steps, m, m', hm => by
    rw [follow, follow]
    exact (resembles_fill h m m' hm steps []).map fun _ _ hes => congrArg Value.map hes
  | .flawed _, _, _, _ => corresponds_fail rfl

/-- Rules that are applied to nodes that look the same fill the same map. -/
theorem resembles_fill (h : view.Resembles ρ view') (m : ν) (m' : ν') (hm : ρ m m') :
    (steps : List (Rule × Plan)) → ∀ acc : Entries,
      Corresponds Eq Eq (fill view m steps acc) (fill view' m' steps acc)
  | [], acc => corresponds_pure rfl
  | (r, p) :: steps, acc => by
    have hlist (vs vs' : List Value) (hvs : List.Forall₂ Eq vs vs') :
        Value.list vs = .list vs' :=
      congrArg Value.list ((congrFun₂ List.forall₂_eq_eq_eq vs vs').mp hvs)
    have hsound : Corresponds Eq Eq (sound r p : Run ν Unit) (sound r p : Run ν' Unit) := by
      unfold sound
      split
      · exact corresponds_fail rfl
      · exact corresponds_pure rfl
    have happly := corresponds_apply (fun _ => rfl) hlist (fun _ => rfl) rfl rfl hsound
      (fun m m' hm => resembles_follow h r p m m' hm) (fun selector => h.find hm selector)
    rw [fill, fill]
    refine happly.bind fun v v' hv => ?_
    have hstore : store r acc v = store r acc v' := by
      cases hv with
      | none => rfl
      | some hv => rw [hv]
    rw [hstore]
    exact resembles_fill h m m' hm steps _

end

/-- **Rules resolve to the same from nodes that look the same.** -/
theorem outcome_resolve_of_resembles (h : view.Resembles ρ view') {node : ν} {node' : ν'}
    (hnode : ρ node node') (rules : List Rule) :
    (resolve view' node' rules).outcome = (resolve view node rules).outcome :=
  Run.corresponds_eq_iff.1 (resembles_fill h node node' hnode _ [])

end

end Harvest.Extraction
