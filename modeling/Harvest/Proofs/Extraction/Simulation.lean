import Harvest.Proofs.Extraction.Sequence
import Harvest.Proofs.Rule.Usable
import Mathlib.Data.List.Forall2

/-!
# Rules that act alike

The same rules can be written in more than one way.  `Rule.Simulation` lists what two ways of
writing them must have in common to be one for every tree: the fields that an extraction looks at
are equal, and the sources list rules that are related again or are both refused.  How a source is
refused may differ; a relation on flaws says how far.  Then their plans match (`Rule.plansMatch`).

`Run.Alike` relates two runs that make the same accesses and then yield the same or fail with
related failures.  It is kept by all that runs are built with.  So related rules act alike
(`actAlike`, by induction from the inner rules to the rule that holds them), and lists of them
resolve alike at every node of every tree (`resolve_alike`).
-/

namespace Harvest

/-! ### Outcomes that match -/

/-- Two outcomes match: both are results and these are related, or both are errors and these
are. -/
inductive Matched {ε α β : Type} (E : ε → ε → Prop) (R : α → β → Prop) :
    Except ε α → Except ε β → Prop where
  /-- Two results. -/
  | ok {a : α} {b : β} (h : R a b) : Matched E R (.ok a) (.ok b)
  /-- Two errors. -/
  | error {e e' : ε} (h : E e e') : Matched E R (.error e) (.error e')

/-- Any two errors; outcomes may fail in different ways. -/
def AnyErrors {ε : Type} (_ _ : ε) : Prop :=
  True

namespace Matched

variable {ε ε' α α' β β' : Type} {E : ε → ε → Prop} {E' : ε' → ε' → Prop} {R : α → β → Prop}

theorem refl {E : ε → ε → Prop} {R : α → α → Prop} (hE : ∀ e, E e e) (hR : ∀ a, R a a)
    (x : Except ε α) : Matched E R x x := by
  cases x with
  | ok a => exact .ok (hR a)
  | error e => exact .error (hE e)

variable {x : Except ε α} {y : Except ε β}

theorem imp {E' : ε → ε → Prop} {S : α → β → Prop} (h : Matched E R x y)
    (hE : ∀ e e', E e e' → E' e e') (hR : ∀ a b, R a b → S a b) :
    Matched E' S x y := by
  cases h with
  | ok h => exact .ok (hR _ _ h)
  | error h => exact .error (hE _ _ h)

/-- Matches compose where errors do not matter. -/
theorem trans {ρ : Type} {z : Except ε ρ} {S : β → ρ → Prop} {T : α → ρ → Prop}
    (h : Matched AnyErrors R x y) (h' : Matched AnyErrors S y z)
    (hT : ∀ a b c, x = .ok a → y = .ok b → z = .ok c → R a b → S b c → T a c) :
    Matched AnyErrors T x z := by
  cases h with
  | ok hab =>
    cases h' with
    | ok hbc => exact .ok (hT _ _ _ rfl rfl rfl hab hbc)
  | error _ =>
    cases h' with
    | error _ => exact .error trivial

theorem exists_ok {a : α} (h : Matched E R x y) (hx : x = .ok a) :
    ∃ b, y = .ok b ∧ R a b := by
  cases h with
  | ok hab =>
    cases hx
    exact ⟨_, rfl, hab⟩
  | error _ => cases hx

theorem exists_error {e : ε} (h : Matched E R x y) (hx : x = .error e) :
    ∃ e', y = .error e' ∧ E e e' := by
  cases h with
  | ok _ => cases hx
  | error he =>
    cases hx
    exact ⟨_, rfl, he⟩

theorem related {a : α} {b : β} (h : Matched E R x y) (hx : x = .ok a) (hy : y = .ok b) : R a b := by
  obtain ⟨b', hy', hab⟩ := h.exists_ok hx
  cases hy.symm.trans hy'
  exact hab

theorem isOk_iff (h : Matched E R x y) : (∃ a, x = .ok a) ↔ ∃ b, y = .ok b := by
  cases h with
  | ok _ => exact ⟨fun _ => ⟨_, rfl⟩, fun _ => ⟨_, rfl⟩⟩
  | error _ => exact ⟨by rintro ⟨_, ⟨⟩⟩, by rintro ⟨_, ⟨⟩⟩⟩

theorem mapResults {S : α' → β' → Prop} {f : α → α'} {g : β → β'} (h : Matched E R x y)
    (hf : ∀ a b, R a b → S (f a) (g b)) : Matched E S (x.map f) (y.map g) := by
  cases h with
  | ok h => exact .ok (hf _ _ h)
  | error h => exact .error h

theorem mapErrors {f g : ε → ε'} (h : Matched E R x y)
    (hf : ∀ e e', E e e' → E' (f e) (g e')) : Matched E' R (x.mapError f) (y.mapError g) := by
  cases h with
  | ok h => exact .ok h
  | error h => exact .error (hf _ _ h)

end Matched

/-! ### Ways to write rules -/

namespace Rule

/-- Two plans match: both are flawed, both read the same, or both fill maps by related rules. -/
inductive PlansMatch (M : Flaw → Flaw → Prop) (N : List Rule → List Rule → Prop) :
    Plan → Plan → Prop where
  /-- Two flaws. -/
  | flawed {flaw flaw' : Flaw} (h : M flaw flaw') : PlansMatch M N (.flawed flaw) (.flawed flaw')
  /-- The text. -/
  | text : PlansMatch M N .text .text
  /-- One attribute. -/
  | attr (name : Option String) : PlansMatch M N (.attr name) (.attr name)
  /-- Two lists of rules. -/
  | object {rules rules' : List Rule} (h : N rules rules') :
      PlansMatch M N (.object (plans rules)) (.object (plans rules'))

/-- Rules with the same declared kind have plans that match when what the kinds read matches. -/
theorem plansMatch {M : Flaw → Flaw → Prop} {N : List Rule → List Rule → Prop} {r r' : Rule}
    (hM : ∀ flaw, M flaw flaw) (hdeclared : r'.declared = r.declared)
    (hname : r'.attributeName = r.attributeName) (hnested : Matched M N r.nested r'.nested) :
    PlansMatch M (fun rules rules' => r.inner = rules ∧ N rules rules') r.plan r'.plan := by
  have hkind : r'.kind = r.kind := by
    unfold kind
    rw [hdeclared]
  rw [plan_eq r, plan_eq r', hkind, hname]
  cases hk : r.kind with
  | error flaw => exact .flawed (hM flaw)
  | ok k =>
    cases k with
    | text =>
      cases r.attributeName with
      | error flaw => exact .flawed (hM flaw)
      | ok name => exact .text
    | attr =>
      cases r.attributeName with
      | error flaw => exact .flawed (hM flaw)
      | ok name => exact .attr name
    | object =>
      match hn : r.nested, r'.nested, hnested with
      | .error _, .error _, .error hflaw => exact .flawed hflaw
      | .ok rules, .ok rules', .ok hrules => exact .object ⟨inner_of_nested hk hn, hrules⟩

/-- Two ways to write rules, related by `R`, in which an extraction sees no difference but in the
flaws of sources, which are related by `M`. -/
structure Simulation (M : Flaw → Flaw → Prop) (R : Rule → Rule → Prop) : Prop where
  name {r r' : Rule} (h : R r r') : r'.name = r.name
  selector {r r' : Rule} (h : R r r') : r'.selector = r.selector
  declared {r r' : Rule} (h : R r r') : r'.declared = r.declared
  multi {r r' : Rule} (h : R r r') : r'.multi = r.multi
  attributeName {r r' : Rule} (h : R r r') : r'.attributeName = r.attributeName
  nested {r r' : Rule} (h : R r r') : Matched M (List.Forall₂ R) r.nested r'.nested
  refl (flaw : Flaw) : M flaw flaw

end Rule

namespace Extraction

variable {ν α β : Type}

/-! ### Runs that are alike -/

/-- Two runs are alike: they make the same accesses, and yield the same or fail with failures that
are related by `F`. -/
structure Run.Alike (F : Failure → Failure → Prop) (x y : Run ν α) : Prop where
  accesses : x.accesses = y.accesses
  outcome : Matched F Eq x.outcome y.outcome

namespace Run

variable {F : Failure → Failure → Prop}

theorem alike_pure (a : α) : Alike F (pure a : Run ν α) (pure a) :=
  ⟨rfl, .ok rfl⟩

theorem alike_fail {failure failure' : Failure} (h : F failure failure') :
    Alike F (fail failure : Run ν α) (fail failure') :=
  ⟨rfl, .error h⟩

theorem Alike.refl (hF : ∀ failure, F failure failure) (x : Run ν α) : Alike F x x :=
  ⟨rfl, .refl hF (fun _ => rfl) x.outcome⟩

theorem Alike.bind {x y : Run ν α} {f g : α → Run ν β} (h : Alike F x y)
    (hf : ∀ a, Alike F (f a) (g a)) : Alike F (x.bind f) (y.bind g) := by
  obtain ⟨xs, ox⟩ := x
  obtain ⟨ys, oy⟩ := y
  obtain ⟨haccesses, houtcome⟩ := h
  cases houtcome with
  | error h => exact ⟨haccesses, .error h⟩
  | @ok a _ h =>
    -- both runs go on from the same result
    cases h
    exact ⟨congrArg₂ (· ++ ·) haccesses (hf a).accesses, (hf a).outcome⟩

theorem Alike.map {x y : Run ν α} (h : Alike F x y) (f : α → β) :
    Alike F (x.map f) (y.map f) := by
  rw [map_eq_bind, map_eq_bind]
  exact h.bind fun a => alike_pure (f a)

theorem alike_forAll {f g : α → Run ν β} (h : ∀ a, Alike F (f a) (g a)) (as : List α) :
    Alike F (forAll f as) (forAll g as) := by
  induction as with
  | nil => exact alike_pure []
  | cons a as ih => exact (h a).bind fun b => ih.map (b :: ·)

end Run

/-! ### Rules that act alike -/

open Run

/-- Two failures are alike: they are one, or they blame related rules for related flaws. -/
inductive Failure.Alike (M : Rule.Flaw → Rule.Flaw → Prop) (R : Rule → Rule → Prop) :
    Failure → Failure → Prop where
  /-- One failure. -/
  | same (failure : Failure) : Alike M R failure failure
  /-- Two rules with a flaw. -/
  | flaw {r r' : Rule} {flaw flaw' : Rule.Flaw} (h : R r r') (hflaw : M flaw flaw') :
      Alike M R (.ofFlaw r flaw) (.ofFlaw r' flaw')

/-- Two rules with their plans act alike: the plans are both sound or both flawed, and make the same
of every node. -/
structure ActAlike (F : Failure → Failure → Prop) (view : View ν) (r : Rule) (p : Plan) (r' : Rule)
    (p' : Plan) : Prop where
  sound : Alike F (sound r p : Run ν Unit) (sound r' p')
  follow (m : ν) : Alike F (follow view r p m) (follow view r' p' m)

section

variable {M : Rule.Flaw → Rule.Flaw → Prop} {R : Rule → Rule → Prop} {view : View ν}
  {r r' : Rule} {p p' : Plan}

theorem actAlike_of_flaw {flaw flaw' : Rule.Flaw} (hr : R r r') (hflaw : M flaw flaw') :
    ActAlike (Failure.Alike M R) view r (.flawed flaw) r' (.flawed flaw') :=
  ⟨alike_fail (.flaw hr hflaw), fun _ => alike_fail (.flaw hr hflaw)⟩

/-- What a rule stores, a rule that acts alike stores as well. -/
theorem alike_collect (hs : Rule.Simulation M R) (hr : R r r')
    (h : ActAlike (Failure.Alike M R) view r p r' p') (answer : Answer ν) :
    Alike (Failure.Alike M R) (collect r p (fun m => follow view r p m) answer)
      (collect r' p' (fun m => follow view r' p' m) answer) := by
  unfold collect
  rw [hs.multi hr]
  cases answer with
  | malformed reason => exact alike_fail (.flaw hr (hs.refl (.selector reason)))
  | failed error => exact alike_fail (.same _)
  | nothing =>
    simp only
    split
    · exact h.sound.bind fun _ => alike_fail (.same _)
    · exact alike_pure none
  | nodes matched =>
    simp only
    split
    · exact h.sound.bind fun _ => (alike_forAll h.follow matched).map _
    · cases matched with
      | nil => exact alike_pure none
      | cons m ms => exact h.sound.bind fun _ => (h.follow m).map some

theorem alike_apply (hs : Rule.Simulation M R) (hr : R r r')
    (h : ActAlike (Failure.Alike M R) view r p r' p') (node : ν) :
    Alike (Failure.Alike M R) (apply view node r p fun m => follow view r p m)
      (apply view node r' p' fun m => follow view r' p' m) := by
  unfold apply
  rw [hs.selector hr]
  split
  · exact alike_pure none
  · exact alike_pure none
  · exact (Alike.refl .same _).bind (alike_collect hs hr h)

/-- Rules that act alike one by one do so in a row. -/
theorem alike_fill (hs : Rule.Simulation M R) {rules rules' : List Rule}
    (h : List.Forall₂
      (fun r r' => R r r' ∧ ActAlike (Failure.Alike M R) view r r.plan r' r'.plan) rules rules')
    (node : ν) (acc : Entries) :
    Alike (Failure.Alike M R) (fill view node (Rule.plans rules) acc)
      (fill view node (Rule.plans rules') acc) := by
  induction h generalizing acc with
  | nil => exact alike_pure acc
  | @cons r r' rules rules' h _ ih =>
    rw [fill_plans_cons, fill_plans_cons]
    refine (alike_apply hs h.1 h.2 node).bind fun v => ?_
    have hstore : store r' acc v = store r acc v := by
      unfold store
      rw [hs.name h.1]
    rw [hstore]
    exact ih (store r acc v)

/-- Related rules act alike. -/
theorem actAlike (hs : Rule.Simulation M R) (h : R r r') :
    ActAlike (Failure.Alike M R) view r r.plan r' r'.plan := by
  induction r using Rule.inner_induction generalizing r' with
  | step r ih =>
    have hplans := Rule.plansMatch hs.refl (hs.declared h) (hs.attributeName h) (hs.nested h)
    generalize r.plan = p, r'.plan = p' at hplans
    cases hplans with
    | flawed hflaw => exact actAlike_of_flaw h hflaw
    | text => exact ⟨alike_pure (), fun _ => .refl .same _⟩
    | attr name => exact ⟨alike_pure (), fun _ => .refl .same _⟩
    | @object rules rules' hrules =>
      obtain ⟨hinner, hrules⟩ := hrules
      have hall : List.Forall₂ (fun q q' => R q q' ∧
          ActAlike (Failure.Alike M R) view q q.plan q' q'.plan) rules rules' := by
        have hmem : ∀ q ∈ rules, q ∈ r.inner := fun q hq => hinner ▸ hq
        exact ((List.forall₂_and_left _ _).2 ⟨hmem, hrules⟩).imp fun q q' hq =>
          ⟨hq.2, ih q hq.1 hq.2⟩
      exact ⟨alike_pure (), fun m => (alike_fill hs hall m []).map Value.map⟩

/-- **Related rules resolve alike** at every node of every tree. -/
theorem resolve_alike (hs : Rule.Simulation M R) {rules rules' : List Rule}
    (h : List.Forall₂ R rules rules') (node : ν) :
    Alike (Failure.Alike M R) (resolve view node rules) (resolve view node rules') :=
  alike_fill hs (h.imp fun _ _ hr => ⟨hr, actAlike hs hr⟩) node []

end

end Extraction

end Harvest
