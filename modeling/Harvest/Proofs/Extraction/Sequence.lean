import Harvest.Extraction.Resolve
import Harvest.Proofs.Value.Update

/-!
# Sequences of rules

A list of rules is resolved rule by rule, each by its own run (`applyRule`), and what has been
stored before makes no difference to what a rule searches or stores.  Hence a run over two lists
in a row is the run over the first and then the run over the second, whose map updates the map of
the first (`resolve_append`).

Unfolded into outcome and accesses this is `resolve_compositional`, which also says which map a
list of rules yields: a key stands where a rule first wrote it and holds what the last rule of
that name wrote (`written`), and a rule without a match leaves everything as it is.
-/

namespace Harvest.Extraction

/-! ### Runs in a row -/

namespace Run

variable {ν α β γ : Type}

theorem bind_of_ok {x : Run ν α} {a : α} (h : x.outcome = .ok a) (f : α → Run ν β) :
    x.bind f = ⟨x.accesses ++ (f a).accesses, (f a).outcome⟩ := by
  simp only [bind, h]

theorem bind_of_error {x : Run ν α} {failure : Failure} (h : x.outcome = .error failure)
    (f : α → Run ν β) : x.bind f = ⟨x.accesses, .error failure⟩ := by
  simp only [bind, h]

theorem outcome_bind_eq_ok_iff {x : Run ν α} {f : α → Run ν β} {b : β} :
    (x.bind f).outcome = .ok b ↔ ∃ a, x.outcome = .ok a ∧ (f a).outcome = .ok b := by
  cases h : x.outcome with
  | error failure => simp [bind_of_error h]
  | ok a => simp [bind_of_ok h]

theorem outcome_map_eq_ok_iff {x : Run ν α} {f : α → β} {b : β} :
    (x.map f).outcome = .ok b ↔ ∃ a, x.outcome = .ok a ∧ f a = b := by
  cases h : x.outcome <;> simp [map, h, Except.map]

theorem map_eq_bind (f : α → β) (x : Run ν α) : x.map f = x.bind fun a => pure (f a) := by
  cases h : x.outcome with
  | error failure => simp [bind_of_error h, map, h, Except.map]
  | ok a => simp [bind_of_ok h, map, h, Except.map, pure]

theorem map_bind (x : Run ν α) (f : α → Run ν β) (g : β → γ) :
    (x.bind f).map g = x.bind fun a => (f a).map g := by
  simp only [map_eq_bind, bind_assoc]

theorem map_map (x : Run ν α) (f : α → β) (g : β → γ) :
    (x.map f).map g = x.map fun a => g (f a) := by
  simp only [map_eq_bind, bind_assoc, pure_bind]

end Run

/-! ### Rules in a row -/

variable {ν : Type} {view : View ν} {node : ν}

/-- The run of one rule at a node, by its plan: what it stores. -/
def applyRule (view : View ν) (node : ν) (r : Rule) : Run ν (Option Value) :=
  apply view node r r.plan fun m => follow view r r.plan m

theorem fill_plans_cons (r : Rule) (rules : List Rule) (acc : Entries) :
    fill view node (Rule.plans (r :: rules)) acc =
      (applyRule view node r).bind fun v => fill view node (Rule.plans rules) (store r acc v) :=
  rfl

theorem fill_append (steps more : List (Rule × Plan)) (acc : Entries) :
    fill view node (steps ++ more) acc =
      (fill view node steps acc).bind fun es => fill view node more es := by
  induction steps generalizing acc with
  | nil => rw [List.nil_append, fill, Run.pure_bind]
  | cons s steps ih => simp only [List.cons_append, fill, Run.bind_assoc, ih]

/-- To store and update is to update with what is stored first. -/
theorem update_store (r : Rule) (v : Option Value) (acc es : Entries) :
    acc.update ((store r [] v).update es) = (store r acc v).update es := by
  cases v with
  | none => exact Entries.update_ofList acc es
  | some v => exact Entries.update_ofList acc ((r.name, v) :: es)

/-- Rules store into a map what they store into the empty one. -/
theorem fill_eq_map_update (steps : List (Rule × Plan)) (acc : Entries) :
    fill view node steps acc = (fill view node steps []).map acc.update := by
  induction steps generalizing acc with
  | nil => rfl
  | cons s steps ih =>
    obtain ⟨r, p⟩ := s
    simp only [fill]
    rw [Run.map_bind]
    congr 1
    funext v
    -- both sides go on with a map of their own, so the hypothesis is used twice
    rw [ih (store r acc v), ih (store r [] v), Run.map_map]
    simp only [update_store]

/-- **Two lists of rules in a row**: first the one, and then the other, whose map updates the
map of the first. -/
theorem resolve_append (rules more : List Rule) :
    resolve view node (rules ++ more) =
      (resolve view node rules).bind fun es => (resolve view node more).map es.update := by
  simp only [resolve, Rule.plans, List.map_append, fill_append]
  congr 1
  funext es
  exact fill_eq_map_update _ es

theorem resolve_cons (r : Rule) (rules : List Rule) :
    resolve view node (r :: rules) =
      (applyRule view node r).bind fun v =>
        (resolve view node rules).map (store r [] v).update := by
  rw [resolve, fill_plans_cons]
  congr 1
  funext v
  exact fill_eq_map_update _ _

theorem resolve_singleton (r : Rule) :
    resolve view node [r] = (applyRule view node r).map (store r []) := by
  rw [resolve_cons, Run.map_eq_bind]
  rfl

/-! ### What rules write -/

/-- The value that a rule writes at a node, if it writes one: the value that the rule yields
when it is resolved alone. -/
def written (view : View ν) (node : ν) (r : Rule) : Option Value :=
  match (resolve view node [r]).outcome with
  | .ok es => es.get? r.name
  | .error _ => none

/-- What some rules write at a node, each under its name. -/
def writes (view : View ν) (node : ν) (rules : List Rule) : List (String × Value) :=
  rules.filterMap fun r => (written view node r).map fun v => (r.name, v)

theorem written_of_outcome {r : Rule} {v : Option Value}
    (h : (applyRule view node r).outcome = .ok v) : written view node r = v := by
  have hes : (resolve view node [r]).outcome = .ok (store r [] v) := by
    rw [resolve_singleton, Run.outcome_map_eq_ok_iff]
    exact ⟨v, h, rfl⟩
  rw [written, hes]
  cases v with
  | none => rfl
  | some v => exact (Entries.get?_put ..).trans (if_pos rfl)

/-- The map of some rules is made of what each of them writes. -/
theorem eq_ofList_writes {rules : List Rule} {es : Entries}
    (h : (resolve view node rules).outcome = .ok es) :
    es = Entries.ofList (writes view node rules) := by
  induction rules generalizing es with
  | nil =>
    cases h
    rfl
  | cons r rules ih =>
    rw [resolve_cons, Run.outcome_bind_eq_ok_iff] at h
    obtain ⟨v, hv, h⟩ := h
    obtain ⟨fs, hfs, rfl⟩ := Run.outcome_map_eq_ok_iff.1 h
    have hw : writes view node (r :: rules) =
        (v.map fun v => (r.name, v)).toList ++ writes view node rules := by
      rw [writes, List.filterMap_cons, written_of_outcome hv]
      cases v <;> rfl
    rw [ih hfs, hw]
    cases v with
    | none => exact Entries.update_ofList [] _
    | some v => exact Entries.update_ofList [(r.name, v)] _

theorem keys_writes (rules : List Rule) :
    Entries.keys (writes view node rules) =
      (rules.filter fun r => (written view node r).isSome).map Rule.name := by
  induction rules with
  | nil => rfl
  | cons r rules ih =>
    cases hv : written view node r with
    | none => simpa [writes, Entries.keys, hv] using ih
    | some v => simpa [writes, Entries.keys, hv] using ih

theorem mem_writes_iff {rules : List Rule} {key : String} {v : Value} :
    (key, v) ∈ writes view node rules ↔
      ∃ r ∈ rules, r.name = key ∧ written view node r = some v := by
  simp [writes, and_comm]

theorem writes_append_cons (before after : List Rule) {r : Rule} {v : Value}
    (h : written view node r = some v) :
    writes view node (before ++ r :: after) =
      writes view node before ++ (r.name, v) :: writes view node after := by
  simp [writes, h]

/-- The map of some rules holds under a key what the last rule of that name wrote. -/
theorem get?_ofList_writes_iff {rules : List Rule} {key : String} {v : Value} :
    (Entries.ofList (writes view node rules)).get? key = some v ↔
      ∃ before r after, rules = before ++ r :: after ∧ r.name = key ∧
        written view node r = some v ∧
        ∀ r' ∈ after, r'.name = key → written view node r' = none := by
  rw [Entries.get?_ofList_eq_some_iff]
  constructor
  · rintro ⟨ps, qs, hw, hq⟩
    obtain ⟨rs, more, rfl, -, hmore⟩ := List.filterMap_eq_append_iff.1 hw
    obtain ⟨rs', r, after, rfl, -, hr, hafter⟩ := List.filterMap_eq_cons_iff.1 hmore
    obtain ⟨w, hw, he⟩ := Option.map_eq_some_iff.1 hr
    cases he
    refine ⟨rs ++ rs', r, after, by simp, rfl, hw, fun r' hr' hn => ?_⟩
    -- what a later rule of the name wrote would stand among the later pairs
    by_contra hne
    obtain ⟨u, hu⟩ := Option.ne_none_iff_exists'.1 hne
    have hmem : (r.name, u) ∈ writes view node after := mem_writes_iff.2 ⟨r', hr', hn, hu⟩
    rw [writes, hafter] at hmem
    exact hq _ hmem rfl
  · rintro ⟨before, r, after, rfl, rfl, hr, hlast⟩
    refine ⟨_, _, writes_append_cons before after hr, ?_⟩
    rintro ⟨key, w⟩ he hkey
    obtain ⟨r', hr', hn, hw⟩ := mem_writes_iff.1 he
    rw [hlast r' hr' (hn.trans hkey)] at hw
    cases hw

/-- A rule for the first match that has none stores nothing. -/
theorem applyRule_of_unmatched {r : Rule} {selector : String} (hm : r.multi ≠ some true)
    (hs : r.selector = some selector) (hf : view.find node selector = .nodes []) :
    (applyRule view node r).outcome = .ok none := by
  unfold applyRule apply
  split
  · rfl
  · rfl
  next s _ h =>
    cases hs.symm.trans h
    rw [hf, Run.bind_of_ok rfl]
    simp [collect, hm, Run.pure]

/-- A rule that stores nothing makes no difference to the outcome. -/
theorem outcome_resolve_of_idle {r : Rule} (h : (applyRule view node r).outcome = .ok none)
    (before after : List Rule) :
    (resolve view node (before ++ r :: after)).outcome =
      (resolve view node (before ++ after)).outcome := by
  have hmap (fs : Entries) : (resolve view node (r :: after)).map fs.update =
      (applyRule view node r).bind fun v =>
        (resolve view node after).map (Entries.update (store r fs v)) := by
    rw [resolve_cons, Run.map_bind]
    simp only [Run.map_map, update_store]
  rw [resolve_append, resolve_append]
  cases hb : (resolve view node before).outcome with
  | error failure => rw [Run.bind_of_error hb, Run.bind_of_error hb]
  | ok es =>
    rw [Run.bind_of_ok hb, Run.bind_of_ok hb]
    change ((resolve view node (r :: after)).map es.update).outcome = _
    rw [hmap, Run.bind_of_ok h]
    rfl

/-! ### The laws of sequences -/

/-- **Rule lists compose.**  Two lists in a row do what the first does and, unless it fails, then
what the second does: the accesses are those of the one and then those of the other, the failure
is that of the one or else of the other, and otherwise the second map updates the first.

So a key of the map stands where its name was first written and holds what the last rule of that
name wrote; a rule for the first match that finds none changes nothing. -/
theorem resolve_compositional (view : View ν) (node : ν) :
    (∀ rules more failure, (resolve view node rules).outcome = .error failure →
      (resolve view node (rules ++ more)).outcome = .error failure ∧
      (resolve view node (rules ++ more)).accesses = (resolve view node rules).accesses) ∧
    (∀ rules more es, (resolve view node rules).outcome = .ok es →
      (resolve view node (rules ++ more)).accesses =
        (resolve view node rules).accesses ++ (resolve view node more).accesses ∧
      (resolve view node (rules ++ more)).outcome =
        (resolve view node more).outcome.map es.update) ∧
    (∀ rules es, (resolve view node rules).outcome = .ok es →
      es.keys =
        ((rules.filter fun r => (written view node r).isSome).map Rule.name).eraseDups ∧
      ∀ key v, es.get? key = some v ↔
        ∃ before r after, rules = before ++ r :: after ∧ r.name = key ∧
          written view node r = some v ∧
          ∀ r' ∈ after, r'.name = key → written view node r' = none) ∧
    (∀ before r after selector, r.multi ≠ some true → r.selector = some selector →
      view.find node selector = .nodes [] →
      written view node r = none ∧
      (resolve view node (before ++ r :: after)).outcome =
        (resolve view node (before ++ after)).outcome) := by
  refine ⟨fun rules more failure h => ?_, fun rules more es h => ?_, fun rules es h => ?_,
    fun before r after selector hm hs hf => ?_⟩
  · rw [resolve_append, Run.bind_of_error h]
    exact ⟨rfl, rfl⟩
  · rw [resolve_append, Run.bind_of_ok h]
    exact ⟨rfl, rfl⟩
  · rw [eq_ofList_writes h]
    refine ⟨?_, fun key v => get?_ofList_writes_iff⟩
    rw [Entries.keys_ofList, keys_writes]
  · have h := applyRule_of_unmatched hm hs hf
    exact ⟨written_of_outcome h, outcome_resolve_of_idle h before after⟩

end Harvest.Extraction
