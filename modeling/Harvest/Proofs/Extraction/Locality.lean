import Harvest.Extraction.Document
import Harvest.Proofs.Extraction.Reach
import Harvest.Proofs.Markup.Below

/-!
# Extraction is local

A tree is given by which nodes are directly inside which.  Where a search finds only descendants of
the node that is searched (`View.Scoped`), as it does in a document (`scoped_documentView`), rules
never leave the node where they are applied: the accesses they make are `Access.Inside` it, and two
views that agree there cannot be told apart.

Both are shown at once.  `Run.Confined c x y` says that two runs are the same and stay inside `c`;
it is kept by all that runs are built with, and following a plan is confined on two views that agree
on `c` and below (`confined_fill`).  One run is confined when it is so with itself.

Main statement: an extraction depends on nothing outside its node, nor do nested rules on anything
outside their match (`nested_rules_stay_inside`).
-/

namespace Harvest.Extraction

open Relation

variable {ν α β : Type} {child : ν → ν → Prop}

/-! ### Inside a node -/

/-- Searches find only descendants of the node that is searched. -/
def View.Scoped (child : ν → ν → Prop) (view : View ν) : Prop :=
  ∀ node selector matched, view.find node selector = .nodes matched →
    ∀ m ∈ matched, TransGen child node m

/-- Two views answer the same at a node. -/
structure View.AgreeAt (view view' : View ν) (node : ν) : Prop where
  find : view.find node = view'.find node
  text : view.text node = view'.text node
  attr : view.attr node = view'.attr node

/-- An access stays inside a node. -/
inductive Access.Inside (child : ν → ν → Prop) (c : ν) : Access ν → Prop where
  /-- It searches the node itself or a descendant. -/
  | find {node : ν} {selector : String} (h : ReflTransGen child c node) :
      Inside child c (.find node selector)
  /-- It reads the text of a descendant. -/
  | text {node : ν} (h : TransGen child c node) : Inside child c (.text node)
  /-- It reads an attribute of a descendant. -/
  | attr {node : ν} {name : String} (h : TransGen child c node) : Inside child c (.attr node name)

/-! ### Confined runs -/

namespace Run

/-- Two runs are the same, and stay inside a node. -/
structure Confined (child : ν → ν → Prop) (c : ν) (x y : Run ν α) : Prop where
  same : x = y
  inside : ∀ a ∈ x.accesses, a.Inside child c

variable {c : ν}

theorem confined_of_no_access {x : Run ν α} (h : x.accesses = []) : Confined child c x x :=
  ⟨rfl, by simp [h]⟩

theorem confined_pure (a : α) : Confined child c (pure a : Run ν α) (pure a) :=
  confined_of_no_access rfl

theorem confined_fail (failure : Failure) :
    Confined child c (fail failure : Run ν α) (fail failure) :=
  confined_of_no_access rfl

theorem confined_access {what : Access ν} (h : what.Inside child c) (a : α) :
    Confined child c (access what a) (access what a) :=
  ⟨rfl, by simpa [access] using h⟩

theorem Confined.bind {x y : Run ν α} {f g : α → Run ν β} (hx : Confined child c x y)
    (hf : ∀ a, x.outcome = .ok a → Confined child c (f a) (g a)) :
    Confined child c (x.bind f) (y.bind g) := by
  obtain ⟨rfl, hinside⟩ := hx
  cases ho : x.outcome with
  | error failure =>
    rw [bind_of_error ho, bind_of_error ho]
    exact ⟨rfl, hinside⟩
  | ok a =>
    -- both runs go on from the same result
    obtain ⟨hsame, hthen⟩ := hf a ho
    rw [bind_of_ok ho, bind_of_ok ho, hsame]
    refine ⟨rfl, fun b hb => ?_⟩
    rw [hsame] at hthen
    exact (List.mem_append.1 hb).elim (hinside b) (hthen b)

theorem Confined.map {x y : Run ν α} (hx : Confined child c x y) (f : α → β) :
    Confined child c (x.map f) (y.map f) := by
  rw [map_eq_bind, map_eq_bind]
  exact hx.bind fun a _ => confined_pure (f a)

theorem confined_forAll {f g : α → Run ν β} {as : List α}
    (h : ∀ a ∈ as, Confined child c (f a) (g a)) :
    Confined child c (forAll f as) (forAll g as) := by
  induction as with
  | nil => exact confined_pure []
  | cons a as ih =>
    have hrest := ih fun a' ha' => h a' (List.mem_cons_of_mem a ha')
    exact (h a List.mem_cons_self).bind fun b _ => hrest.map (b :: ·)

end Run

/-! ### Rules are confined -/

open Run

section

variable {view view' : View ν} {c : ν}

theorem confined_readText {m : ν} (hm : TransGen child c m) (h : view.AgreeAt view' m) :
    Confined child c (readText view m) (readText view' m) := by
  unfold readText nodeText
  rw [h.text]
  exact confined_access (.text hm) _

theorem confined_readAttribute (name : Option String) {m : ν} (hm : TransGen child c m)
    (h : view.AgreeAt view' m) :
    Confined child c (readAttribute view name m) (readAttribute view' name m) := by
  unfold readAttribute
  split
  · exact confined_pure _
  · exact confined_pure _
  · rw [h.attr]
    refine (confined_access (.attr hm) _).bind fun v _ => ?_
    split
    · exact confined_pure _
    · exact confined_fail _

/-- What a rule stores is confined when the values that it makes of the matches are. -/
theorem confined_collect (r : Rule) (p : Plan) {value value' : ν → Run ν Value}
    {answer : Answer ν} (h : ∀ matched, answer = .nodes matched →
      ∀ m ∈ matched, Confined child c (value m) (value' m)) :
    Confined child c (collect r p value answer) (collect r p value' answer) := by
  have hsound : Confined child c (sound r p) (sound r p) := by
    unfold sound
    split
    · exact confined_fail _
    · exact confined_pure ()
  unfold collect
  split
  · exact confined_fail _
  · exact confined_fail _
  · split
    · exact hsound.bind fun _ _ => confined_fail _
    · exact confined_pure none
  next matched =>
    have hmatched := h matched rfl
    split
    · exact hsound.bind fun _ _ => (confined_forAll hmatched).map _
    · cases matched with
      | nil => exact confined_pure none
      | cons m ms => exact hsound.bind fun _ _ => (hmatched m List.mem_cons_self).map some

/-- A rule that is applied inside a node stays there when the values that it makes of nodes
further inside do. -/
theorem confined_apply (hscoped : view.Scoped child) {node : ν} (hnode : ReflTransGen child c node)
    (hagree : view.AgreeAt view' node) (r : Rule) (p : Plan) {value value' : ν → Run ν Value}
    (h : ∀ m, TransGen child c m → Confined child c (value m) (value' m)) :
    Confined child c (apply view node r p value) (apply view' node r p value') := by
  unfold apply
  split
  · exact confined_pure none
  · exact confined_pure none
  next selector _ _ =>
    rw [← hagree.find]
    refine (confined_access (.find hnode) _).bind fun answer hanswer => ?_
    refine confined_collect r p fun matched hmatched m hm => h m ?_
    -- a match is below the node that was searched, which is inside
    have hfound : view.find node selector = .nodes matched :=
      (Except.ok.inj hanswer).trans hmatched
    exact .trans_right hnode (hscoped node selector matched hfound m hm)

mutual
/-- What a plan makes of a node below stays inside. -/
theorem confined_follow (hscoped : view.Scoped child)
    (hagree : ∀ n, ReflTransGen child c n → view.AgreeAt view' n) (r : Rule) :
    (p : Plan) → ∀ m, TransGen child c m →
      Confined child c (follow view r p m) (follow view' r p m)
  | .text, m, hm => confined_readText hm (hagree m hm.to_reflTransGen)
  | .attr name, m, hm => confined_readAttribute name hm (hagree m hm.to_reflTransGen)
  | .object steps, m, hm =>
    (confined_fill hscoped hagree m hm.to_reflTransGen steps []).map Value.map
  | .flawed _, _, _ => confined_fail _

/-- Rules that are applied inside a node stay there. -/
theorem confined_fill (hscoped : view.Scoped child)
    (hagree : ∀ n, ReflTransGen child c n → view.AgreeAt view' n) (node : ν)
    (hnode : ReflTransGen child c node) : (steps : List (Rule × Plan)) → ∀ acc : Entries,
      Confined child c (fill view node steps acc) (fill view' node steps acc)
  | [], acc => confined_pure acc
  | (r, p) :: steps, _ =>
    (confined_apply hscoped hnode (hagree node hnode) r p fun m hm =>
      confined_follow hscoped hagree r p m hm).bind fun _ _ =>
        confined_fill hscoped hagree node hnode steps _
end

end

/-! ### Nested rules and their matches -/

/-- **Nested rules see only their match.**  Where searches find only descendants, two views that
agree on a node and all its descendants let rules do the same there, access by access, with the same
outcome.  And what a rule for maps makes of a node is what its nested rules make of it; they search
that node itself or descendants, and read descendants only. -/
theorem nested_rules_stay_inside {view : View ν} (hscoped : view.Scoped child) :
    (∀ (view' : View ν) (c : ν) (rules : List Rule),
      (∀ n, ReflTransGen child c n → view.AgreeAt view' n) →
        resolve view c rules = resolve view' c rules) ∧
    ∀ (r : Rule) (nested : List Rule), r.kind = .ok .object → r.nested = .ok nested → ∀ m,
      follow view r r.plan m = (resolve view m nested).map .map ∧
        ∀ a ∈ (follow view r r.plan m).accesses, a.Inside child m := by
  refine ⟨fun view' c rules hagree => ?_, fun r nested hk hn m => ?_⟩
  · exact (confined_fill hscoped hagree c .refl (Rule.plans rules) []).same
  · have hfollow : follow view r r.plan m = (resolve view m nested).map .map := by
      rw [Rule.plan_of_kind_object hk hn, follow, resolve]
    refine ⟨hfollow, fun a ha => ?_⟩
    rw [hfollow] at ha
    -- a view agrees with itself, so one run is confined, too
    have hself (n : ν) : view.AgreeAt view n := ⟨rfl, rfl, rfl⟩
    exact (confined_fill hscoped (fun n _ => hself n) m .refl (Rule.plans nested) []).inside a ha

/-! ### Documents -/

open Markup

/-- A selector finds only what lies below the place that it is searched from. -/
theorem scoped_documentView : documentView.Scoped Place.Child := by
  intro p selector matched h m hm
  change findIn p selector = .nodes matched at h
  unfold findIn at h
  split at h
  · cases h
    exact Place.below_of_mem_select hm
  · split at h <;> cases h

/-- The view of a document that shows nothing outside the place of an address. -/
def walled (address : List Nat) : View Place where
  find p selector := if address <:+ p.address then documentView.find p selector else .nothing
  text p := if address <:+ p.address then documentView.text p else ""
  attr p name := if address <:+ p.address then documentView.attr p name else .null

theorem agreeAt_walled {c p : Place} (h : ReflTransGen Place.Child c p) :
    documentView.AgreeAt (walled c.address) p := by
  have hsuffix := Place.suffix_of_below h
  refine ⟨funext fun selector => ?_, ?_, funext fun name => ?_⟩
  · exact (if_pos hsuffix).symm
  · exact (if_pos hsuffix).symm
  · exact (if_pos hsuffix).symm

/-- A document with two entries. -/
def twoEntries : Place :=
  .top (.document [
    .element "li" [] [.element "b" [] [.text .plain "A title"]],
    .element "li" [] [.element "b" [] [.text .plain "Another"]]])

/-- Its first entry. -/
def entry : Place :=
  ⟨.element "li" [] [.element "b" [] [.text .plain "A title"]], 0, twoEntries.inside⟩

/-- The title of an entry is found behind a wall around it, and without a look at another entry. -/
theorem nested_rules_stay_inside_entry : documentView.Scoped Place.Child ∧
    (∀ p, ReflTransGen Place.Child entry p → documentView.AgreeAt (walled entry.address) p) ∧
    listing.kind = .ok .object ∧ listing.nested = .ok [title] ∧
    resolve documentView entry [title] = resolve (walled entry.address) entry [title] ∧
    ∀ a ∈ (follow documentView listing listing.plan entry).accesses,
      a.Inside Place.Child entry := by
  have h := nested_rules_stay_inside scoped_documentView
  refine ⟨scoped_documentView, fun _ => agreeAt_walled, rfl, rfl, ?_, ?_⟩
  · exact h.1 (walled entry.address) entry [title] fun _ => agreeAt_walled
  · exact (h.2 listing [title] rfl rfl entry).2

end Harvest.Extraction
