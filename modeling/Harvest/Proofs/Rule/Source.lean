import Harvest.Proofs.Extraction.Simulation

/-!
# Rules that differ in their sources

A source is kept as it was written, so the same rule can be written with different sources.
`Rule.UpToSource` relates rules that are the same but for their sources, which are related by some
`S`, and `Rule.FieldUpTo` relates the fields of maps in the same way.

Maps of which the fields are related are read alike: they are refused for the same faults or
describe rules that are related (`Rule.matched_ofEntries_of_fields`).  Lists are read alike when
their entries are (`Rule.matched_ofList_of_entries`), and rules act alike when the lists in their
sources are (`Rule.simulation_of_sources`).
-/

namespace Harvest

namespace Rule

open Validation

variable {S : Value → Value → Prop}

/-! ### Maps -/

/-- A field of a map, and the field with a related value if it is a source. -/
inductive FieldUpTo (S : Value → Value → Prop) : String × Value → String × Value → Prop where
  /-- The field is the same. -/
  | same (e : String × Value) : FieldUpTo S e e
  /-- The field is a source. -/
  | source {key : String} {v v' : Value} (hkey : key ∈ sourceField.names) (h : S v v') :
      FieldUpTo S (key, v) (key, v')

/-- Two rules are the same but for their sources, which are related. -/
structure UpToSource (S : Value → Value → Prop) (r r' : Rule) : Prop where
  name : r'.name = r.name
  selector : r'.selector = r.selector
  declared : r'.declared = r.declared
  multi : r'.multi = r.multi
  source : S r.source r'.source

theorem UpToSource.refl (hS : ∀ v, S v v) (r : Rule) : UpToSource S r r :=
  ⟨rfl, rfl, rfl, rfl, hS _⟩

section

variable {es es' : Entries}

theorem get?_upTo (h : List.Forall₂ (FieldUpTo S) es es') (key : String) :
    Option.Rel (fun v v' => FieldUpTo S (key, v) (key, v')) (es.get? key) (es'.get? key) := by
  induction h with
  | nil => exact .none
  | @cons e e' es es' he _ ih =>
    cases he with
    | same e =>
      obtain ⟨k, v⟩ := e
      rw [Entries.get?_cons, Entries.get?_cons]
      split
      · exact .some (.same _)
      · exact ih
    | @source k v v' hkey hv =>
      rw [Entries.get?_cons, Entries.get?_cons]
      split
      next heq => exact .some (.source (heq ▸ hkey) hv)
      · exact ih

theorem firstOf_upTo (h : List.Forall₂ (FieldUpTo S) es es') (names : List String) :
    Option.Rel (FieldUpTo S) (firstOf es names) (firstOf es' names) := by
  unfold firstOf
  induction names with
  | nil => exact .none
  | cons name names ih =>
    rw [List.findSome?_cons, List.findSome?_cons]
    have hget := get?_upTo h name
    cases hv : es.get? name <;> cases hv' : es'.get? name <;> rw [hv, hv'] at hget <;> cases hget
    · exact ih
    next h => exact .some h

/-- A field other than the source is read as before. -/
theorem read_upTo {α : Type} (h : List.Forall₂ (FieldUpTo S) es es') (f : FieldSpec α)
    (hf : ∀ name ∈ f.names, name ∉ sourceField.names) : f.read es' = f.read es := by
  unfold FieldSpec.read
  match he : firstOf es f.names, firstOf es' f.names, firstOf_upTo h f.names with
  | none, none, .none => rfl
  | some _, some _, .some (.same _) => rfl
  | some (key, v), some _, .some (.source hkey _) =>
    -- the key is one of the field's names, so it is no name of the source
    obtain ⟨name, hname, hv⟩ := List.exists_of_findSome?_eq_some he
    obtain ⟨w, -, hv⟩ := Option.map_eq_some_iff.1 hv
    cases hv
    exact absurd hkey (hf key hname)

theorem source_upTo (hS : ∀ v, S v v) (h : List.Forall₂ (FieldUpTo S) es es') :
    ∃ v v', sourceField.read es = .ok v ∧ sourceField.read es' = .ok v' ∧ S v v' := by
  unfold FieldSpec.read
  match firstOf es sourceField.names, firstOf es' sourceField.names,
    firstOf_upTo h sourceField.names with
  | none, none, .none => exact ⟨_, _, rfl, rfl, hS _⟩
  | some _, some _, .some (.same _) => exact ⟨_, _, rfl, rfl, hS _⟩
  | some _, some _, .some (.source _ hv) => exact ⟨_, _, rfl, rfl, hv⟩

/-- **Maps are read alike.**  Maps that are the same but for their sources are refused for the same
faults, or describe rules that are the same but for their sources. -/
theorem matched_ofEntries_of_fields (hS : ∀ v, S v v) (h : List.Forall₂ (FieldUpTo S) es es') :
    Matched Eq (UpToSource S) (ofEntries es) (ofEntries es') := by
  obtain ⟨source, source', hsource, hsource', hrelated⟩ := source_upTo hS h
  have hname := read_upTo h nameField (by decide)
  have hselector := read_upTo h selectorField (by decide)
  have hdeclared := read_upTo h declaredField (by decide)
  have hmulti := read_upTo h multiField (by decide)
  unfold ofEntries
  rw [hname, hselector, hdeclared, hmulti, hsource, hsource']
  cases nameField.read es <;> cases selectorField.read es <;> cases declaredField.read es <;>
    cases multiField.read es <;>
    first
    | exact .error rfl
    | exact .ok ⟨rfl, rfl, rfl, rfl, hrelated⟩

end

/-! ### Lists and nested rules -/

theorem ofEntry_map (es : Entries) :
    ofEntry (.map es) = (ofEntries es).mapError fun faults => .invalid ⟨"Rule", faults⟩ := by
  rw [ofEntry]
  cases ofEntries es <;> rfl

variable {E : Reason → Reason → Prop} {M : Flaw → Flaw → Prop}

theorem matched_ofList_of_entries {R : Rule → Rule → Prop} {vs vs' : List Value}
    (h : List.Forall₂ (fun v v' => Matched E R (ofEntry v) (ofEntry v')) vs vs') :
    Matched E (List.Forall₂ R) (ofList vs) (ofList vs') := by
  induction h with
  | nil => exact .ok .nil
  | @cons v v' vs vs' hfirst _ ih =>
    unfold ofList
    generalize ofEntry v = x, ofEntry v' = x' at hfirst
    generalize ofList vs = y, ofList vs' = y' at ih
    cases hfirst with
    | error hreason => exact .error hreason
    | ok hr =>
      cases ih with
      | error hreason => exact .error hreason
      | ok hrs => exact .ok (.cons hr hrs)

/-- **Rules act alike when their sources do**: each source is the same or both are lists, and the
lists hold rules that are related again or are both refused. -/
theorem simulation_of_sources (hS : ∀ v, S v v) (hM : ∀ flaw, M flaw flaw)
    (hlists : ∀ v v', S v v' → v' = v ∨ ∃ vs vs', v = .list vs ∧ v' = .list vs' ∧
      Matched E (List.Forall₂ (UpToSource S)) (ofList vs) (ofList vs'))
    (hflaw : ∀ v v' reason reason', S v v' → E reason reason' →
      M (.showing v fun _ => .nestedRules reason.message)
        (.showing v' fun _ => .nestedRules reason'.message)) :
    Simulation M (UpToSource S) where
  name h := h.name
  selector h := h.selector
  declared h := h.declared
  multi h := h.multi
  attributeName {r r'} h := by
    unfold attributeName
    rw [h.declared]
    obtain heq | ⟨vs, vs', hvs, hvs', -⟩ := hlists _ _ h.source
    · rw [heq]
    · rw [hvs, hvs']
  nested {r r'} h := by
    have hsource := h.source
    unfold nested
    generalize r.source = v, r'.source = v' at hsource
    obtain rfl | ⟨vs, vs', rfl, rfl, hmatched⟩ := hlists v v' hsource
    · exact .refl hM (fun rules => List.forall₂_same.2 fun r _ => .refl hS r) _
    · exact hmatched.mapErrors fun reason reason' h => hflaw _ _ reason reason' hsource h
  refl := hM

end Rule

end Harvest
