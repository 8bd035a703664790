import Harvest.Batch.Run
import Harvest.Proofs.Extraction.Yields
import Harvest.Proofs.Json.RoundTrip

/-!
# Extracted records are portable

Whatever a tree answers, rules yield texts, lists and maps of such values, and no key of a map
occurs twice (`yields_fill`).  So what a document yields, and each record of a batch, is portable:
JSON text holds it exactly (`allPortable_runWith`).
-/

namespace Harvest

variable {limit : Option Nat}

/-! ### Portable maps -/

namespace Json

theorem PortableEntries.put {es : Entries} (h : PortableEntries limit es) (key : String) {v : Value}
    (hv : Portable limit v) : PortableEntries limit (Entries.put key v es) := by
  induction es with
  | nil => exact ⟨hv, trivial⟩
  | cons e es ih =>
    obtain ⟨k, w⟩ := e
    rw [Entries.put]
    split
    · exact ⟨hv, h.2⟩
    · exact ⟨h.1, ih h.2⟩

theorem Portable.put {es : Entries} (h : Portable limit (.map es)) (key : String) {v : Value}
    (hv : Portable limit v) : Portable limit (.map (Entries.put key v es)) :=
  ⟨Entries.nodup_keys_put h.1 key v, PortableEntries.put h.2 key hv⟩

end Json

open Json

namespace Extraction

/-! ### What rules yield -/

open Run

variable {ν : Type} {view : View ν}

theorem portable_of_text {v : Value} (h : ∃ s, v = .text s) : Portable limit v := by
  obtain ⟨s, rfl⟩ := h
  trivial

theorem portable_store {acc : Entries} (hacc : Portable limit (.map acc)) (r : Rule)
    {stored : Option Value} (h : ∀ v ∈ stored, Portable limit v) :
    Portable limit (.map (store r acc stored)) := by
  cases stored with
  | none => exact hacc
  | some v => exact hacc.put r.name (h v rfl)

mutual
/-- A plan makes a portable value of a node. -/
theorem yields_follow (r : Rule) : (p : Plan) → ∀ node : ν,
    Yields (Portable limit) (follow view r p node)
  | .text, node => (yields_readText node).imp fun _ => portable_of_text
  | .attr name, node => (yields_readAttribute name node).imp fun _ => portable_of_text
  | .object steps, node => by
    have hempty : Portable limit (.map []) := ⟨List.nodup_nil, trivial⟩
    exact (yields_fill node steps [] hempty).map fun _ hes => hes
  | .flawed flaw, node => yields_fail _

/-- Rules keep a map portable. -/
theorem yields_fill (node : ν) : (steps : List (Rule × Plan)) → ∀ acc : Entries,
    Portable limit (.map acc) →
      Yields (fun es => Portable limit (.map es)) (fill view node steps acc)
  | [], _, hacc => yields_pure hacc
  | (r, p) :: steps, _, hacc =>
    (yields_apply (fun _ => portableAll_iff.2) (yields_follow r p) node r p).bind fun _ hstored =>
      yields_fill node steps _ (portable_store hacc r hstored)
end

/-- What a document yields is portable. -/
theorem portable_of_extractText {E : Engine} {parser : String} {rules : List Rule}
    {document : String} {es : Entries} (h : extractText E parser rules document = .ok es) :
    Portable limit (.map es) := by
  obtain ⟨tree, -, hresolve⟩ := exists_parsed_of_extractText h
  exact yields_fill tree _ [] ⟨List.nodup_nil, trivial⟩ es hresolve

end Extraction

/-! ### The records of a batch -/

namespace Batch

open Extraction (Engine)

variable {E : Engine} {d : Defaults} {rules : List Rule}

theorem portable_failure (item : Nat) (message : String) :
    Portable limit (.map (Record.failure item message).json) :=
  ⟨by simp [Record.failure, Entries.keys], trivial, trivial⟩

/-- Whether the records, if there are any, all hold portable maps. -/
def AllPortable (limit : Option Nat) (records : Except Error (List Record)) : Prop :=
  ∀ rs, records = .ok rs → ∀ r ∈ rs, Portable limit (.map r.json)

theorem AllPortable.map_cons {records : Except Error (List Record)} {r : Record}
    (h : AllPortable limit records) (hr : Portable limit (.map r.json)) :
    AllPortable limit (records.map (r :: ·)) := by
  intro rs hrs
  cases records with
  | error e => cases hrs
  | ok rest =>
    cases hrs
    exact List.forall_mem_cons.2 ⟨hr, h rest rfl⟩

theorem allPortable_documentRecords (item : Nat) (documents : List String) :
    AllPortable limit (documentRecords E d rules item documents) := by
  induction documents with
  | nil =>
    rintro rs ⟨⟩
    simp
  | cons document documents ih =>
    rw [documentRecords]
    split
    next json hj => exact ih.map_cons (Extraction.portable_of_extractText hj)
    next e he =>
      split
      · exact ih.map_cons (portable_failure item e.message)
      · rintro rs ⟨⟩

theorem allPortable_itemRecords (item : Nat) (v : Value) :
    AllPortable limit (itemRecords E d rules item v) := by
  unfold itemRecords
  split
  next records hr =>
    rintro rs ⟨⟩
    unfold loadedRecords at hr
    split at hr
    next documents hd => exact allPortable_documentRecords item documents _ hr
    · cases hr
  next e he =>
    split
    · rintro rs ⟨⟩ r hr
      rw [List.mem_singleton.1 hr]
      exact portable_failure item e.message
    · rintro rs ⟨⟩

theorem allPortable_allRecords (item : Nat) (vs : List Value) :
    AllPortable limit (allRecords E d rules item vs) := by
  induction vs generalizing item with
  | nil =>
    rintro rs ⟨⟩
    simp
  | cons v vs ih =>
    rw [allRecords]
    split
    next e he => rintro rs ⟨⟩
    next records hr =>
      intro rs hrs
      cases hl : allRecords E d rules (item + 1) vs with
      | error e =>
        rw [hl] at hrs
        cases hrs
      | ok later =>
        rw [hl] at hrs
        cases hrs
        intro r hr'
        obtain hr' | hr' := List.mem_append.1 hr'
        · exact allPortable_itemRecords item v records hr r hr'
        · exact ih (item + 1) later hl r hr'

theorem allPortable_runRules (items : List Value) :
    AllPortable limit (runRules E d items rules).records := by
  unfold runRules
  intro rs hrs
  split at hrs
  · cases hrs
  · split at hrs
    · cases hrs
    next records hr =>
      cases hrs
      exact allPortable_allRecords 0 items _ hr

theorem allPortable_runRefused (items : List Value) (e : Rule.PayloadError) :
    AllPortable limit (runRefused d items e).records := by
  unfold runRefused
  intro rs hrs
  split at hrs
  · cases hrs
    intro r hr
    obtain ⟨item, -, rfl⟩ := List.mem_map.1 hr
    exact portable_failure item e.message
  · cases hrs

/-- **Records are portable.**  JSON text holds each record of a batch exactly, whatever the items
are, whatever becomes of the payload and however the run is set up. -/
theorem allPortable_runWith (E : Engine) (d : Defaults) (items : List Value)
    (rules : Except Rule.PayloadError (List Rule)) :
    AllPortable limit (runWith E d items rules).records := by
  unfold runWith
  split
  · rintro rs ⟨⟩
    simp
  · split
    next e => exact allPortable_runRefused items e
    next rules => exact allPortable_runRules items

end Batch

end Harvest
