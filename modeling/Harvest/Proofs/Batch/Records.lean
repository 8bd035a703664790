import Harvest.Batch.Run
import Harvest.Extraction.Document
import Mathlib.Data.List.Forall2

/-!
# The records of a batch

`documentRecord` is the record that stands for a document by itself, and `itemBlock` are the
records of an item: one for each of its documents, or a placeholder for an item that has none.
With failures tolerated, a run yields the blocks of its items one after the other
(`allRecords_of_tolerant`), so that every record is where it belongs and depends on nothing but
its own document (`run_records_of_tolerant`).
-/

namespace Harvest.Batch

open Extraction

variable {E : Engine} {d : Defaults} {rules : List Rule}

/-- The record of a document: what the rules make of it, or a placeholder where it cannot be
parsed or the rules cannot be applied. -/
def documentRecord (E : Engine) (d : Defaults) (rules : List Rule) (item : Nat)
    (document : String) : Record :=
  match E.parse d.parser (.text document) with
  | .error e => .failure item e.message
  | .ok tree =>
    match (resolve E.view tree rules).outcome with
    | .error failure => .failure item failure.message
    | .ok json => .success item json

/-- The records of an item: those of its documents, or a placeholder. -/
def itemBlock (E : Engine) (d : Defaults) (rules : List Rule) (item : Nat) (v : Value) :
    List Record :=
  match load d item v with
  | .error e => [.failure item e.message]
  | .ok documents => documents.map (documentRecord E d rules item)

/-- The records of some items, of which the first has the index given. -/
def blocksFrom (E : Engine) (d : Defaults) (rules : List Rule) (item : Nat) (vs : List Value) :
    List Record :=
  (vs.mapIdx fun i v => itemBlock E d rules (item + i) v).flatten

@[simp] theorem blocksFrom_nil (item : Nat) : blocksFrom E d rules item [] = [] := rfl

theorem blocksFrom_cons (item : Nat) (v : Value) (vs : List Value) :
    blocksFrom E d rules item (v :: vs) =
      itemBlock E d rules item v ++ blocksFrom E d rules (item + 1) vs := by
  simp only [blocksFrom, List.mapIdx_cons, List.flatten_cons, Nat.add_zero]
  congr 3
  funext i w
  rw [Nat.add_assoc, Nat.add_comm 1 i]

theorem blocksFrom_append (item : Nat) (vs ws : List Value) :
    blocksFrom E d rules item (vs ++ ws) =
      blocksFrom E d rules item vs ++ blocksFrom E d rules (item + vs.length) ws := by
  induction vs generalizing item with
  | nil => rfl
  | cons v vs ih =>
    rw [List.cons_append, blocksFrom_cons, ih, blocksFrom_cons, List.append_assoc,
      List.length_cons, Nat.add_assoc, Nat.add_comm 1]

/-- The records of two lists of items in a row. -/
theorem allRecords_append (item : Nat) (vs ws : List Value) :
    allRecords E d rules item (vs ++ ws) =
      (allRecords E d rules item vs).bind fun rs =>
        (allRecords E d rules (item + vs.length) ws).map (rs ++ ·) := by
  induction vs generalizing item with
  | nil => cases h : allRecords E d rules item ws <;> simp [allRecords, h, Except.bind, Except.map]
  | cons v vs ih =>
    simp only [List.cons_append, allRecords, ih, List.length_cons, Nat.add_right_comm item _ 1,
      ← Nat.add_assoc]
    cases itemRecords E d rules item v with
    | error e => rfl
    | ok rs =>
      cases allRecords E d rules (item + 1) vs with
      | error e => rfl
      | ok rs' =>
        cases allRecords E d rules (item + 1 + vs.length) ws <;> simp [Except.bind, Except.map]

/-- The first item that fails decides, whatever comes behind it. -/
theorem allRecords_of_fails {item : Nat} {vs : List Value} {v : Value} {rs : List Record}
    {e : Error} (hvs : allRecords E d rules item vs = .ok rs)
    (hv : itemRecords E d rules (item + vs.length) v = .error e) (ws : List Value) :
    allRecords E d rules item (vs ++ v :: ws) = .error e := by
  rw [allRecords_append, hvs]
  simp only [Except.bind, allRecords, hv]
  rfl

/-- Items that are loaded alike have the same records, and the same is told of them. -/
theorem allRecords_congr {d' : Defaults} (hc : d.continueOnFail = d'.continueOnFail)
    {vs ws : List Value}
    (h : List.Forall₂ (fun v w => ∀ item, loadedRecords E d rules item v =
      loadedRecords E d' rules item w) vs ws) (item : Nat) :
    allRecords E d rules item vs = allRecords E d' rules item ws ∧
      allLines E d rules item vs = allLines E d' rules item ws := by
  induction h generalizing item with
  | nil => exact ⟨rfl, rfl⟩
  | cons hfirst _ ih =>
    obtain ⟨hrecords, hlines⟩ := ih (item + 1)
    simp only [allRecords, itemRecords, allLines, itemLines, itemLine, hfirst item, hc, hrecords,
      hlines]
    exact ⟨trivial, trivial⟩

/-! ### Where records belong -/

theorem item_documentRecord (item : Nat) (document : String) :
    (documentRecord E d rules item document).item = item := by
  unfold documentRecord
  split
  · rfl
  · split <;> rfl

theorem item_of_mem_itemBlock {item : Nat} {v : Value} {r : Record}
    (h : r ∈ itemBlock E d rules item v) : r.item = item := by
  unfold itemBlock at h
  split at h
  · cases List.mem_singleton.1 h
    rfl
  · obtain ⟨document, -, rfl⟩ := List.mem_map.1 h
    exact item_documentRecord item document

theorem item_of_mem_blocksFrom {item : Nat} {vs : List Value} {r : Record}
    (h : r ∈ blocksFrom E d rules item vs) : item ≤ r.item ∧ r.item < item + vs.length := by
  induction vs generalizing item with
  | nil => cases h
  | cons v vs ih =>
    rw [blocksFrom_cons] at h
    rw [List.length_cons]
    rcases List.mem_append.1 h with h | h
    · rw [item_of_mem_itemBlock h]
      omega
    · have := ih h
      omega

/-! ### Tolerant runs -/

theorem documentRecord_eq (item : Nat) (document : String) :
    documentRecord E d rules item document =
      match extractText E d.parser rules document with
      | .error e => .failure item e.message
      | .ok json => .success item json := by
  unfold documentRecord extractText extractValue resolveDocument
  cases E.parse d.parser (.text document) with
  | error e => rfl
  | ok tree =>
    simp only [Except.mapError]
    cases (resolve E.view tree rules).outcome <;> rfl

theorem documentRecord_of_ok {item : Nat} {document : String} {json : Entries}
    (h : extractText E d.parser rules document = .ok json) :
    documentRecord E d rules item document = .success item json := by
  rw [documentRecord_eq, h]

theorem documentRecord_of_error {item : Nat} {document : String} {e : Extraction.Error}
    (h : extractText E d.parser rules document = .error e) :
    documentRecord E d rules item document = .failure item e.message := by
  rw [documentRecord_eq, h]

theorem documentRecords_of_tolerant (hc : d.continueOnFail = true) (item : Nat)
    (documents : List String) :
    documentRecords E d rules item documents =
      .ok (documents.map (documentRecord E d rules item)) := by
  induction documents with
  | nil => rfl
  | cons document documents ih =>
    rw [documentRecords, ih]
    cases h : extractText E d.parser rules document with
    | error e => simp [hc, documentRecord_of_error h, Except.map]
    | ok json => simp [documentRecord_of_ok h, Except.map]

theorem itemRecords_of_tolerant (hc : d.continueOnFail = true) (item : Nat) (v : Value) :
    itemRecords E d rules item v = .ok (itemBlock E d rules item v) := by
  unfold itemRecords loadedRecords itemBlock
  cases load d item v with
  | error e => simp [hc, Error.message]
  | ok documents => simp [documentRecords_of_tolerant hc]

theorem allRecords_of_tolerant (hc : d.continueOnFail = true) (item : Nat) (vs : List Value) :
    allRecords E d rules item vs = .ok (blocksFrom E d rules item vs) := by
  induction vs generalizing item with
  | nil => rfl
  | cons v vs ih =>
    rw [allRecords, itemRecords_of_tolerant hc, ih, blocksFrom_cons]
    rfl

theorem run_of_parsed {payload : Value} (ht : 1 ≤ d.threads) (hp : Rule.parse payload = .ok rules)
    (items : List Value) : (run E d items payload).records = allRecords E d rules 0 items := by
  cases items with
  | nil => rfl
  | cons v vs =>
    have hthreads : ¬ d.threads < 0 := by omega
    simp only [run, runWith, List.isEmpty_cons, hp, runRules, hthreads, if_false,
      Bool.false_eq_true]
    cases allRecords E d rules 0 (v :: vs) <;> rfl

/-- **A tolerant run loses, doubles and misplaces nothing.**  Its records are blocks, one for each
item in order.  The block of an item that has no documents, for some error, is one placeholder;
any other block has one record for each document, in order, which is what the rules make of that
document, or a placeholder for why they make nothing of it.  Every record names its item. -/
theorem run_records_of_tolerant (d : Defaults) (hc : d.continueOnFail = true)
    (ht : 1 ≤ d.threads) {payload : Value} {rules : List Rule}
    (hp : Rule.parse payload = .ok rules) (items : List Value) :
    ∃ blocks : List (List Record),
      (run E d items payload).records = .ok blocks.flatten ∧ blocks.length = items.length ∧
      ∀ i v, items[i]? = some v → ∃ block, blocks[i]? = some block ∧
        (∀ r ∈ block, r.item = i) ∧
        (∀ e, load d i v = .error e →
          block = [⟨[("error", .text e.message)], i, some e.message⟩]) ∧
        ∀ documents, load d i v = .ok documents → block.length = documents.length ∧
          ∀ (j : Nat) document, documents[j]? = some document → ∃ r, block[j]? = some r ∧
            (∀ e, E.parse d.parser (.text document) = .error e →
              r = ⟨[("error", .text e.message)], i, some e.message⟩) ∧
            ∀ tree, E.parse d.parser (.text document) = .ok tree →
              (∀ failure, (resolve E.view tree rules).outcome = .error failure →
                r = ⟨[("error", .text failure.message)], i, some failure.message⟩) ∧
              ∀ json, (resolve E.view tree rules).outcome = .ok json →
                r = ⟨json, i, none⟩ := by
  refine ⟨items.mapIdx (itemBlock E d rules), ?_, List.length_mapIdx, fun i v hv => ?_⟩
  · rw [run_of_parsed ht hp, allRecords_of_tolerant hc, blocksFrom]
    simp only [Nat.zero_add]
  refine ⟨itemBlock E d rules i v, by simp [hv], fun r hr => item_of_mem_itemBlock hr,
    fun e he => by rw [itemBlock, he]; rfl, fun documents hd => ?_⟩
  have hblock : itemBlock E d rules i v = documents.map (documentRecord E d rules i) := by
    rw [itemBlock, hd]
  rw [hblock]
  refine ⟨List.length_map _, fun j document hj => ?_⟩
  refine ⟨documentRecord E d rules i document, by simp [hj], fun e he => ?_, fun tree htree => ?_⟩
  · rw [documentRecord, he]
    rfl
  · refine ⟨fun failure hf => ?_, fun json hj => ?_⟩
    · rw [documentRecord, htree]
      simp only [hf]
      rfl
    · rw [documentRecord, htree]
      simp only [hj]
      rfl

theorem exists_of_isOk {ε α : Type} {x : Except ε α} (h : x.isOk = true) : ∃ a, x = .ok a := by
  cases x with
  | error e => cases h
  | ok a => exact ⟨a, rfl⟩

theorem exists_error_of_isOk_eq_false {ε α : Type} {x : Except ε α} (h : x.isOk = false) :
    ∃ e, x = .error e := by
  cases x with
  | error e => exact ⟨e, rfl⟩
  | ok a => cases h

/-- A batch of three items: a page; three documents, of which the second has an unknown marked section;
and a number where markup should be. -/
def uneven : List Value :=
  [.text "<p>a</p>", .map [("data", .list [.text "<p>b</p>", .text "<![x]>", .text "<b>c</b>"])],
    .map [("data", .int 5)]]

/-- A rule that takes the text of the first paragraph. -/
def firstParagraph : Rule where
  name := "t"
  selector := some "p"
  declared := .text "text"
  source := .null
  multi := some false

/-- A payload of this rule. -/
def paragraphPayload : Value :=
  .map [("varName", .text "t"), ("selector", .text "p"), ("valueType", .text "text")]

theorem parse_paragraphPayload : Rule.parse paragraphPayload = .ok [firstParagraph] := rfl

/-- The second item of `uneven` has three records, of which the second is a placeholder; the third item
has one placeholder. -/
theorem run_records_of_tolerant_uneven :
    let d : Defaults := { continueOnFail := true }
    (d.continueOnFail = true ∧ 1 ≤ d.threads ∧ Rule.parse paragraphPayload = .ok [firstParagraph]) ∧
    ∃ blocks : List (List Record),
      (run Engine.html d uneven paragraphPayload).records = .ok blocks.flatten ∧ blocks.length = 3 ∧
      ∃ b r c s, blocks[1]? = some [b, r, c] ∧ blocks[2]? = some [s] ∧
        (b.json.get? "t").bind Value.text? = some "b" ∧ b.error = none ∧ r.error.isSome = true ∧
        c.error = none ∧ s.item = 2 ∧
        s.error = some "Property \"data\" must be a string or an array of strings, got int" := by
  intro d
  have hc : d.continueOnFail = true := rfl
  have ht : 1 ≤ d.threads := by decide
  refine ⟨⟨hc, ht, parse_paragraphPayload⟩, ?_⟩
  let extracted := extractText Engine.html d.parser [firstParagraph]
  obtain ⟨json, hjson⟩ : ∃ json, extracted "<p>b</p>" = .ok json :=
    exists_of_isOk (by decide +kernel)
  obtain ⟨json', hjson'⟩ : ∃ json, extracted "<b>c</b>" = .ok json :=
    exists_of_isOk (by decide +kernel)
  obtain ⟨rejection, hrejection⟩ : ∃ e, Engine.html.parse d.parser (.text "<![x]>") = .error e :=
    exists_error_of_isOk_eq_false (by decide +kernel)
  have htitle : ((extracted "<p>b</p>").toOption.bind (·.get? "t")).bind Value.text? = some "b" := by
    decide +kernel
  obtain ⟨blocks, hrun, hlen, hblocks⟩ :=
    run_records_of_tolerant (E := Engine.html) d hc ht parse_paragraphPayload uneven
  obtain ⟨block, hblock, -, -, hdocuments⟩ := hblocks 1 _ rfl
  obtain ⟨hthree, hrecords⟩ := hdocuments ["<p>b</p>", "<![x]>", "<b>c</b>"] rfl
  obtain ⟨b, r, c, rfl⟩ := List.length_eq_three.1 hthree
  obtain ⟨_, ⟨⟩, -, hb⟩ := hrecords 0 _ rfl
  obtain ⟨_, ⟨⟩, hr, -⟩ := hrecords 1 _ rfl
  obtain ⟨_, ⟨⟩, -, hc'⟩ := hrecords 2 _ rfl
  obtain ⟨s, hs, -, hload, -⟩ := hblocks 2 _ rfl
  obtain ⟨tree, htree, hresolve⟩ := exists_parsed_of_extractText hjson
  obtain ⟨tree', htree', hresolve'⟩ := exists_parsed_of_extractText hjson'
  rw [hload (.notText "data" "int") rfl] at hs
  refine ⟨blocks, hrun, hlen, b, r, c, _, hblock, hs, ?_, ?_, ?_, ?_, rfl, by decide⟩
  · rw [(hb tree htree).2 json hresolve]
    rwa [hjson] at htitle
  · rw [(hb tree htree).2 json hresolve]
  · rw [hr rejection hrejection]
    rfl
  · rw [(hc' tree' htree').2 json' hresolve']

end Harvest.Batch
