import Harvest.Proofs.Batch.Records
import Harvest.Proofs.Rule.Payload

/-!
# What a tolerant run survives

With failures tolerated, whatever goes wrong with an item or one of its documents leaves a
placeholder among the records of the run, and a payload that is refused leaves one for each item.
One failure ends a tolerant run without records: an integer in the payload is too long.  The reader of
JSON reports it apart from all other faults of a text, and a payload with such an integer that is to be
refused cannot be shown; a run goes on behind a refusal only (`tolerant_run_yields_records`).
-/

namespace Harvest

namespace Batch

open Extraction

variable {E : Engine} {d : Defaults} {rules : List Rule}

/-! ### Placeholders -/

theorem mem_blocksFrom {item i : Nat} {vs : List Value} {v : Value} {r : Record}
    (hv : vs[i]? = some v) (hr : r ∈ itemBlock E d rules (item + i) v) :
    r ∈ blocksFrom E d rules item vs := by
  refine List.mem_flatten.2 ⟨_, List.mem_of_getElem? (i := i) ?_, hr⟩
  simp [hv]

theorem failure_mem_itemBlock_of_load {item : Nat} {v : Value} {e : LoadError}
    (h : load d item v = .error e) : .failure item e.message ∈ itemBlock E d rules item v := by
  rw [itemBlock, h]
  exact List.mem_singleton_self _

theorem failure_mem_itemBlock_of_document {item : Nat} {v : Value} {documents : List String}
    (h : load d item v = .ok documents) {document : String} (hd : document ∈ documents)
    {e : Extraction.Error} (he : extractText E d.parser rules document = .error e) :
    .failure item e.message ∈ itemBlock E d rules item v := by
  rw [itemBlock, h]
  exact List.mem_map.2 ⟨document, hd, documentRecord_of_error he⟩

/-- A tolerant run yields the blocks of its items if the payload holds rules. -/
theorem run_of_rules {payload : Value} (hc : d.continueOnFail = true) (ht : 1 ≤ d.threads)
    (hp : Rule.parse payload = .ok rules) (items : List Value) :
    (run E d items payload).records = .ok (blocksFrom E d rules 0 items) :=
  (run_of_parsed ht hp items).trans (allRecords_of_tolerant hc 0 items)

/-- A tolerant run has a placeholder for each item of a payload that is refused. -/
theorem run_of_refused (hc : d.continueOnFail = true) {payload quoted : Value} {shown : String}
    {reason : Rule.Reason} (hp : Rule.parse payload = .error (.refused quoted shown reason))
    (items : List Value) :
    (run E d items payload).records = .ok ((List.range items.length).map
      (Record.failure · (Rule.PayloadError.refused quoted shown reason).message)) := by
  cases items with
  | nil => rfl
  | cons v vs =>
    rw [run, hp]
    simp only [runWith, List.isEmpty_cons, Bool.false_eq_true, if_false, runRefused, isTolerable,
      hc, if_true]

theorem run_of_tooLong {payload : Value} {error : Text.Numeral.TooLong}
    (hp : Rule.parse payload = .error (.tooLong error)) {items : List Value} (hne : items ≠ []) :
    (run E d items payload).records = .error (.payload (.tooLong error)) := by
  rw [run, hp, runWith, if_neg (by simpa using hne)]
  rfl

/-! ### Whole runs -/

/-- Only an integer that is too long ends a tolerant run. -/
theorem exists_long_of_run_eq_error {payload : Value} (hc : d.continueOnFail = true)
    (ht : 1 ≤ d.threads) {items : List Value} {e : Error}
    (h : (run E d items payload).records = .error e) :
    items ≠ [] ∧ ∃ error, Rule.parse payload = .error (.tooLong error) ∧
      e = .payload (.tooLong error) := by
  have hne : items ≠ [] := by
    rintro rfl
    cases h
  refine ⟨hne, ?_⟩
  cases hp : Rule.parse payload with
  | ok rules => cases (run_of_rules hc ht hp items).symm.trans h
  | error refusal =>
    cases refusal with
    | refused quoted shown reason => cases (run_of_refused hc hp items).symm.trans h
    | tooLong error =>
      cases (run_of_tooLong hp hne).symm.trans h
      exact ⟨error, rfl, rfl⟩

/-- **What a tolerant run survives.**  Take any items, any payload and settings that tolerate
failures.  The run yields records exactly unless there are items and either the payload is text, or its
bytes, that the reader refuses for an integer that is too long, or the payload is refused and cannot be
shown, because an integer in it is too long.  The run ends with the error of that integer then, and a
text that the reader refuses so does hold one.  A payload that is refused and shown leaves a placeholder
for each item, an item that cannot be loaded leaves one, and so does every document that cannot be
parsed or that the rules cannot be applied to. -/
theorem tolerant_run_yields_records (d : Defaults) (hc : d.continueOnFail = true)
    (ht : 1 ≤ d.threads) (items : List Value) (payload : Value) :
    let outcome := (run E d items payload).records
    ((∃ records, outcome = .ok records) ↔ items = [] ∨
      (∀ text n, Rule.IsText text payload → Json.read text ≠ .error (.tooLong n)) ∧
      (payload.isShort = true ∨ ∀ reason, ¬ Rule.Refused payload reason)) ∧
    (∀ e, outcome = .error e →
      (∃ text n, Rule.IsText text payload ∧ Json.read text = .error (.tooLong n) ∧
        e = .payload (.tooLong (.read n)) ∧
        ∃ t ∈ Json.tokens text.toList, t.token.Exceeds (some Text.Numeral.maxDigits) n) ∨
      payload.isShort = false ∧ (∃ reason, Rule.Refused payload reason) ∧
        e = .payload (.tooLong .written)) ∧
    (∀ quoted shown reason, Rule.parse payload = .error (.refused quoted shown reason) →
      outcome = .ok ((List.range items.length).map
        (Record.failure · (Rule.PayloadError.refused quoted shown reason).message))) ∧
    ∀ rules, Rule.parse payload = .ok rules → ∃ records, outcome = .ok records ∧
      ∀ i v, items[i]? = some v →
        (∀ e, load d i v = .error e → .failure i e.message ∈ records) ∧
        ∀ documents, load d i v = .ok documents → ∀ document ∈ documents,
          ∀ e, extractText E d.parser rules document = .error e → .failure i e.message ∈ records := by
  intro outcome
  refine ⟨⟨?_, ?_⟩, fun e he => ?_, fun _ _ _ hp => run_of_refused hc hp items,
    fun rules hp => ⟨_, run_of_rules hc ht hp items, ?_⟩⟩
  · rintro ⟨records, hrecords⟩
    refine or_iff_not_imp_left.2 fun hne => ?_
    have hno (error : Text.Numeral.TooLong) : Rule.parse payload ≠ .error (.tooLong error) := by
      intro hp
      have hfails : outcome = _ := run_of_tooLong hp hne
      cases hfails.symm.trans hrecords
    refine ⟨fun text n htext hread => hno _ (Rule.parse_eq_read_iff.2 ⟨text, htext, hread⟩), ?_⟩
    cases hshort : payload.isShort with
    | true => exact .inl rfl
    | false =>
      exact .inr fun reason h => hno _ (Rule.parse_eq_written_iff.2 ⟨hshort, reason, h⟩)
  · intro hsafe
    cases hrecords : outcome with
    | ok records => exact ⟨records, rfl⟩
    | error e =>
      -- no item makes a tolerant run fail, so it is the payload
      obtain ⟨hne, error, hp, -⟩ := exists_long_of_run_eq_error hc ht hrecords
      obtain ⟨hread, hshown⟩ := hsafe.resolve_left hne
      cases error with
      | read n =>
        obtain ⟨text, htext, htooLong⟩ := Rule.parse_eq_read_iff.1 hp
        exact absurd htooLong (hread text n htext)
      | written =>
        obtain ⟨hlong, reason, hrefused⟩ := Rule.parse_eq_written_iff.1 hp
        rcases hshown with hshort | hno
        · cases hlong.symm.trans hshort
        · exact absurd hrefused (hno reason)
  · obtain ⟨-, error, hp, rfl⟩ := exists_long_of_run_eq_error hc ht he
    cases error with
    | read n =>
      obtain ⟨text, htext, hread⟩ := Rule.parse_eq_read_iff.1 hp
      exact .inl ⟨text, n, htext, hread, rfl, Json.exists_token_of_read hread⟩
    | written =>
      obtain ⟨hlong, hrefused⟩ := Rule.parse_eq_written_iff.1 hp
      exact .inr ⟨hlong, hrefused, rfl⟩
  · intro i v hv
    rw [← Nat.zero_add i]
    exact ⟨fun e he => mem_blocksFrom hv (failure_mem_itemBlock_of_load he),
      fun documents hload document hd e he =>
        mem_blocksFrom hv (failure_mem_itemBlock_of_document hload hd he)⟩

/-- A payload of bytes that are no text, for a page and an item without markup. -/
theorem tolerant_run_yields_records_undecodable :
    let d : Defaults := { continueOnFail := true }
    let items : List Value := [.text "<p>a</p>", .null]
    (d.continueOnFail = true ∧ 1 ≤ d.threads) ∧
    ∃ message, (run Engine.html d items (.bytes [0xFF])).records =
      .ok [.failure 0 message, .failure 1 message] := by
  intro d items
  have hc : d.continueOnFail = true := rfl
  have ht : 1 ≤ d.threads := by decide
  obtain ⟨-, -, hrefused, -⟩ :=
    tolerant_run_yields_records (E := Engine.html) d hc ht items (.bytes [0xFF])
  have hbroken : (Text.Utf8.decode [0xFF]).isOk = false := by decide +kernel
  cases hdecode : Text.Utf8.decode [0xFF] with
  | ok text =>
    rw [hdecode] at hbroken
    cases hbroken
  | error e =>
    have hp : Rule.parse (.bytes [0xFF]) =
        .error (.refused (.bytes [0xFF]) (Text.Quoted.bytes [0xFF]) (.encoding e)) := by
      simp only [Rule.parse, Rule.decode, hdecode]
      rfl
    exact ⟨⟨hc, ht⟩, _, hrefused _ _ _ hp⟩

/-- A payload that is an integer of one digit too many ends a tolerant run without records. -/
theorem run_of_long_integer :
    let d : Defaults := { continueOnFail := true }
    let payload := Value.text (Text.intText (10 ^ Text.Numeral.maxDigits))
    d.continueOnFail = true ∧ 1 ≤ d.threads ∧
      ∃ error, (run Engine.html d [.text "<p>a</p>"] payload).records =
        .error (.payload (.tooLong error)) := by
  intro d payload
  have hlong : Text.Numeral.maxDigits < Text.Numeral.digitCount (10 ^ Text.Numeral.maxDigits) := by
    decide +kernel
  have hp : Rule.parse payload = .error (.tooLong (.read _)) :=
    Rule.parse_eq_read_iff.2 ⟨_, .text, Json.read_intText_of_long hlong⟩
  exact ⟨rfl, by decide, _, run_of_tooLong hp (List.cons_ne_nil _ _)⟩

end Batch

end Harvest
