import Harvest.Proofs.Batch.Records

/-!
# Three ways to extract a list of documents

Markup texts are extracted one by one (`Extraction.extract`), together (`Extraction.extractMany`) or
as the items of a batch (`Batch.run`).  With rules that have been read, all three go through the
documents in order and stop at the first that fails (`extractAll_texts`, `allRecords_texts`).

A payload is read once by the last two, before any document is parsed, but again for each document,
behind the document, where they are extracted one by one.  So all three agree, unless the payload is
refused and the first document as well: then each way complains about what it meets first
(`entry_points_agree`).
-/

namespace Harvest

/-! ### What callers are told of a failure -/

/-- The kinds of failures that callers tell apart. -/
inductive Complaint.Kind where
  /-- A payload is refused. -/
  | payload
  /-- A rule has a flaw. -/
  | rule
  /-- Markup is refused. -/
  | markup
  /-- No parser has the name. -/
  | parser
  /-- The markup of a record is missing. -/
  | missing
  /-- A record holds something that is no markup. -/
  | notMarkup
  /-- A value is out of range. -/
  | value
  /-- A value is of the wrong kind. -/
  | type
  /-- Something is not supported. -/
  | unsupported
  deriving Repr, DecidableEq

/-- What a caller is told of a failure. -/
structure Complaint where
  /-- The kind of the failure. -/
  kind : Complaint.Kind
  /-- The message. -/
  message : String
  /-- The name of the rule that is to blame, where one is. -/
  rule : Option String
  deriving Repr, DecidableEq

/-- The complaint about a payload. -/
def Rule.PayloadError.complaint (e : Rule.PayloadError) : Complaint :=
  match e with
  | .refused .. => ⟨.payload, e.message, none⟩
  | .tooLong _ => ⟨.value, e.message, none⟩

namespace Extraction

/-- The complaint about the extraction from a tree. -/
def Failure.complaint (f : Failure) : Complaint :=
  match f with
  | .rule r _ => ⟨.rule, f.message, some r.name⟩
  | .search (.invalid _) => ⟨.value, f.message, none⟩
  | .search (.unsupported _) => ⟨.unsupported, f.message, none⟩
  | .noNodes => ⟨.type, f.message, none⟩
  | .notText .. => ⟨.type, f.message, none⟩
  | .longInteger => ⟨.value, f.message, none⟩

/-- The complaint about a document. -/
def DocumentError.complaint (e : DocumentError) : Complaint :=
  match e with
  | .noParser _ => ⟨.parser, e.message, none⟩
  | .refused _ => ⟨.markup, e.message, none⟩
  | .notMarkup _ => ⟨.type, e.message, none⟩
  | .tooLong _ => ⟨.value, e.message, none⟩

/-- The complaint about an extraction. -/
def Error.complaint (e : Error) : Complaint :=
  match e with
  | .payload error => error.complaint
  | .document error => error.complaint
  | .failure f => f.complaint
  | .notIterable _ => ⟨.type, e.message, none⟩

end Extraction

namespace Batch

/-- The complaint about the documents of a record. -/
def LoadError.complaint (e : LoadError) : Complaint :=
  match e with
  | .missing .. => ⟨.missing, e.message, none⟩
  | .path _ => ⟨.value, e.message, none⟩
  | .notBinary _ => ⟨.notMarkup, e.message, none⟩
  | .notText .. => ⟨.notMarkup, e.message, none⟩

/-- The complaint about a batch. -/
def Error.complaint (e : Error) : Complaint :=
  match e with
  | .payload error => error.complaint
  | .threads => ⟨.value, e.message, none⟩
  | .load error => error.complaint
  | .extraction error => error.complaint

open Extraction

variable {E : Engine} {d : Defaults} {rules : List Rule} {payload : Value}

/-! ### Rules that have been read -/

theorem extract_of_parsed (hp : Rule.parse payload = .ok rules) (parser document : String) :
    extract E parser document payload = extractText E parser rules document := by
  unfold extract extractText extractValue
  cases E.parse parser (.text document) with
  | error e => rfl
  | ok tree => simp only [hp]

/-- Documents that are extracted together are extracted one after the other. -/
theorem extractAll_texts (E : Engine) (parser : String) (rules : List Rule)
    (documents : List String) :
    extractAll E parser rules (documents.map .text) =
      documents.mapM (extractText E parser rules) := by
  induction documents with
  | nil => rfl
  | cons document documents ih =>
    rw [List.map_cons, extractAll, ih, List.mapM_cons, extractText]
    cases extractValue E parser rules (.text document) with
    | error e => rfl
    | ok json => cases documents.mapM (extractText E parser rules) <;> rfl

/-- A text is its own only document. -/
theorem load_text (hs : d.sourceType = .json) (item : Nat) (document : String) :
    load d item (.text document) = .ok [document] := by
  simp only [load, markup, isMarkup, Value.text?, Option.isSome_some, Bool.true_or, if_true,
    Except.bind, documents, hs, Value.binary?, Value.toList]
  rfl

theorem itemRecords_text (hs : d.sourceType = .json) (hc : d.continueOnFail = false) (item : Nat)
    (document : String) :
    itemRecords E d rules item (.text document) =
      match extractText E d.parser rules document with
      | .error e => .error (.extraction e)
      | .ok json => .ok [.success item json] := by
  simp only [itemRecords, loadedRecords, load_text hs, documentRecords, hc]
  cases extractText E d.parser rules document <;> rfl

/-- So are the items of a batch that are texts, if no failure is tolerated. -/
theorem allRecords_texts (hs : d.sourceType = .json) (hc : d.continueOnFail = false) (item : Nat)
    (documents : List String) :
    allRecords E d rules item (documents.map .text) =
      match documents.mapM (extractText E d.parser rules) with
      | .error e => .error (.extraction e)
      | .ok maps => .ok (maps.mapIdx fun i json => .success (item + i) json) := by
  induction documents generalizing item with
  | nil => rfl
  | cons document documents ih =>
    rw [List.map_cons, allRecords, itemRecords_text hs hc, ih, List.mapM_cons]
    cases extractText E d.parser rules document with
    | error e => rfl
    | ok json =>
      cases documents.mapM (extractText E d.parser rules) with
      | error e => rfl
      | ok maps =>
        have hshift : (fun i (es : Entries) => Record.success (item + 1 + i) es) =
            fun i es => Record.success (item + (i + 1)) es := by
          funext i es
          rw [Nat.add_assoc, Nat.add_comm 1 i]
        change Except.ok _ = Except.ok _
        rw [List.mapIdx_cons, hshift]
        rfl

/-! ### The first failure -/

/-- The document of an index fails by itself, and those before it do not. -/
def FailsFirst (E : Engine) (parser : String) (payload : Value) (documents : List String) (i : Nat)
    (e : Extraction.Error) : Prop :=
  (∃ document, documents[i]? = some document ∧ extract E parser document payload = .error e) ∧
    ∀ document ∈ documents.take i, ∃ json, extract E parser document payload = .ok json

/-- Documents that are extracted one by one fail as the first that fails. -/
theorem exists_failsFirst {parser : String} {documents : List String} {e : Extraction.Error}
    (h : documents.mapM (extract E parser · payload) = .error e) :
    ∃ i, FailsFirst E parser payload documents i e := by
  induction documents with
  | nil => cases h
  | cons document documents ih =>
    rw [List.mapM_cons] at h
    cases hfirst : extract E parser document payload with
    | error e' =>
      rw [hfirst] at h
      cases h
      exact ⟨0, ⟨document, rfl, hfirst⟩, by simp⟩
    | ok json =>
      rw [hfirst] at h
      cases hrest : documents.mapM (extract E parser · payload) with
      | error e' =>
        rw [hrest] at h
        cases h
        obtain ⟨i, hfails, hbefore⟩ := ih hrest
        refine ⟨i + 1, hfails, ?_⟩
        rw [List.take_succ_cons, List.forall_mem_cons]
        exact ⟨⟨json, hfirst⟩, hbefore⟩
      | ok maps =>
        rw [hrest] at h
        cases h

/-! ### All three ways -/

/-- A batch that tolerates no failure ends with the error of a payload that has no rules. -/
theorem records_of_refused (hc : d.continueOnFail = false) {refusal : Rule.PayloadError}
    (hp : Rule.parse payload = .error refusal) {items : List Value} (hne : items ≠ []) :
    (run E d items payload).records = .error (.payload refusal) := by
  have htolerable : isTolerable d refusal = false := by
    cases refusal with
    | refused quoted reason => exact hc
    | tooLong digits => rfl
  unfold run runWith
  rw [if_neg (by simpa using hne), hp]
  simp only [runRefused, htolerable, Bool.false_eq_true, if_false]

/-- **Three ways to extract documents agree.**  Some documents are extracted one by one, together,
or as the items of a batch that takes texts and tolerates no failure.  Either all three yield the
same maps, in the order of the documents, and the batch numbers them in that order; or all fail with
the same complaint, that of the first document that fails by itself.  There is one exception: if the
payload is refused and the first document as well, the way one by one complains about the document,
and both others about the payload. -/
theorem entry_points_agree (E : Engine) (d : Defaults) (ht : 1 ≤ d.threads)
    (hs : d.sourceType = .json) (hc : d.continueOnFail = false) (payload : Value) {documents : List String}
    (hd : documents ≠ []) :
    let each := documents.mapM (extract E d.parser · payload)
    let many := extractMany E d.parser (.list (documents.map .text)) payload
    let batch := (run E d (documents.map .text) payload).records
    (∃ maps, each = .ok maps ∧ many = .ok maps ∧ batch = .ok (maps.mapIdx Record.success)) ∨
    (∃ i e e', each = .error e ∧ many = .error e ∧ batch = .error e' ∧
      e'.complaint = e.complaint ∧ FailsFirst E d.parser payload documents i e) ∨
    ∃ refusal rejection, Rule.parse payload = .error refusal ∧
      documents.head?.map (fun document => E.parse d.parser (.text document)) =
        some (.error rejection) ∧
      each = .error (.document rejection) ∧ many = .error (.payload refusal) ∧
      batch = .error (.payload refusal) := by
  intro each many batch
  cases hp : Rule.parse payload with
  | ok rules =>
    -- all three go through the documents with the same rules, up to the first that fails
    have heach : each = documents.mapM (extractText E d.parser rules) :=
      congrArg (documents.mapM ·) (funext (extract_of_parsed hp d.parser))
    have hmany : many = documents.mapM (extractText E d.parser rules) := by
      rw [← extractAll_texts]
      simp only [many, extractMany, hp, sourceDocuments, Except.bind]
    have hbatch : batch = _ := (run_of_parsed ht hp _).trans (allRecords_texts hs hc 0 documents)
    rw [← hmany] at hbatch
    cases hresult : many with
    | ok maps =>
      rw [hresult] at hmany hbatch
      simp only [Nat.zero_add] at hbatch
      exact .inl ⟨maps, heach.trans hmany.symm, rfl, hbatch⟩
    | error e =>
      rw [hresult] at hmany hbatch
      have hfails : each = .error e := heach.trans hmany.symm
      obtain ⟨i, hfirst⟩ := exists_failsFirst hfails
      exact .inr (.inl ⟨i, e, _, hfails, rfl, hbatch, rfl, hfirst⟩)
  | error refusal =>
    have hmany : many = .error (.payload refusal) := by
      simp only [many, extractMany, hp]
    have hbatch : batch = .error (.payload refusal) := records_of_refused hc hp (by simpa using hd)
    obtain ⟨first, rest, rfl⟩ := List.exists_cons_of_ne_nil hd
    -- the first document decides whether the payload is read at all
    cases hfirst : E.parse d.parser (.text first) with
    | error rejection =>
      have heach : each = .error (.document rejection) := by
        simp only [each, List.mapM_cons, extract, hfirst]
        rfl
      exact .inr (.inr ⟨refusal, rejection, rfl, congrArg some hfirst, heach, hmany, hbatch⟩)
    | ok tree =>
      have heach : each = .error (.payload refusal) := by
        simp only [each, List.mapM_cons, extract, hfirst, hp]
        rfl
      obtain ⟨i, hfails⟩ := exists_failsFirst heach
      exact .inr (.inl ⟨i, _, _, heach, hmany, hbatch, rfl, hfails⟩)

/-- What a caller is told of an extraction that fails. -/
def complaint? {α : Type} : Except Extraction.Error α → Option Complaint
  | .error e => some e.complaint
  | .ok _ => none

/-- A rule that does not say what to take is not reached in the first document; in the second it is,
and all three ways complain about it. -/
theorem entry_points_agree_paragraph :
    let d : Defaults := {}
    let payload : Value := .map [("varName", .text "t"), ("selector", .text "p")]
    let documents := ["<b>x</b>", "<p>y</p>"]
    (1 ≤ d.threads ∧ d.sourceType = .json ∧ d.continueOnFail = false ∧ documents ≠ []) ∧
    ∃ e e', documents.mapM (extract Engine.html d.parser · payload) = .error e ∧
      extractMany Engine.html d.parser (.list (documents.map .text)) payload = .error e ∧
      (run Engine.html d (documents.map .text) payload).records = .error e' ∧
      e'.complaint = ⟨.rule, "t: invalid valueType: None", some "t"⟩ ∧
      FailsFirst Engine.html d.parser payload documents 1 e := by
  intro d payload documents
  have ht : 1 ≤ d.threads := by decide
  have hd : documents ≠ [] := by simp [documents]
  refine ⟨⟨ht, rfl, rfl, hd⟩, ?_⟩
  have htold : complaint? (documents.mapM (extract Engine.html d.parser · payload)) =
      some ⟨.rule, "t: invalid valueType: None", some "t"⟩ := by decide +kernel
  have hfirst : (extract Engine.html d.parser "<b>x</b>" payload).isOk = true := by decide +kernel
  obtain ⟨maps, heach, -⟩ | ⟨i, e, e', heach, hmany, hbatch, hsame, hfails⟩ |
      ⟨refusal, -, hp, -⟩ := entry_points_agree Engine.html d ht rfl rfl payload hd
  · rw [heach] at htold
    cases htold
  · rw [heach] at htold
    -- the first document does not fail, and there are only two
    obtain rfl : i = 1 := by
      obtain ⟨⟨document, hdocument, hfail⟩, -⟩ := hfails
      have hlt : i < 2 := (List.getElem?_eq_some_iff.1 hdocument).1
      by_contra hne
      obtain rfl : i = 0 := by omega
      cases hdocument
      rw [hfail] at hfirst
      cases hfirst
    exact ⟨e, e', heach, hmany, hbatch, hsame.trans (Option.some.inj htold), hfails⟩
  · cases hp

/-- A payload that holds a number and a document with an unknown marked section are both refused.  To
extract the document by itself complains about the document, to extract a list of it about the
payload. -/
theorem complaints_of_refused_payload_and_markup :
    let documents := ["<![x]>"]
    let payload : Value := .list [.int 5]
    Rule.parse payload = .error (.refused payload "[5]" (.entry "int")) ∧
      (complaint? (documents.mapM (extract Engine.html "html.parser" · payload))).map
        Complaint.kind = some .markup ∧
      (complaint? (extractMany Engine.html "html.parser" (.list (documents.map .text)) payload)).map
        Complaint.kind = some .payload := by
  refine ⟨rfl, ?_, ?_⟩ <;> decide +kernel

end Batch

end Harvest
