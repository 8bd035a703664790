import Harvest.Extraction.Resolve

/-!
# Extraction from markup

An `Engine` turns markup into documents and says how these are searched and read.  `extract` parses a
document and resolves the rules of a payload on it; `extractMany` does the same for several documents
with the rules of one payload.  Both are the same for every engine.

A document is parsed before a payload is read by `extract`, and after it by `extractMany`.
-/

namespace Harvest.Extraction

/-! ### Engines -/

/-- Why there is no document. -/
inductive DocumentError where
  /-- No parser has this name. -/
  | noParser (name : String)
  /-- The markup is refused, for this reason. -/
  | refused (reason : String)
  /-- A value is no markup, for this reason. -/
  | notMarkup (reason : String)
  /-- An integer has too many digits: a character reference that is to be read, or one in a value that
  is no markup and is to be shown. -/
  | tooLong (error : Text.Numeral.TooLong)
  deriving Repr, DecidableEq

/-- The message of an error. -/
def DocumentError.message : DocumentError → String
  | noParser name =>
    "Couldn't find a tree builder with the features you requested: " ++ name ++
      ". Do you need to install a parser library?"
  | refused reason => reason
  | notMarkup reason => reason
  | tooLong error => error.message

/-- What makes documents of markup, and what an extraction can see of them. -/
structure Engine where
  /-- A place in a document. -/
  Node : Type
  /-- The document of a value, for the parser of a name: the place that holds it all. -/
  parse : String → Value → Except DocumentError Node
  /-- The view of a document. -/
  view : View Node

/-! ### Whole extractions -/

/-- Why an extraction has no result. -/
inductive Error where
  /-- The payload has no rules. -/
  | payload (error : Rule.PayloadError)
  /-- There is no document. -/
  | document (error : DocumentError)
  /-- The rules cannot be resolved. -/
  | failure (failure : Failure)
  /-- The source is a value of this kind, which holds no documents. -/
  | notIterable (typeName : String)

/-- The message of an error. -/
def Error.message : Error → String
  | payload error => error.message
  | document error => error.message
  | failure f => f.message
  | notIterable typeName => "'" ++ typeName ++ "' object is not iterable"

section

variable (E : Engine) (parser : String)

/-- What the rules make of a document. -/
def resolveDocument (rules : List Rule) (document : E.Node) : Except Error Entries :=
  (resolve E.view document rules).outcome.mapError .failure

/-- What the rules make of the document of a value. -/
def extractValue (rules : List Rule) (v : Value) : Except Error Entries :=
  match E.parse parser v with
  | .error e => .error (.document e)
  | .ok document => resolveDocument E rules document

/-- What the rules make of a markup text. -/
def extractText (rules : List Rule) (markup : String) : Except Error Entries :=
  extractValue E parser rules (.text markup)

/-- What the rules of a payload make of a markup text. -/
def extract (markup : String) (payload : Value) : Except Error Entries :=
  match E.parse parser (.text markup) with
  | .error e => .error (.document e)
  | .ok document =>
    match Rule.parse payload with
    | .error e => .error (.payload e)
    | .ok rules => resolveDocument E rules document

end

theorem exists_parsed_of_extractText {E : Engine} {parser document : String} {rules : List Rule}
    {es : Entries} (h : extractText E parser rules document = .ok es) :
    ∃ tree, E.parse parser (.text document) = .ok tree ∧
      (resolve E.view tree rules).outcome = .ok es := by
  unfold extractText extractValue resolveDocument at h
  cases hparse : E.parse parser (.text document) with
  | error e =>
    rw [hparse] at h
    cases h
  | ok tree =>
    cases hresolve : (resolve E.view tree rules).outcome with
    | error failure =>
      simp only [hparse, hresolve] at h
      cases h
    | ok es' =>
      simp only [hparse, hresolve] at h
      cases h
      exact ⟨tree, rfl, hresolve⟩

/-- The documents of a source: a text is one, and a value that holds others is gone through. -/
def sourceDocuments (source : Value) : Except Error (List Value) :=
  match source with
  | .text s => .ok [.text s]
  | .list vs => .ok vs
  | .tuple vs => .ok vs
  | .map es => .ok (es.map fun e => .text e.1)
  | .bytes bs => .ok (bs.map fun b => .int b.toNat)
  | .buffer bs => .ok (bs.map fun b => .int b.toNat)
  | .rule name selector declared source multi =>
    .ok [
      .tuple [.text "var_name", .text name],
      .tuple [.text "selector", selector.elim .null .text],
      .tuple [.text "value_type", declared],
      .tuple [.text "value_by", source],
      .tuple [.text "multi", multi.elim .null .bool]]
  | v => .error (.notIterable v.typeName)

/-- What the rules make of each of some documents, up to the first that fails. -/
def extractAll (E : Engine) (parser : String) (rules : List Rule) :
    List Value → Except Error (List Entries)
  | [] => .ok []
  | v :: vs =>
    match extractValue E parser rules v with
    | .error e => .error e
    | .ok es => (extractAll E parser rules vs).map (es :: ·)

/-- What the rules of a payload make of each document of a source. -/
def extractMany (E : Engine) (parser : String) (source payload : Value) :
    Except Error (List Entries) :=
  match Rule.parse payload with
  | .error e => .error (.payload e)
  | .ok rules => (sourceDocuments source).bind (extractAll E parser rules)

end Harvest.Extraction
