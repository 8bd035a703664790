import Harvest.Batch.Document
import Harvest.Extraction.Engine
import Harvest.Log

/-!
# Batch runs

A batch applies the rules of one payload to a list of items.  Every document of an item becomes one
`Record`, in the order of the items and, inside an item, of its documents.

What happens on a failure depends on `Defaults.continueOnFail`: either the first failure ends the
run, or a placeholder record takes the place of what failed, which is a document, an item that could
not be loaded, or every item when the payload itself is refused.

A run tells its course and every failure (`Outcome.log`).  What it tells of its items stands there in
the order of the items, although a run of several threads may tell it in another.

A `Runner` performs runs one after the other and keeps the `Stats` of the last one.
-/

namespace Harvest.Batch

open Extraction (Engine)

/-! ### Records and statistics -/

/-- An output record. -/
structure Record where
  /-- What was extracted. -/
  json : Entries
  /-- The index of the item it comes from. -/
  item : Nat
  /-- The message of the failure that the record stands for. -/
  error : Option String

/-- The record of a document. -/
def Record.success (item : Nat) (json : Entries) : Record :=
  ⟨json, item, none⟩

/-- The placeholder for a failure. -/
def Record.failure (item : Nat) (message : String) : Record :=
  ⟨[("error", .text message)], item, some message⟩

/-- Whether a record is a placeholder. -/
def Record.isFailure (r : Record) : Bool :=
  r.error.isSome

/-- How a run went. -/
structure Stats where
  /-- The number of items. -/
  total : Nat := 0
  /-- The number of records. -/
  documents : Nat := 0
  /-- The number of records that are no placeholders. -/
  success : Nat := 0
  /-- The number of placeholders. -/
  failed : Nat := 0
  deriving Repr, DecidableEq

/-- The statistics of a finished run. -/
def Stats.ofRecords (total : Nat) (records : List Record) : Stats :=
  let failed := records.countP Record.isFailure
  { total, documents := records.length, success := records.length - failed, failed }

/-- Why a run ends without records. -/
inductive Error where
  /-- The payload has no rules. -/
  | payload (error : Rule.PayloadError)
  /-- The number of threads is negative. -/
  | threads
  /-- An item has no documents. -/
  | load (error : LoadError)
  /-- The rules cannot be applied to a document. -/
  | extraction (error : Extraction.Error)

/-- The message of an error. -/
def Error.message : Error → String
  | payload error => error.message
  | threads => "Semaphore initial value must be >= 0"
  | load error => error.message
  | extraction error => error.message

/-! ### Items -/

section

variable (E : Engine) (d : Defaults) (rules : List Rule)

/-- The records of the documents of the item of an index. -/
def documentRecords (item : Nat) : List String → Except Error (List Record)
  | [] => .ok []
  | document :: documents =>
    match Extraction.extractText E d.parser rules document with
    | .ok json => (documentRecords item documents).map (.success item json :: ·)
    | .error e =>
      if d.continueOnFail then
        (documentRecords item documents).map (.failure item e.message :: ·)
      else .error (.extraction e)

/-- The records of an item, unless it fails as a whole. -/
def loadedRecords (item : Nat) (v : Value) : Except Error (List Record) :=
  match load d item v with
  | .ok documents => documentRecords E d rules item documents
  | .error e => .error (.load e)

/-- The records of an item. -/
def itemRecords (item : Nat) (v : Value) : Except Error (List Record) :=
  match loadedRecords E d rules item v with
  | .ok records => .ok records
  | .error e => if d.continueOnFail then .ok [.failure item e.message] else .error e

/-- The records of all items from an index on; the first item that fails decides the error. -/
def allRecords : Nat → List Value → Except Error (List Record)
  | _, [] => .ok []
  | item, v :: vs =>
    match itemRecords E d rules item v with
    | .error e => .error e
    | .ok records => (allRecords (item + 1) vs).map (records ++ ·)

end

/-! ### What is told -/

/-- A line of the log of a run. -/
def told (level : Log.Level) (message : String) : Log.Line :=
  ⟨level, "batch_runner", message⟩

/-- The line at the start of a run. -/
def startLine (total : Nat) : Log.Line :=
  told .info ("Starting extraction of " ++ Text.natText total ++ " items")

/-- The line at the end of a run. -/
def endLine (s : Stats) : Log.Line :=
  told .info ("Extraction completed: " ++ Text.natText s.success ++ " success, " ++
    Text.natText s.failed ++ " failed, " ++ Text.natText s.documents ++ " documents from " ++
    Text.natText s.total ++ " items")

/-- The line about an item that fails as a whole. -/
def itemLine (d : Defaults) (item : Nat) (e : Error) : Log.Line :=
  told .error ("Extraction failed for item " ++ Text.natText item ++
    (if d.continueOnFail then ", continuing: " else ": ") ++ e.message)

/-- The line about a document that a placeholder stands for. -/
def documentLine (item : Nat) (message : String) : Log.Line :=
  told .error ("Extraction failed for a document of item " ++ Text.natText item ++
    ", continuing: " ++ message)

/-- The line about a payload that is refused. -/
def refusalLine (d : Defaults) (total : Nat) (e : Rule.PayloadError) : Log.Line :=
  told .error (if d.continueOnFail then
    "Invalid rules, marking all " ++ Text.natText total ++ " items as failed: " ++ e.message
    else "Invalid rules: " ++ e.message)

/-- The lines about the failures of an item. -/
def itemLines (E : Engine) (d : Defaults) (rules : List Rule) (item : Nat) (v : Value) :
    List Log.Line :=
  match loadedRecords E d rules item v with
  | .error e => [itemLine d item e]
  | .ok records => records.filterMap fun r => r.error.map (documentLine item)

/-- The lines about the failures of all items from an index on; an item that ends a run keeps no other
from being extracted. -/
def allLines (E : Engine) (d : Defaults) (rules : List Rule) : Nat → List Value → List Log.Line
  | _, [] => []
  | item, v :: vs => itemLines E d rules item v ++ allLines E d rules (item + 1) vs

/-! ### Runs -/

/-- What a run yields. -/
structure Outcome where
  /-- The records, or the failure that ended the run. -/
  records : Except Error (List Record)
  /-- How it went. -/
  stats : Stats
  /-- What it told. -/
  log : List Log.Line

/-- A run over at least one item with rules that have been parsed. -/
def runRules (E : Engine) (d : Defaults) (items : List Value) (rules : List Rule) : Outcome :=
  let start := startLine items.length
  if d.threads < 0 then ⟨.error .threads, { total := items.length }, [start]⟩
  else
    let failures := allLines E d rules 0 items
    match allRecords E d rules 0 items with
    | .error e => ⟨.error e, { total := items.length }, start :: failures⟩
    | .ok records =>
      let stats := Stats.ofRecords items.length records
      ⟨.ok records, stats, start :: failures ++ [endLine stats]⟩

/-- Whether a run can go on behind an error of its payload, with a placeholder for each item. -/
def isTolerable (d : Defaults) : Rule.PayloadError → Bool
  | .refused .. => d.continueOnFail
  | .tooLong _ => false

/-- What is told of an error of the payload; only a refusal is. -/
def payloadLines (d : Defaults) (total : Nat) (e : Rule.PayloadError) : List Log.Line :=
  match e with
  | .refused .. => [refusalLine d total e]
  | .tooLong _ => []

/-- A run over at least one item of which the payload has no rules. -/
def runRefused (d : Defaults) (items : List Value) (e : Rule.PayloadError) : Outcome :=
  let log := startLine items.length :: payloadLines d items.length e
  if isTolerable d e then
    let placeholders := (List.range items.length).map (Record.failure · e.message)
    ⟨.ok placeholders, { total := items.length, failed := items.length }, log⟩
  else ⟨.error (.payload e), { total := items.length }, log⟩

section

variable (E : Engine) (d : Defaults) (items : List Value)

/-- A run over items with rules that have been parsed, or that could not be. -/
def runWith (rules : Except Rule.PayloadError (List Rule)) : Outcome :=
  if items.isEmpty then ⟨.ok [], {}, [told .info "No items to process"]⟩
  else
    match rules with
    | .error e => runRefused d items e
    | .ok rules => runRules E d items rules

/-- A run of the rules of a payload over items. -/
def run (payload : Value) : Outcome :=
  runWith E d items (Rule.parse payload)

end

/-- What performs runs. -/
structure Runner where
  /-- The settings of every run. -/
  defaults : Defaults
  /-- How the last run went. -/
  stats : Stats := {}

/-- A run, and the runner behind it. -/
def Runner.run (E : Engine) (r : Runner) (items : List Value) (payload : Value) :
    Outcome × Runner :=
  let outcome := Batch.run E r.defaults items payload
  (outcome, { r with stats := outcome.stats })

end Harvest.Batch
