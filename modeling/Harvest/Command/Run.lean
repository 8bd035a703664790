import Harvest.Command.Arguments
import Harvest.Command.Load

/-!
# Runs of the command line

`execute` does what a command line asks for, on a `Store` and with an engine for markup.  First
everything is loaded (`prepare`), which leaves the store as it is; then, unless it is a dry run, the
records of the batch are written (`perform`).  The `Outcome` holds the exit code, the store behind the
run and all that was told.
-/

namespace Harvest.Command

open Extraction (Engine)
open Log (Told)

/-- What is to be extracted, with everything loaded. -/
structure Job where
  /-- The name of the form of output. -/
  form : String
  /-- The settings of the batch. -/
  defaults : Defaults
  /-- The rules. -/
  rules : List Rule
  /-- The records. -/
  items : List Value

/-- The settings of a configuration as the command line overrides them.  A number of threads that
is zero overrides nothing. -/
def override (d : Defaults) (o : Options) : Defaults :=
  { d with
    continueOnFail := o.continueOnFail || d.continueOnFail
    threads :=
      match o.threads with
      | some n => if n = 0 then d.threads else n
      | none => d.threads }

/-- The rules of a run. -/
def chooseRules (s : Store) (o : Options) (config : Config) : Told Error (List Rule) :=
  match o.rules with
  | some path =>
    if path.isEmpty then Told.of ((Rule.parse config.rules).mapError .payload)
    else loadRules s path
  | none => Told.of ((Rule.parse config.rules).mapError .payload)

/-- Everything is loaded. -/
def prepare (s : Store) (o : Options) : Told Error Job := do
  let config ← loadConfig s o.config
  let rules ← chooseRules s o config
  let items ← readInputs s o.inputs o.items
  return ⟨config.strategy, override config.defaults o, rules, items⟩

/-- A line of the log of the command line. -/
def told (level : Log.Level) (message : String) : Log.Line :=
  ⟨level, "cli", message⟩

/-- What is told by a dry run. -/
def dryRunLog (o : Options) (job : Job) : List Log.Line :=
  told .info ("Would apply " ++ Text.natText job.rules.length ++ " rules to " ++
      Text.natText job.items.length ++ " records") ::
    o.inputs.map fun path => told .info ("Would process: " ++ path)

/-- What is told at the end of a run. -/
def statsLog (s : Batch.Stats) : Log.Line :=
  told .info ("Extraction stats: " ++ Text.natText s.success ++ " success, " ++
    Text.natText s.failed ++ " failed, " ++ Text.natText s.documents ++ " documents")

/-- A store, what was told on the way to it, and whether that succeeded. -/
structure Performed where
  /-- The store. -/
  store : Store
  /-- The lines of the log. -/
  log : List Log.Line
  /-- Why it failed. -/
  result : Except Error Unit

/-- The store with a new sink for the records of a job. -/
def openSink (s : Store) (o : Options) (job : Job) : Store × Except Error Output.Sink :=
  match Output.Form.ofName job.form, o.output with
  | .error e, _ => (s, .error (.output e))
  | .ok _, none => (s, .error .noOutput)
  | .ok form, some path =>
    match Output.Sink.create s form (FilePath.ofText path) Output.Listing.defaultIndent with
    | (s, created) => (s, created.mapError .output)

/-- The records of a batch are handed to a sink. -/
def writeRecords (s : Store) (sink : Output.Sink) (outcome : Batch.Outcome) : Performed :=
  match outcome.records with
  | .error e => ⟨s, outcome.log, .error (.batch e)⟩
  | .ok records =>
    let after := sink.saveAll s (records.map fun r => (.map r.json, (r.item : Int)))
    match after.result with
    | .error e => ⟨after.store, outcome.log ++ after.log, .error (.output e)⟩
    | .ok () => ⟨after.store, outcome.log ++ after.log ++ [statsLog outcome.stats], .ok ()⟩

/-- The records of a job are extracted and written. -/
def perform (E : Engine) (s : Store) (o : Options) (job : Job) : Performed :=
  match openSink s o job with
  | (s, .error e) => ⟨s, [], .error e⟩
  | (s, .ok sink) => writeRecords s sink (Batch.runWith E job.defaults job.items (.ok job.rules))

/-- The extraction that some options ask for. -/
def extract (E : Engine) (s : Store) (o : Options) : Performed :=
  let prepared := prepare s o
  match prepared.outcome with
  | .error e => ⟨s, prepared.log, .error e⟩
  | .ok job =>
    if o.dryRun then ⟨s, prepared.log ++ dryRunLog o job, .ok ()⟩
    else
      let performed := perform E s o job
      { performed with log := prepared.log ++ performed.log }

/-- What a command line leads to. -/
structure Outcome where
  /-- The exit code. -/
  exit : Nat
  /-- The store. -/
  store : Store
  /-- What is logged. -/
  log : List Log.Line := []
  /-- What is printed. -/
  printed : String := ""
  /-- What is wrong with the command line. -/
  usage : Option UsageError := none

/-- What a run with some options leads to. -/
def run (E : Engine) (s : Store) (o : Options) : Outcome :=
  let performed := extract E s o
  match performed.result with
  | .ok () => ⟨0, performed.store, performed.log.filter (·.isShown o.verbose), "", none⟩
  | .error e =>
    let log := performed.log ++ [told .error ("Extraction failed: " ++ e.message)]
    ⟨1, performed.store, log.filter (·.isShown o.verbose), "", none⟩

/-- What a command line leads to. -/
def execute (E : Engine) (s : Store) (args : List String) : Outcome :=
  match Options.parse args with
  | .ok (some o) => run E s o
  | .ok none => { exit := 1, store := s, printed := Page.program.help }
  | .error (.help page) => { exit := 0, store := s, printed := page.help }
  | .error (.usage e) => { exit := 2, store := s, usage := some e }

end Harvest.Command
