import Harvest.Batch.Run
import Harvest.Output.Sink

/-!
# Loading

What a run needs is loaded from files: its configuration (`loadConfig`), its rules (`loadRules`) and
its input records (`readInputs`).  Every input file is one record of markup, or JSON that holds one
record or a list of them.
-/

namespace Harvest.Command

open Log (Told)

/-- Why a run fails. -/
inductive Error where
  /-- There is no configuration at this path. -/
  | noConfig (path : FilePath)
  /-- There are no rules at this path. -/
  | noRules (path : FilePath)
  /-- A file cannot be read. -/
  | read (error : Store.ReadError)
  /-- A file is no JSON. -/
  | json (error : Json.Error)
  /-- The configuration is invalid. -/
  | config (report : Validation.Report)
  /-- The payload has no rules. -/
  | payload (error : Rule.PayloadError)
  /-- There is no path for the output. -/
  | noOutput
  /-- The output cannot be written. -/
  | output (error : Output.Error)
  /-- The items cannot be extracted. -/
  | batch (error : Batch.Error)

/-- The message of an error. -/
def Error.message : Error → String
  | noConfig path => "Configuration file not found: " ++ path.text
  | noRules path => "Rules file not found: " ++ path.text
  | read error => error.message
  | json error => error.message
  | config report => report.message
  | payload error => error.message
  | noOutput => "expected str, bytes or os.PathLike object, not list"
  | output error => error.message
  | batch error => error.message

/-- Whether something is at a path, or else the error given. -/
def require (s : Store) (p : FilePath) (missing : Error) : Except Error Unit :=
  match s.contains p with
  | .error fault => .error (.read (.fault fault))
  | .ok false => .error missing
  | .ok true => .ok ()

/-- The text of a file. -/
def readText (s : Store) (p : FilePath) : Except Error String :=
  (s.readText p).mapError .read

/-- The value of a JSON file. -/
def readValue (s : Store) (p : FilePath) : Except Error Value :=
  (readText s p).bind fun text => (Json.read text).mapError .json

/-- The configuration in a file. -/
def readConfig (s : Store) (p : FilePath) : Except Error Config :=
  (readValue s p).bind fun v => (Config.ofValue v).mapError .config

/-- The configuration at a path. -/
def loadConfig (s : Store) (path : String) : Told Error Config := do
  let p := FilePath.ofText path
  Told.of (require s p (.noConfig p))
  Told.say .info "config" ("Loading configuration from: " ++ p.text)
  let config ← Told.of (readConfig s p)
  let d := config.defaults
  Told.say .info "config" ("Loaded configuration: sourceType=" ++ d.sourceType.name ++
    ", dataPropertyName=" ++ d.property ++ ", threads=" ++ Text.intText d.threads)
  return config

/-- The rules in a file. -/
def readRules (s : Store) (p : FilePath) : Except Error (List Rule) :=
  (readText s p).bind fun text => (Rule.parse (.text text)).mapError .payload

/-- The rules at a path. -/
def loadRules (s : Store) (path : String) : Told Error (List Rule) := do
  let p := FilePath.ofText path
  Told.of (require s p (.noRules p))
  Told.say .info "rules" ("Loading rules from: " ++ p.text)
  Told.of (readRules s p)

/-- The records of a JSON value: the elements of a list, and any other value alone. -/
def recordsOf : Value → List Value
  | .list vs => vs
  | v => [v]

/-- The records of an input file. -/
def readInput (s : Store) (items : Bool) (path : String) : Except Error (List Value) :=
  let p := FilePath.ofText path
  if items then (readValue s p).map recordsOf
  else (readText s p).map fun text => [.text text]

/-- The records of several input files, in order. -/
def readAllInputs (s : Store) (items : Bool) : List String → Except Error (List Value)
  | [] => .ok []
  | path :: paths =>
    match readInput s items path with
    | .error e => .error e
    | .ok records => (readAllInputs s items paths).map (records ++ ·)

/-- The records of the inputs. -/
def readInputs (s : Store) (paths : List String) (items : Bool) : Told Error (List Value) := do
  let records ← Told.of (readAllInputs s items paths)
  Told.say .info "cli" ("Read " ++ Text.natText records.length ++ " input records from " ++
    Text.natText paths.length ++ " files")
  return records

end Harvest.Command
