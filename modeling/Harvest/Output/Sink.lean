import Harvest.Output.Lines
import Harvest.Output.Listing

/-!
# Sinks

A `Sink` takes records, in one of the forms of output (`Form`).  It takes records one by one and is
finished at the end.  Every operation says what is in the store and in the sink behind it, also when
it fails.
-/

namespace Harvest.Output

/-- A form of output. -/
inductive Form where
  /-- One record on each line. -/
  | lines
  /-- All records in one list. -/
  | listing
  deriving Repr, DecidableEq

/-- The form of a name. -/
def Form.ofName (name : String) : Except Error Form :=
  match name with
  | "json_lines" => .ok .lines
  | "json_array" => .ok .listing
  | name => .error (.unknownForm name)

/-- What takes records. -/
inductive Sink where
  /-- A file with one record on each line. -/
  | lines (o : Lines)
  /-- A file with all records in one list. -/
  | listing (o : Listing)

/-- What an operation leads to. -/
structure After (σ : Type) where
  /-- The store behind it. -/
  store : Store
  /-- The sink behind it. -/
  sink : σ
  /-- What it told. -/
  log : List Log.Line
  /-- Whether it succeeded. -/
  result : Except Error Unit

namespace Sink

/-- The name of the form in the log. -/
def name : Sink → String
  | lines _ => Lines.name
  | listing _ => Listing.name

/-- The path of the file. -/
def path : Sink → FilePath
  | lines o => o.path
  | listing o => o.path

/-- The records saved so far. -/
def saved : Sink → List Saved
  | lines o => o.saved
  | listing o => o.saved

/-- The store with a new sink. -/
def create (s : Store) (form : Form) (path : FilePath) (indent : Value) :
    Store × Except Error Sink :=
  match form with
  | .lines =>
    match Lines.create s path with
    | (s, created) => (s, created.map lines)
  | .listing =>
    match Listing.create s path indent with
    | (s, created) => (s, created.map listing)

/-- A record is handed to a sink. -/
def save (s : Store) (o : Sink) (record : Value) (item : Int) : After Sink :=
  match o with
  | lines o =>
    match o.save s record item with
    | .ok (s, o') => ⟨s, lines o', [o.saveLog item], .ok ()⟩
    | .error e => ⟨s, lines o, [], .error e⟩
  | listing o =>
    match o.save record item with
    | (o, .ok ()) => ⟨s, listing o, [Listing.saveLog item], .ok ()⟩
    | (o, .error e) => ⟨s, listing o, [], .error e⟩

/-- A sink has all its records. -/
def finish (s : Store) (o : Sink) : After Sink :=
  match o with
  | lines o => ⟨s, lines o, [o.finishLog], .ok ()⟩
  | listing o =>
    match o.finish s with
    | (s, .ok ()) => ⟨s, listing o, [o.startLog, o.finishLog], .ok ()⟩
    | (s, .error e) => ⟨s, listing o, [o.startLog], .error e⟩

/-- Records are handed to a sink, each with its item, and the sink is finished; the first that
cannot be saved ends it. -/
def saveAll (s : Store) (o : Sink) : List (Value × Int) → After Sink
  | [] => o.finish s
  | (record, item) :: rest =>
    let first := o.save s record item
    match first.result with
    | .error _ => first
    | .ok () =>
      let later := first.sink.saveAll first.store rest
      { later with log := first.log ++ later.log }

end Sink

end Harvest.Output
