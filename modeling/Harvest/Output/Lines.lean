import Harvest.Output.Basic

/-!
# Output in lines

`Lines` is a file with one record on each line.  The file is emptied at the start and each record is
written as soon as it is saved, so at any time it holds the lines of the records saved so far.
-/

namespace Harvest.Output

/-- A file with one record on each line. -/
structure Lines where
  /-- The file. -/
  path : FilePath
  /-- The records saved so far. -/
  saved : List Saved := []
  deriving Repr, DecidableEq

namespace Lines

/-- The name of the form in the log. -/
def name : String := "JsonLinesStrategy"

/-- The store in which the file is there and empty. -/
def create (s : Store) (path : FilePath) : Store × Except Error Lines :=
  match makeParent s path with
  | (s, .error e) => (s, .error e)
  | (s, .ok ()) =>
    match s.write path [] with
    | .error fault => (s, .error (.store fault))
    | .ok s => (s, .ok { path })

/-- The store and the output with one more record. -/
def save (s : Store) (o : Lines) (record : Value) (item : Int) : Except Error (Store × Lines) :=
  match line record with
  | .error e => .error e
  | .ok text =>
    match s.append o.path (Text.Utf8.encode (text ++ "\n")) with
    | .error fault => .error (.store fault)
    | .ok s => .ok (s, { o with saved := o.saved ++ [⟨item, o.path, text.length⟩] })

/-- What is told when a record has been saved. -/
def saveLog (o : Lines) (item : Int) : Log.Line :=
  told .debug ("Appended record for item " ++ Text.intText item ++ " to: " ++ o.path.text)

/-- What is told at the end. -/
def finishLog (o : Lines) : Log.Line :=
  told .info (name ++ " completed. Saved " ++ Text.natText o.saved.length ++ " records.")

end Lines

end Harvest.Output
