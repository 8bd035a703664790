import Harvest.Output.Basic

/-!
# Output as one list

`Listing` is a file that holds all records in one JSON list.  Saved records are kept in a buffer, and
`Listing.finish` writes the file anew.  A record is in the buffer from the moment it is handed over,
whether or not it has a JSON form; a value without one breaks off the text of the file.
-/

namespace Harvest.Output

/-- A file with all records in one list. -/
structure Listing where
  /-- The file. -/
  path : FilePath
  /-- The indent of the list, which is a text or a number of spaces. -/
  indent : Value
  /-- The records handed over so far. -/
  buffer : List Value := []
  /-- The records saved so far. -/
  saved : List Saved := []

namespace Listing

/-- The name of the form in the log. -/
def name : String := "JsonArrayStrategy"

/-- The indent that is used where none is chosen. -/
def defaultIndent : Value := .int 2

/-- The layout with an indent of a number of spaces; fewer than none count as none. -/
def spaces (n : Int) : Except Error Json.Layout :=
  if Text.Numeral.isWord n then .ok ⟨some (String.ofList (List.replicate n.toNat ' '))⟩
  else .error .wideIndent

/-- The layout with an indent. -/
def layout : Value → Except Error Json.Layout
  | .null => .ok ⟨none⟩
  | .text s => .ok ⟨some s⟩
  | .int n => spaces n
  | .bool b => spaces (if b then 1 else 0)
  | v => .error (.notIndent v.typeName)

/-- The store in which the folder of the file is there. -/
def create (s : Store) (path : FilePath) (indent : Value) : Store × Except Error Listing :=
  match makeParent s path with
  | (s, .error e) => (s, .error e)
  | (s, .ok ()) => (s, .ok { path, indent })

/-- The output with one more record, and why it was not saved. -/
def save (o : Listing) (record : Value) (item : Int) : Listing × Except Error Unit :=
  let o := { o with buffer := o.buffer ++ [record] }
  match line record with
  | .error e => (o, .error e)
  | .ok text => ({ o with saved := o.saved ++ [⟨item, o.path, text.length⟩] }, .ok ())

/-- The text of the file, as far as it goes, and why it goes no further. -/
def render (o : Listing) : String × Except Error Unit :=
  match layout o.indent with
  | .error e => ("", .error e)
  | .ok l =>
    match Json.write l (.list o.buffer) with
    | .ok s => (s, .ok ())
    | .error r => (r.written, .error (.ofMisfit r.misfit))

/-- The store in which the file holds all records. -/
def finish (s : Store) (o : Listing) : Store × Except Error Unit :=
  match s.write o.path (Text.Utf8.encode o.render.1) with
  | .error fault => (s, .error (.store fault))
  | .ok s => (s, o.render.2)

/-- What is told when a record has been saved. -/
def saveLog (item : Int) : Log.Line :=
  told .debug ("Buffered record for item " ++ Text.intText item)

/-- What is told before the file is written. -/
def startLog (o : Listing) : Log.Line :=
  told .info ("Finalizing " ++ name ++ " - writing " ++ Text.natText o.buffer.length ++ " records")

/-- What is told at the end. -/
def finishLog (o : Listing) : Log.Line :=
  told .info (name ++ " completed. Wrote " ++ o.path.text ++ ".")

end Listing

end Harvest.Output
