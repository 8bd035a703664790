import Harvest.Json.Write
import Harvest.Log
import Harvest.Store.Basic

/-!
# Saving records

Records are written to a file as JSON text.  What was saved is remembered (`Saved`): for each record
the item it belongs to, the path of the file and the length of its line.
-/

namespace Harvest.Output

/-- Why records cannot be saved. -/
inductive Error where
  /-- The file cannot be written. -/
  | store (fault : Store.Fault)
  /-- A record holds a value of this kind, which has no JSON form. -/
  | unwritable (typeName : String)
  /-- A record holds an integer with too many digits. -/
  | longInteger
  /-- A value of this kind is no indent. -/
  | notIndent (typeName : String)
  /-- The indent is too wide. -/
  | wideIndent
  /-- No form of output has this name. -/
  | unknownForm (name : String)

/-- The message of an error. -/
def Error.message : Error → String
  | store fault => fault.message
  | unwritable typeName => "Object of type " ++ typeName ++ " is not JSON serializable"
  | longInteger => Text.Numeral.longIntegerMessage
  | notIndent typeName => "can't multiply sequence by non-int of type '" ++ typeName ++ "'"
  | wideIndent => "cannot fit 'int' into an index-sized integer"
  | unknownForm name => "Unsupported persistence strategy: " ++ name

/-- The error for a record that holds something without a JSON form. -/
def Error.ofMisfit : Json.Misfit → Error
  | .kind typeName => .unwritable typeName
  | .longInteger => .longInteger

/-- What is remembered of a saved record. -/
structure Saved where
  /-- The item that it belongs to. -/
  item : Int
  /-- The path of the file. -/
  path : FilePath
  /-- The number of characters of its line. -/
  size : Nat
  deriving Repr, DecidableEq

/-- The line of a record. -/
def line (record : Value) : Except Error String :=
  match Json.write ⟨none⟩ record with
  | .ok s => .ok s
  | .error r => .error (.ofMisfit r.misfit)

/-- A line of the log of an output. -/
def told (level : Log.Level) (message : String) : Log.Line :=
  ⟨level, "persistence", message⟩

/-- The store with the folder that a file is to be in, and why there is none. -/
def makeParent (s : Store) (path : FilePath) : Store × Except Error Unit :=
  match s.makeFolders path.parent with
  | (s, none) => (s, .ok ())
  | (s, some fault) => (s, .error (.store fault))

end Harvest.Output
