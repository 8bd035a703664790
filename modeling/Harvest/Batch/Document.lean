import Harvest.Path
import Harvest.Settings
import Harvest.Text.Base64

/-!
# Documents of a record

An input record holds markup: the record is the markup itself, or the markup lies at a path inside
it.  `load` finds the documents of a record, which is one text, a list of texts, or, with binary
sources, one document that is bytes or base64 text (`decodeBinary`).
-/

namespace Harvest.Batch

/-- The text of binary markup.  Text that is base64 of UTF-8 bytes is decoded, other text is kept;
bytes are decoded as UTF-8 as far as they are. -/
def decodeBinary : Value → Option String
  | .text s =>
    match (Text.Base64.decode s.toList).map Text.Utf8.decode with
    | some (.ok decoded) => some decoded
    | _ => some s
  | v => v.binary?.map Text.Utf8.decodeLossy

/-- The message for a value that can be no binary markup. -/
def notBinaryMessage (v : Value) : String :=
  "argument should be a bytes-like object or ASCII string, not '" ++ v.typeName ++ "'"

/-- Why a record has no documents. -/
inductive LoadError where
  /-- Nothing lies at the path in the record of this index. -/
  | missing (property : String) (index : Nat)
  /-- The path has an index of this many digits, which is too many. -/
  | path (digits : Nat)
  /-- What lies at the path is no binary data. -/
  | notBinary (property : String)
  /-- What lies at the path is, or holds, something of this kind that is no text. -/
  | notText (property : String) (typeName : String)
  deriving Repr, DecidableEq

/-- The message of an error. -/
def LoadError.message : LoadError → String
  | missing property _ => "No property named \"" ++ property ++ "\" exists!"
  | path digits => Text.Numeral.tooLongMessage digits
  | notBinary property => "Property \"" ++ property ++ "\" does not hold binary data"
  | notText property typeName =>
    "Property \"" ++ property ++ "\" must be a string or an array of strings, got " ++ typeName

/-- Whether a record is the markup itself. -/
def isMarkup (record : Value) : Bool :=
  record.text?.isSome || record.binary?.isSome

/-- The value of a record that should hold the markup. -/
def markup (d : Defaults) (index : Nat) (record : Value) : Except LoadError Value :=
  if isMarkup record then .ok record
  else
    match Path.lookup record d.property with
    | .error e => .error (.path e.digits)
    | .ok none => .error (.missing d.property index)
    | .ok (some v) => .ok v

/-- The texts of a list of values, if all are texts. -/
def texts (property : String) : List Value → Except LoadError (List String)
  | [] => .ok []
  | .text s :: vs => (texts property vs).map (s :: ·)
  | v :: _ => .error (.notText property v.typeName)

/-- The documents that a value holds. -/
def documents (d : Defaults) (v : Value) : Except LoadError (List String) :=
  match d.sourceType with
  | .binary =>
    match decodeBinary v with
    | some s => .ok [s]
    | none => .error (.notBinary d.property)
  | .json =>
    match v.binary? with
    | some bs => .ok [Text.Utf8.decodeLossy bs]
    | none => texts d.property v.toList

/-- The documents of the record of an index. -/
def load (d : Defaults) (index : Nat) (record : Value) : Except LoadError (List String) :=
  (markup d index record).bind (documents d)

end Harvest.Batch
