import Harvest.Json.Token

/-!
# Reading JSON text

`read` turns a JSON text into a `Value`.  It runs a machine over the tokens: the machine keeps the
lists and maps that are open (`Frame`) and what may come next (`Phase`), and each token is one
`step`.  A key that occurs twice keeps its first place and its last value.

A text that is no JSON is refused at its first fault (`ReadError.fault`), an integer with too many
digits with `ReadError.tooLong`.
-/

namespace Harvest.Json

/-- A list or map that is still open. -/
inductive Frame where
  /-- A list, with the elements so far in reverse. -/
  | list (elements : List Value)
  /-- A map, with the entries so far and the key whose value comes next. -/
  | map (entries : Entries) (key : String)

/-- What may come next. -/
inductive Phase where
  /-- A value. -/
  | value
  /-- The first element of a list, or its end. -/
  | element
  /-- A comma behind an element, or the end of the list. -/
  | listNext
  /-- The first key of a map, or its end. -/
  | firstKey
  /-- A key. -/
  | key
  /-- A colon. -/
  | colon
  /-- A comma behind the value of a key, or the end of the map. -/
  | mapNext
  /-- Nothing: the text is this value. -/
  | done (v : Value)

/-- Why a text cannot be read. -/
inductive ReadError where
  /-- A fault, with the characters that are left there. -/
  | fault (fault : Fault) (left : Nat)
  /-- An integer has this many digits, which is too many. -/
  | tooLong (digits : Nat)
  deriving Repr, DecidableEq

/-- The machine after a complete value. -/
def complete (v : Value) : List Frame → Phase × List Frame
  | [] => (.done v, [])
  | .list vs :: frames => (.listNext, .list (v :: vs) :: frames)
  | .map es key :: frames => (.mapNext, .map (es.put key v) key :: frames)

/-- The machine after the end of a list or map. -/
def close : List Frame → Phase × List Frame
  | [] => (.done .null, [])
  | .list vs :: frames => complete (.list vs.reverse) frames
  | .map es _ :: frames => complete (.map es) frames

/-- The machine after a key. -/
def setKey (key : String) : List Frame → Phase × List Frame
  | .map es _ :: frames => (.colon, .map es key :: frames)
  | frames => (.colon, frames)

/-- The machine after a token where a value may stand. -/
def stepValue (limit : Option Nat) (frames : List Frame) (t : Located) :
    Except ReadError (Phase × List Frame) :=
  match t.token with
  | .listOpen => .ok (.element, .list [] :: frames)
  | .mapOpen => .ok (.firstKey, .map [] "" :: frames)
  | .string s => .ok (complete (.text s) frames)
  | .int n digits =>
    if limit.all (digits ≤ ·) then .ok (complete (.int n) frames) else .error (.tooLong digits)
  | .float x => .ok (complete (.float x) frames)
  | .name v => .ok (complete v frames)
  | .broken fault left => .error (.fault fault left)
  | _ => .error (.fault .value t.left)

/-- The machine after one token. -/
def step (limit : Option Nat) (phase : Phase) (frames : List Frame) (t : Located) :
    Except ReadError (Phase × List Frame) :=
  match phase, t.token with
  | .value, _ => stepValue limit frames t
  | .element, .listClose => .ok (close frames)
  | .element, _ => stepValue limit frames t
  | .listNext, .comma => .ok (.value, frames)
  | .listNext, .listClose => .ok (close frames)
  | .listNext, _ => .error (.fault .comma t.left)
  | .firstKey, .mapClose => .ok (close frames)
  | .firstKey, .string s => .ok (setKey s frames)
  | .firstKey, .broken fault left => .error (.fault fault left)
  | .firstKey, _ => .error (.fault .key t.left)
  | .key, .string s => .ok (setKey s frames)
  | .key, .broken fault left => .error (.fault fault left)
  | .key, _ => .error (.fault .key t.left)
  | .colon, .colon => .ok (.value, frames)
  | .colon, _ => .error (.fault .colon t.left)
  | .mapNext, .comma => .ok (.key, frames)
  | .mapNext, .mapClose => .ok (close frames)
  | .mapNext, _ => .error (.fault .comma t.left)
  | .done _, _ => .error (.fault .extra t.left)

/-- The value of a text that ends here. -/
def finish : Phase → Except ReadError Value
  | .value => .error (.fault .value 0)
  | .element => .error (.fault .value 0)
  | .listNext => .error (.fault .comma 0)
  | .firstKey => .error (.fault .key 0)
  | .key => .error (.fault .key 0)
  | .colon => .error (.fault .colon 0)
  | .mapNext => .error (.fault .comma 0)
  | .done v => .ok v

/-- The value that the machine reads from a list of tokens. -/
def run (limit : Option Nat) : Phase → List Frame → List Located → Except ReadError Value
  | phase, _, [] => finish phase
  | phase, frames, t :: ts =>
    match step limit phase frames t with
    | .error e => .error e
    | .ok (phase, frames) => run limit phase frames ts

/-- The value of a JSON text whose integers have no more digits than a limit allows. -/
def readChars (limit : Option Nat) (cs : List Char) : Except ReadError Value :=
  if cs.head? = some '\uFEFF' then .error (.fault .byteOrderMark cs.length)
  else run limit .value [] (tokens cs)

/-! ### Errors with their place -/

/-- The wording of a fault. -/
def Fault.message : Fault → String
  | .value => "Expecting value"
  | .key => "Expecting property name enclosed in double quotes"
  | .colon => "Expecting ':' delimiter"
  | .comma => "Expecting ',' delimiter"
  | .openString => "Unterminated string starting at"
  | .control => "Invalid control character at"
  | .escape => "Invalid \\escape"
  | .hexEscape => "Invalid \\uXXXX escape"
  | .extra => "Extra data"
  | .byteOrderMark => "Unexpected UTF-8 BOM (decode using utf-8-sig)"

/-- Why a text is no JSON text. -/
inductive Error where
  /-- A fault and the number of characters before it. -/
  | malformed (fault : Fault) (text : List Char) (position : Nat)
  /-- An integer has this many digits, which is too many. -/
  | tooLong (digits : Nat)
  deriving Repr, DecidableEq

/-- The line of a position, from one. -/
def lineAt (text : List Char) (position : Nat) : Nat :=
  (text.take position).count '\n' + 1

/-- The column of a position, from one. -/
def columnAt (text : List Char) (position : Nat) : Nat :=
  ((text.take position).reverse.takeWhile (· != '\n')).length + 1

/-- The message of an error. -/
def Error.message : Error → String
  | .malformed fault text position =>
    fault.message ++ ": line " ++ Text.natText (lineAt text position) ++ " column " ++
      Text.natText (columnAt text position) ++ " (char " ++ Text.natText position ++ ")"
  | .tooLong digits => Text.Numeral.tooLongMessage digits

/-- The value of a JSON text. -/
def read (s : String) : Except Error Value :=
  let cs := s.toList
  match readChars (some Text.Numeral.maxDigits) cs with
  | .ok v => .ok v
  | .error (.fault fault left) => .error (.malformed fault cs (cs.length - left))
  | .error (.tooLong digits) => .error (.tooLong digits)

end Harvest.Json
