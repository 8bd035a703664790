import Harvest.Value.Display

/-!
# Reports on rejected values

A value that does not fit what is expected of it is a `Fault`: a `Problem`, the value, and the
`location` of the value inside the whole.  A `Report` lists the faults of one model, and
`Report.message` is its text.  Values are shown in a report in at most about fifty bytes
(`excerpt`).

`Checked` is the outcome of checking a value.  Checks of independent parts are joined with
`Checked.zip`, so that a report names all faults and not the first one alone.
-/

namespace Harvest.Validation

/-- What is wrong with a value. -/
inductive Problem where
  /-- It is not a text. -/
  | notText
  /-- It is binary data that is not UTF-8. -/
  | notUtf8
  /-- It is no truth value. -/
  | notBool
  /-- It is of a kind that can stand for a truth value, but does not. -/
  | unclearBool
  /-- It is no integer. -/
  | notInteger
  /-- It is a text that spells no integer. -/
  | unclearInteger
  /-- It is a number with a fraction. -/
  | fractional
  /-- It is infinite or not a number. -/
  | notFinite
  /-- It is too large for an integer. -/
  | tooLarge
  /-- It is less than a bound. -/
  | below (bound : Nat)
  /-- It is none of the values that may be chosen. -/
  | notOneOf (choices : List String)
  /-- It is no map, which a model is read from. -/
  | notModel (model : String)
  deriving Repr, DecidableEq

/-- Several choices in a sentence. -/
def alternatives (choices : List String) : String :=
  match choices.reverse with
  | [] => ""
  | [c] => c
  | c :: cs => ", ".intercalate cs.reverse ++ " or " ++ c

/-- The wording of a problem. -/
def Problem.message : Problem → String
  | notText => "Input should be a valid string"
  | notUtf8 => "Input should be a valid string, unable to parse raw data as a unicode string"
  | notBool => "Input should be a valid boolean"
  | unclearBool => "Input should be a valid boolean, unable to interpret input"
  | notInteger => "Input should be a valid integer"
  | unclearInteger => "Input should be a valid integer, unable to parse string as an integer"
  | fractional => "Input should be a valid integer, got a number with a fractional part"
  | notFinite => "Input should be a finite number"
  | tooLarge => "Unable to parse input string as an integer, exceeded maximum size"
  | below bound => "Input should be greater than or equal to " ++ Text.natText bound
  | notOneOf choices => "Input should be " ++ alternatives (choices.map Text.Quoted.text)
  | notModel model => "Input should be a valid dictionary or instance of " ++ model

/-- The short name of a problem, under which it is documented. -/
def Problem.code : Problem → String
  | notText => "string_type"
  | notUtf8 => "string_unicode"
  | notBool => "bool_type"
  | unclearBool => "bool_parsing"
  | notInteger => "int_type"
  | unclearInteger => "int_parsing"
  | fractional => "int_from_float"
  | notFinite => "finite_number"
  | tooLarge => "int_parsing_size"
  | below _ => "greater_than_equal"
  | notOneOf _ => "literal_error"
  | notModel _ => "model_type"

/-- A value that was rejected, and why. -/
structure Fault where
  /-- The keys that lead to the value. -/
  location : List String
  /-- What is wrong. -/
  problem : Problem
  /-- The value. -/
  input : Value

/-- The faults of a value that was read as a model. -/
structure Report where
  /-- The name of the model. -/
  model : String
  /-- The faults, in the order in which the model declares its fields. -/
  faults : List Fault

/-! ### The text of a report -/

/-- The longest start of a text of at most so many bytes. -/
def takeBytes (budget : Nat) : List Char → List Char
  | [] => []
  | c :: cs => if c.utf8Size ≤ budget then c :: takeBytes (budget - c.utf8Size) cs else []

/-- A text of at most fifty bytes, or the two ends of a longer one. -/
def excerpt (s : String) : String :=
  if s.utf8ByteSize ≤ 50 then s
  else
    String.ofList (takeBytes 25 s.toList) ++ "..." ++
      String.ofList (takeBytes 24 s.toList.reverse).reverse

/-- A value in a report; of one that cannot be quoted only the kind is told. -/
def display (v : Value) : String :=
  v.quoted?.getD ("<unprintable " ++ v.typeName ++ " object>")

/-- The lines of a fault; a fault of the value as a whole has no line for its location. -/
def Fault.lines (f : Fault) : List String :=
  (if f.location.isEmpty then [] else [".".intercalate f.location]) ++
    ["  " ++ f.problem.message ++ " [type=" ++ f.problem.code ++ ", input_value=" ++
        excerpt (display f.input) ++ ", input_type=" ++ f.input.typeName ++ "]",
      "    For further information visit https://errors.pydantic.dev/2.14/v/" ++ f.problem.code]

/-- The text of a report. -/
def Report.message (r : Report) : String :=
  let count := r.faults.length
  "\n".intercalate <|
    (Text.natText count ++ " validation error" ++ (if count = 1 then "" else "s") ++ " for " ++
      r.model) :: r.faults.flatMap Fault.lines

/-! ### Checks -/

/-- The outcome of a check. -/
abbrev Checked (α : Type) := Except (List Fault) α

namespace Checked

/-- Two checks of independent parts: all faults of both are kept. -/
def zip {α β : Type} : Checked α → Checked β → Checked (α × β)
  | .ok a, .ok b => .ok (a, b)
  | .ok _, .error gs => .error gs
  | .error fs, .ok _ => .error fs
  | .error fs, .error gs => .error (fs ++ gs)

/-- A check of a part, seen from the whole: the part lies under a key. -/
def under {α : Type} (key : String) : Checked α → Checked α
  | .ok a => .ok a
  | .error fs => .error (fs.map fun f => { f with location := key :: f.location })

/-- A check as the reading of a model. -/
def report {α : Type} (model : String) : Checked α → Except Report α
  | .ok a => .ok a
  | .error fs => .error ⟨model, fs⟩

theorem zip_eq_ok_iff {α β : Type} {x : Checked α} {y : Checked β} {a : α} {b : β} :
    x.zip y = .ok (a, b) ↔ x = .ok a ∧ y = .ok b := by
  cases x <;> cases y <;> simp [zip]

end Checked

/-- The check of one value by a rule that knows nothing of its place. -/
def check {α : Type} (rule : Value → Except Problem α) (v : Value) : Checked α :=
  match rule v with
  | .ok a => .ok a
  | .error p => .error [⟨[], p, v⟩]

/-- A field of a model: the names it may go by, the preferred one first, and what is used in its
absence. -/
structure FieldSpec (α : Type) where
  /-- The names of the field. -/
  names : List String
  /-- The check of its value. -/
  rule : Value → Checked α
  /-- What an absent field holds. -/
  absent : α

/-- The first of some keys that a map has, with its value. -/
def firstOf (entries : Entries) (names : List String) : Option (String × Value) :=
  names.findSome? fun name => (entries.get? name).map fun v => (name, v)

/-- The check of a field of a map. -/
def FieldSpec.read {α : Type} (f : FieldSpec α) (entries : Entries) : Checked α :=
  match firstOf entries f.names with
  | some (key, v) => (f.rule v).under key
  | none => .ok f.absent

end Harvest.Validation
