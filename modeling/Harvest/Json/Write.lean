import Harvest.Decimal.Layout
import Harvest.Text.Digit
import Harvest.Text.Hex
import Harvest.Value.Basic

/-!
# Writing JSON text

`write` turns a `Value` into JSON text, on one line or laid out with an indent (`Layout`).  Only
quotes, backslashes and control characters are escaped in strings; tuples are written as lists.

Binary data, rules and integers with more than `Text.Numeral.maxDigits` digits have no JSON form
(`Misfit`).  The text before the first of them may already have been handed on when it is met, so
the error keeps it (`Refusal.written`).
-/

namespace Harvest.Json

/-- How the elements of lists and maps are laid out: on one line, or each on a line of its own
behind one indent for each level. -/
structure Layout where
  /-- The indent of one level. -/
  indent : Option String := none
  deriving Repr, DecidableEq

/-- What has no JSON form. -/
inductive Misfit where
  /-- A value of this kind. -/
  | kind (typeName : String)
  /-- An integer with too many digits. -/
  | longInteger
  deriving Repr, DecidableEq

/-- A value without a JSON form was met. -/
structure Refusal where
  /-- The text of everything before it. -/
  written : String
  /-- What it is. -/
  misfit : Misfit
  deriving Repr, DecidableEq

/-- Text that may break off at a value without a JSON form. -/
abbrev Output := Except Refusal String

/-- Text with more text in front of it. -/
def Output.after (front : String) : Output → Output
  | .ok s => .ok (front ++ s)
  | .error r => .error { r with written := front ++ r.written }

/-- One text behind another. -/
def Output.append : Output → Output → Output
  | .ok s, rest => rest.after s
  | .error r, _ => .error r

/-! ### Scalars -/

/-- The text of an integer. -/
def integer (n : Int) : Output :=
  if Text.Numeral.isLong n then .error ⟨"", .longInteger⟩ else .ok (Text.intText n)

/-- A character as it stands in a string. -/
def escape (c : Char) : String :=
  if c = '"' then "\\\""
  else if c = '\\' then "\\\\"
  else if c = '\n' then "\\n"
  else if c = '\r' then "\\r"
  else if c = '\t' then "\\t"
  else if c = '\x08' then "\\b"
  else if c = '\x0c' then "\\f"
  else if c.toNat < 0x20 then "\\u" ++ Text.hexText 4 c.toNat
  else c.toString

/-- A string between quotes. -/
def string (s : String) : String :=
  "\"" ++ String.join (s.toList.map escape) ++ "\""

/-- The layout of floating-point numbers: shortest digits, and names for those that are not finite.
-/
def floats : Decimal.Layout :=
  { Decimal.plain with nan := "NaN", infinity := "Infinity" }

/-! ### Lists and maps -/

/-- What stands before the first element at a level. -/
def Layout.first (l : Layout) (level : Nat) : String :=
  match l.indent with
  | none => ""
  | some indent => "\n" ++ String.join (List.replicate level indent)

/-- What stands between two elements at a level. -/
def Layout.between (l : Layout) (level : Nat) : String :=
  match l.indent with
  | none => ", "
  | some _ => "," ++ l.first level

/-- What is written before an element of a list.  An integer is handed on together with what stands
in front of it, so of one that has too many digits nothing is written. -/
def lead (front : String) : Value → String
  | .int n => if Text.Numeral.isLong n then "" else front
  | _ => front

mutual
/-- The JSON text of a value at a level. -/
def writeAt (l : Layout) (level : Nat) : Value → Output
  | .null => .ok "null"
  | .bool b => .ok (if b then "true" else "false")
  | .int n => integer n
  | .float x => .ok (floats.float x)
  | .text s => .ok (string s)
  | .list [] => .ok "[]"
  | .list (v :: vs) =>
    Output.after (lead ("[" ++ l.first (level + 1)) v) <|
      (writeAt l (level + 1) v).append (writeElements l level vs)
  | .tuple [] => .ok "[]"
  | .tuple (v :: vs) =>
    Output.after (lead ("[" ++ l.first (level + 1)) v) <|
      (writeAt l (level + 1) v).append (writeElements l level vs)
  | .map [] => .ok "\x7b\x7d"
  | .map ((k, v) :: es) =>
    Output.after ("\x7b" ++ l.first (level + 1) ++ string k ++ ": ") <|
      (writeAt l (level + 1) v).append (writeEntries l level es)
  | v@(.bytes _) => .error ⟨"", .kind v.typeName⟩
  | v@(.buffer _) => .error ⟨"", .kind v.typeName⟩
  | v@(.rule ..) => .error ⟨"", .kind v.typeName⟩

/-- The rest of a list behind its first element. -/
def writeElements (l : Layout) (level : Nat) : List Value → Output
  | [] => .ok (l.first level ++ "]")
  | v :: vs =>
    Output.after (lead (l.between (level + 1)) v) <|
      (writeAt l (level + 1) v).append (writeElements l level vs)

/-- The rest of a map behind its first entry. -/
def writeEntries (l : Layout) (level : Nat) : List (String × Value) → Output
  | [] => .ok (l.first level ++ "\x7d")
  | (k, v) :: es =>
    Output.after (l.between (level + 1) ++ string k ++ ": ") <|
      (writeAt l (level + 1) v).append (writeEntries l level es)
end

/-- The JSON text of a value. -/
def write (l : Layout) (v : Value) : Output :=
  writeAt l 0 v

end Harvest.Json
