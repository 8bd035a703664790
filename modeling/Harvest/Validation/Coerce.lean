import Harvest.Text.Case
import Harvest.Validation.Report

/-!
# Values that stand for others

Settings come from files written by hand, so a value may be given in more ways than one: binary data
that is UTF-8 is a text (`text`), numbers and words can be truth values (`bool`), and an integer may
be written as a text (`integer`).  Each function accepts what stands for its kind without doubt and
names the problem of everything else.
-/

namespace Harvest.Validation

/-- A text, or binary data that is UTF-8. -/
def text (v : Value) : Except Problem String :=
  match v with
  | .text s => .ok s
  | _ =>
    match v.binary? with
    | none => .error .notText
    | some bs => (Text.Utf8.decode bs).mapError fun _ => .notUtf8

/-- The words for a truth value. -/
def wordBool? (s : String) : Option Bool :=
  let word := Text.lowerAscii s
  if ["1", "on", "t", "true", "y", "yes"].contains word then some true
  else if ["0", "off", "f", "false", "n", "no"].contains word then some false
  else none

/-- The integers for a truth value. -/
def integerBool (n : Int) : Except Problem Bool :=
  if n = 0 then .ok false
  else if n = 1 then .ok true
  else if Text.Numeral.isWord n then .error .unclearBool
  else .error .notBool

/-- A truth value, an integer or integral number for one, or a word for one. -/
def bool : Value → Except Problem Bool
  | .bool b => .ok b
  | .int n => integerBool n
  | .float x =>
    match Decimal.integer? x with
    | some n => if n.natAbs < Text.Numeral.wordBound then integerBool n else .error .notBool
    | none => .error .notBool
  | .text s => (wordBool? s).elim (.error .unclearBool) .ok
  | .bytes bs =>
    match Text.Utf8.decode bs with
    | .ok s => (wordBool? s).elim (.error .unclearBool) .ok
    | .error _ => .error .unclearBool
  | _ => .error .notBool

/-! ### Integers written as text -/

/-- Whether a character is a decimal digit of ASCII. -/
def isAsciiDigit (c : Char) : Bool :=
  '0' ≤ c && c ≤ '9'

/-- The text before a fraction of zeros, or the text itself where there is no such fraction. -/
def withoutZeroFraction (cs : List Char) : List Char :=
  let fraction := cs.reverse.takeWhile (· == '0')
  match fraction, cs.reverse.dropWhile (· == '0') with
  | _ :: _, '.' :: rest => rest.reverse
  | _, _ => cs

/-- The digits of an integer without a sign: single underscores may stand between them. -/
def plainDigits? : List Char → Option (List Char)
  | [] => none
  | [c] => if isAsciiDigit c then some [c] else none
  | c :: '_' :: cs => if isAsciiDigit c then (plainDigits? cs).map (c :: ·) else none
  | c :: cs => if isAsciiDigit c then (plainDigits? cs).map (c :: ·) else none

/-- The digits of a negative integer, behind its sign: none that is needless stands in front. -/
def negativeDigits? (cs : List Char) : Option (List Char) :=
  match cs.filter (· != '_') with
  | ['0'] => some ['0']
  | '0' :: _ => none
  | [] => none
  | ds => if ds.all isAsciiDigit then some ds else none

/-- The integer that a text spells: blanks around it, a sign, single underscores between its digits
and a fraction of zeros are allowed. -/
def spelledInteger (s : String) : Except Problem Int :=
  let cs := ((s.toList.dropWhile Text.Numeral.isMargin).reverse.dropWhile Text.Numeral.isMargin).reverse
  if Text.Numeral.maxDigits < (String.ofList cs).utf8ByteSize then .error .tooLarge
  else
    let digits :=
      match withoutZeroFraction cs with
      | '-' :: cs => (negativeDigits? cs).map fun ds => -(Text.digitsValue ds : Int)
      | '+' :: cs => (plainDigits? cs).map fun ds => (Text.digitsValue ds : Int)
      | cs => (plainDigits? cs).map fun ds => (Text.digitsValue ds : Int)
    digits.elim (.error .unclearInteger) .ok

/-- An integer, a truth value as 0 or 1, an integral number, or a text that spells an integer. -/
def integer : Value → Except Problem Int
  | .int n => .ok n
  | .bool b => .ok (if b then 1 else 0)
  | .float x =>
    if x.isNaN || x.isInf then .error .notFinite
    else
      match Decimal.integer? x with
      | none => .error .fractional
      | some n => if n.natAbs < Text.Numeral.wordBound then .ok n else .error .tooLarge
  | .text s => spelledInteger s
  | .bytes bs =>
    match Text.Utf8.decode bs with
    | .ok s => spelledInteger s
    | .error _ => .error .unclearInteger
  | _ => .error .notInteger

/-- An integer that is not less than a bound. -/
def atLeast (bound : Nat) (v : Value) : Except Problem Int :=
  match integer v with
  | .error p => .error p
  | .ok n => if n < bound then .error (.below bound) else .ok n

/-- A text of a list of choices. -/
def oneOf {α : Type} (choices : List (String × α)) (v : Value) : Except Problem α :=
  let chosen := v.text?.bind fun s => choices.lookup s
  chosen.elim (.error (.notOneOf (choices.map Prod.fst))) .ok

/-- A map, as the source of a model. -/
def entries (model : String) : Value → Checked Entries
  | .map es => .ok es
  | v => .error [⟨[], .notModel model, v⟩]

end Harvest.Validation
