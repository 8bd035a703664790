import Harvest.Text.Blank

/-!
# Decimal digits and the integers they spell

Unicode has many sets of ten decimal digits; each is ten consecutive code points, so a table of the
zeros (`zeroes`) describes them all.  `digit?` is the value of a digit.

`Numeral.read` reads an integer the way people type one: blanks around it, a sign, and single
underscores between digits are allowed.  A numeral may have at most `Numeral.maxDigits` digits, and an
integer with more of them is neither read nor written (`Numeral.TooLong`).
-/

namespace Harvest.Text

/-- The zero of each set of decimal digits of Unicode 14. -/
def zeroes : List Nat :=
  [
   0x30, 0x660, 0x6F0, 0x7C0, 0x966, 0x9E6, 0xA66, 0xAE6, 0xB66, 0xBE6, 0xC66, 0xCE6, 0xD66,
   0xDE6, 0xE50, 0xED0, 0xF20, 0x1040, 0x1090, 0x17E0, 0x1810, 0x1946, 0x19D0, 0x1A80, 0x1A90,
   0x1B50, 0x1BB0, 0x1C40, 0x1C50, 0xA620, 0xA8D0, 0xA900, 0xA9D0, 0xA9F0, 0xAA50, 0xABF0, 0xFF10,
   0x104A0, 0x10D30, 0x11066, 0x110F0, 0x11136, 0x111D0, 0x112F0, 0x11450, 0x114D0, 0x11650,
   0x116C0, 0x11730, 0x118E0, 0x11950, 0x11C50, 0x11D50, 0x11DA0, 0x16A60, 0x16AC0, 0x16B50,
   0x1D7CE, 0x1D7D8, 0x1D7E2, 0x1D7EC, 0x1D7F6, 0x1E140, 0x1E2F0, 0x1E950, 0x1FBF0]

/-- The value of a decimal digit of any script. -/
def digit? (c : Char) : Option Nat :=
  if c.toNat < 0x80 then
    if 0x30 ≤ c.toNat && c.toNat ≤ 0x39 then some (c.toNat - 0x30) else none
  else
    (zeroes.find? fun z => z ≤ c.toNat && c.toNat < z + 10).map fun z => c.toNat - z

/-- Whether a character is a decimal digit of any script. -/
def isDigit (c : Char) : Bool :=
  (digit? c).isSome

/-- The number that a list of digit values spells, most significant first. -/
def ofDigits (ds : List Nat) : Nat :=
  ds.foldl (fun n d => 10 * n + d) 0

/-- The number that the digits of a text spell; other characters are passed over. -/
def digitsValue (cs : List Char) : Nat :=
  ofDigits (cs.filterMap digit?)

/-- The decimal digits of a natural number, as text. -/
def natText (n : Nat) : String :=
  String.ofList (Nat.toDigits 10 n)

/-- The text of an integer: an optional minus sign and decimal digits. -/
def intText (n : Int) : String :=
  if n < 0 then "-" ++ natText n.natAbs else natText n.natAbs

namespace Numeral

/-- No numeral has more digits than this, leading zeros included. -/
def maxDigits : Nat := 4300

/-- Two to the power of 63. -/
def wordBound : Nat := 9223372036854775808

/-- Whether an integer fits into 64 bits with a sign. -/
def isWord (n : Int) : Bool :=
  -(wordBound : Int) ≤ n && n < wordBound

/-- Why a text is not an integer. -/
inductive Fault where
  /-- The text is not a numeral. -/
  | malformed
  /-- The numeral has this many digits, more than `maxDigits`. -/
  | tooLong (digits : Nat)
  deriving Repr, DecidableEq

/-- The message for a numeral with too many digits. -/
def tooLongMessage (digits : Nat) : String :=
  "Exceeds the limit (" ++ natText maxDigits ++ " digits) for integer string conversion: value has "
    ++ natText digits ++ " digits; use sys.set_int_max_str_digits() to increase the limit"

/-- The message for an integer that cannot be written because it has too many digits. -/
def longIntegerMessage : String :=
  "Exceeds the limit (" ++ natText maxDigits ++
    " digits) for integer string conversion; use sys.set_int_max_str_digits() to increase the limit"

/-- An integer has too many digits. -/
inductive TooLong where
  /-- It was to be read, and this is how many it has. -/
  | read (digits : Nat)
  /-- It was to be written. -/
  | written
  deriving Repr, DecidableEq

/-- The message for an integer with too many digits. -/
def TooLong.message : TooLong → String
  | read digits => tooLongMessage digits
  | written => longIntegerMessage

/-- The number of decimal digits of an integer. -/
def digitCount (n : Int) : Nat :=
  (Nat.toDigits 10 n.natAbs).length

/-- Whether an integer has too many digits to be written. -/
def isLong (n : Int) : Bool :=
  maxDigits < digitCount n

/-- Blanks that may surround a numeral: all but the information separators. -/
def isMargin (c : Char) : Bool :=
  isBlank c && !(0x1C ≤ c.toNat && c.toNat ≤ 0x1F)

/-- The digit values of `d`, `d_d`, `d_d_d` and so on, without an underscore at either end. -/
def digits? : List Char → Option (List Nat)
  | [] => none
  | c :: cs =>
    match digit? c, cs with
    | none, _ => none
    | some d, [] => some [d]
    | some d, '_' :: cs => (digits? cs).map (d :: ·)
    | some d, cs => (digits? cs).map (d :: ·)

/-- The number of at most `maxDigits` digits that a text spells without a sign. -/
def readNat (cs : List Char) : Except Fault Nat :=
  match digits? cs with
  | none => .error .malformed
  | some ds => if maxDigits < ds.length then .error (.tooLong ds.length) else .ok (ofDigits ds)

/-- The integer that a text spells. -/
def read (s : String) : Except Fault Int :=
  let cs := s.toList.dropWhile isMargin
  match (cs.reverse.dropWhile isMargin).reverse with
  | '-' :: cs => (readNat cs).map fun n => -(n : Int)
  | '+' :: cs => (readNat cs).map Int.ofNat
  | cs => (readNat cs).map Int.ofNat

end Numeral

end Harvest.Text
