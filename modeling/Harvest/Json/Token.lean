import Harvest.Decimal.Shortest
import Harvest.Text.Digit
import Harvest.Text.Hex
import Harvest.Value.Basic

/-!
# The tokens of JSON text

`tokens` cuts a text into brackets, separators, strings, numbers and names, each with the number of
characters from its start to the end of the text.  Nothing is refused here: what is no token is
`Token.other`, and a string that is broken carries its fault, so that a reader can tell which of two
faults comes first.

Besides the numbers of the standard the names `NaN`, `Infinity` and `-Infinity` are known.
-/

namespace Harvest.Json

/-- What is wrong with a JSON text. -/
inductive Fault where
  /-- A value is missing. -/
  | value
  /-- A key is missing. -/
  | key
  /-- A colon is missing. -/
  | colon
  /-- A comma is missing. -/
  | comma
  /-- A string has no end. -/
  | openString
  /-- A string holds a control character. -/
  | control
  /-- A backslash is followed by a character that cannot be escaped. -/
  | escape
  /-- Four hexadecimal digits are missing. -/
  | hexEscape
  /-- Something follows the value. -/
  | extra
  /-- The text starts with a byte order mark. -/
  | byteOrderMark
  deriving Repr, DecidableEq

/-- A token. -/
inductive Token where
  /-- The sign `[`. -/
  | listOpen
  /-- The sign `]`. -/
  | listClose
  /-- The sign that opens a map. -/
  | mapOpen
  /-- The sign that closes a map. -/
  | mapClose
  /-- The sign `:`. -/
  | colon
  /-- The sign `,`. -/
  | comma
  /-- A string. -/
  | string (s : String)
  /-- A string that is broken, with the characters that are left where it breaks. -/
  | broken (fault : Fault) (left : Nat)
  /-- An integer and the number of its digits. -/
  | int (n : Int) (digits : Nat)
  /-- A floating-point number. -/
  | float (x : Float)
  /-- A name for a value. -/
  | name (v : Value)
  /-- A character that starts no token. -/
  | other

/-- A token and the number of characters from its start to the end of the text. -/
structure Located where
  /-- The token. -/
  token : Token
  /-- How many characters are left where it starts. -/
  left : Nat

/-- The white space between tokens. -/
def isSpace (c : Char) : Bool :=
  c == ' ' || c == '\t' || c == '\n' || c == '\r'

/-! ### Strings -/

/-- The number that four hexadecimal digits spell. -/
def hex4? (a b c d : Char) : Option Nat :=
  if [a, b, c, d].all Text.isHexDigit then some (Text.hexValue [a, b, c, d]) else none

/-- The character of a code unit.  Half of a surrogate pair is no character: the replacement character
stands for it, so that a text which is not `Paired` is not held as it is. -/
def unitChar (n : Nat) : Char :=
  if 0xD800 ≤ n ∧ n ≤ 0xDFFF then '\uFFFD' else Char.ofNat n

/-- The character that a letter stands for behind a backslash. -/
def escaped? : Char → Option Char
  | '"' => some '"'
  | '\\' => some '\\'
  | '/' => some '/'
  | 'b' => some '\x08'
  | 'f' => some '\x0c'
  | 'n' => some '\n'
  | 'r' => some '\r'
  | 't' => some '\t'
  | _ => none

/-- A string that is broken and where. -/
structure Broken where
  /-- What is wrong. -/
  fault : Fault
  /-- The characters that are left at the fault; at the opening quote when the string has no end. -/
  left : Option Nat

/-- The characters of a string up to its closing quote, and what follows the quote. -/
def stringBody : List Char → Except Broken (List Char × List Char)
  | [] => .error ⟨.openString, none⟩
  | '"' :: cs => .ok ([], cs)
  | '\\' :: 'u' :: a :: b :: c :: d :: e :: cs =>
    match hex4? a b c d with
    | none => .error ⟨.hexEscape, some (cs.length + 6)⟩
    | some high =>
      match e, cs with
      | '\\', 'u' :: a' :: b' :: c' :: d' :: e' :: cs =>
        if 0xD800 ≤ high ∧ high ≤ 0xDBFF then
          match hex4? a' b' c' d' with
          | none => .error ⟨.hexEscape, some (cs.length + 6)⟩
          | some low =>
            if 0xDC00 ≤ low ∧ low ≤ 0xDFFF then
              let c := Char.ofNat (0x10000 + (high - 0xD800) * 0x400 + (low - 0xDC00))
              (stringBody (e' :: cs)).map fun (s, rest) => (c :: s, rest)
            else
              (stringBody ('\\' :: 'u' :: a' :: b' :: c' :: d' :: e' :: cs)).map fun (s, rest) =>
                (unitChar high :: s, rest)
        else
          (stringBody ('\\' :: 'u' :: a' :: b' :: c' :: d' :: e' :: cs)).map fun (s, rest) =>
            (unitChar high :: s, rest)
      | e, cs => (stringBody (e :: cs)).map fun (s, rest) => (unitChar high :: s, rest)
  | '\\' :: 'u' :: cs => .error ⟨.hexEscape, some (cs.length + 1)⟩
  | ['\\'] => .error ⟨.openString, none⟩
  | '\\' :: c :: cs =>
    match escaped? c with
    | none => .error ⟨.escape, some (cs.length + 2)⟩
    | some e => (stringBody cs).map fun (s, rest) => (e :: s, rest)
  | c :: cs =>
    if c.toNat < 0x20 then .error ⟨.control, some (cs.length + 1)⟩
    else (stringBody cs).map fun (s, rest) => (c :: s, rest)
  termination_by cs => cs.length

/-- Whether the escapes of a text spell both halves of a surrogate pair or none.  The flag tells that
the first half was spelled just before. -/
def pairsUp (half : Bool) : List Char → Bool
  | '\\' :: 'u' :: a :: b :: c :: d :: cs =>
    match hex4? a b c d with
    | none => !half && pairsUp false cs
    | some n =>
      if 0xDC00 ≤ n ∧ n ≤ 0xDFFF then half && pairsUp false cs
      else !half && pairsUp (0xD800 ≤ n && n ≤ 0xDBFF) cs
  | '\\' :: _ :: cs => !half && pairsUp false cs
  | _ :: cs => !half && pairsUp false cs
  | [] => !half

/-- A text in which no escape spells half of a surrogate pair by itself. -/
def Paired (text : String) : Prop :=
  pairsUp false text.toList = true

instance (text : String) : Decidable (Paired text) :=
  inferInstanceAs (Decidable (_ = true))

example : Paired "\"\\\\ud800 \\ud83d\\ude00\"" ∧ ¬ Paired "\"\\ude00\"" := by decide

/-! ### Numbers -/

/-- A number as it is written. -/
structure Numeral where
  /-- Whether a minus sign stands before it. -/
  negative : Bool
  /-- The digits before the point. -/
  whole : List Char
  /-- The digits behind the point, if there is one. -/
  fraction : Option (List Char)
  /-- The exponent, if there is one. -/
  exponent : Option Int

/-- The digits at the head of a text and what follows them. -/
def spanDigits (cs : List Char) : List Char × List Char :=
  (cs.takeWhile Char.isDigit, cs.dropWhile Char.isDigit)

/-- The fraction at the head of a text: a point and at least one digit. -/
def fraction? : List Char → Option (List Char × List Char)
  | '.' :: cs =>
    match spanDigits cs with
    | ([], _) => none
    | (ds, rest) => some (ds, rest)
  | _ => none

/-- The digits of an exponent behind its sign. -/
def exponentDigits? (sign : Int) (cs : List Char) : Option (Int × List Char) :=
  match spanDigits cs with
  | ([], _) => none
  | (ds, rest) => some (sign * Text.digitsValue ds, rest)

/-- The exponent at the head of a text. -/
def exponent? : List Char → Option (Int × List Char)
  | [] => none
  | e :: cs =>
    if e = 'e' ∨ e = 'E' then
      match cs with
      | '+' :: cs => exponentDigits? 1 cs
      | '-' :: cs => exponentDigits? (-1) cs
      | cs => exponentDigits? 1 cs
    else none

/-- The whole part of a number: a zero, or digits that do not start with one. -/
def whole? : List Char → Option (List Char × List Char)
  | '0' :: cs => some (['0'], cs)
  | c :: cs => if c.isDigit then some (spanDigits (c :: cs)) else none
  | [] => none

/-- The number at the head of a text, and what follows it. -/
def numeral? (cs : List Char) : Option (Numeral × List Char) :=
  let (negative, cs) :=
    match cs with
    | '-' :: cs => (true, cs)
    | cs => (false, cs)
  (whole? cs).map fun (whole, cs) =>
    let (fraction, cs) :=
      match fraction? cs with
      | some (ds, cs) => (some ds, cs)
      | none => (none, cs)
    let (exponent, cs) :=
      match exponent? cs with
      | some (n, cs) => (some n, cs)
      | none => (none, cs)
    (⟨negative, whole, fraction, exponent⟩, cs)

/-- The token of a number: an integer unless it has a fraction or an exponent. -/
def Numeral.token (n : Numeral) : Token :=
  match n.fraction, n.exponent with
  | none, none =>
    let value : Int := Text.digitsValue n.whole
    .int (if n.negative then -value else value) n.whole.length
  | fraction, exponent =>
    let ds := fraction.getD []
    let x := Decimal.toFloat ⟨Text.digitsValue (n.whole ++ ds), exponent.getD 0 - ds.length⟩
    .float (if n.negative then -x else x)

/-! ### Tokens -/

/-- The names of values. -/
def names : List (List Char × Value) :=
  [("null".toList, .null), ("true".toList, .bool true), ("false".toList, .bool false),
    ("NaN".toList, .float (0.0 / 0.0)), ("Infinity".toList, .float (1.0 / 0.0)),
    ("-Infinity".toList, .float (-1.0 / 0.0))]

/-- The token that a character starts, and what follows it. -/
def token (c : Char) (cs : List Char) : Token × List Char :=
  match c with
  | '[' => (.listOpen, cs)
  | ']' => (.listClose, cs)
  | '\x7b' => (.mapOpen, cs)
  | '\x7d' => (.mapClose, cs)
  | ':' => (.colon, cs)
  | ',' => (.comma, cs)
  | '"' =>
    match stringBody cs with
    | .ok (s, rest) => (.string (String.ofList s), rest)
    | .error b => (.broken b.fault (b.left.getD (cs.length + 1)), cs)
  | c =>
    match names.find? fun n => n.1.isPrefixOf (c :: cs) with
    | some (name, v) => (.name v, cs.drop (name.length - 1))
    | none =>
      match numeral? (c :: cs) with
      | some (n, rest) => (n.token, rest)
      | none => (.other, cs)

/-- The tokens of a text, in order. -/
def tokens : List Char → List Located
  | [] => []
  | c :: cs =>
    if isSpace c then tokens cs
    else
      let (t, rest) := token c cs
      if rest.length ≤ cs.length then ⟨t, cs.length + 1⟩ :: tokens rest
      else [⟨t, cs.length + 1⟩]
  termination_by cs => cs.length

end Harvest.Json
