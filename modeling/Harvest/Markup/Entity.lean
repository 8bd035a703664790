import Harvest.Markup.EntityName

/-!
# Character references

Markup can spell characters by a name or a number.  The names are those of HTML; the names of
`looseNames` are old enough to be known without a closing semicolon inside attribute values.

Numbers follow two conventions, one for text (`numberedInText`) and one for attribute values
(`numberedInValue`).  Both read the numbers 128 to 159 as Windows does (`windows?`), and both have the
replacement character for zero and for numbers of no character.
-/

namespace Harvest.Markup.Entity

/-! ### Names -/

/-- The characters of a name. -/
def named? (name : String) : Option (List Char) :=
  match (looseNames ++ strictNames).lookup name with
  | some code => some [Char.ofNat code]
  | none => (pairNames.lookup name).map fun (first, second) => [Char.ofNat first, Char.ofNat second]

/-- The character of a name that needs no semicolon. -/
def loose? (name : String) : Option Char :=
  (looseNames.lookup name).map Char.ofNat

/-! ### Numbers -/

/-- What Windows has at the numbers from 128 to 159; zero where it has nothing. -/
def windowsTable : List Nat :=
  [
   0x20AC, 0, 0x201A, 0x192, 0x201E, 0x2026, 0x2020, 0x2021, 0x2C6, 0x2030, 0x160, 0x2039, 0x152,
   0, 0x17D, 0, 0, 0x2018, 0x2019, 0x201C, 0x201D, 0x2022, 0x2013, 0x2014, 0x2DC, 0x2122, 0x161,
   0x203A, 0x153, 0, 0x17E, 0x178]

/-- The character that Windows has at a number. -/
def windows? (n : Nat) : Option Char :=
  if n < 0x80 then none
  else
    match windowsTable[n - 0x80]? with
    | some 0 => none
    | some code => some (Char.ofNat code)
    | none => none

/-- Whether a number is a character's. -/
def isScalar (n : Nat) : Bool :=
  n < 0xD800 || (0xE000 ≤ n && n < 0x110000)

/-- The character of a number in text. -/
def numberedInText (n : Nat) : Char :=
  if n = 0 || !isScalar n then '\uFFFD' else (windows? n).getD (Char.ofNat n)

/-- Whether a number is of a control character or of none that text may hold. -/
def isSuppressed (n : Nat) : Bool :=
  (1 ≤ n && n ≤ 8) || n == 0xB || (0xE ≤ n && n ≤ 0x1F) || n == 0x7F ||
    (0xFDD0 ≤ n && n ≤ 0xFDEF) || 0xFFFE ≤ n % 0x10000

/-- The characters of a number in an attribute value: none for a number that is suppressed. -/
def numberedInValue (n : Nat) : List Char :=
  if n = 0 || !isScalar n then ['\uFFFD']
  else if 0x80 ≤ n && n < 0xA0 then [(windows? n).getD (Char.ofNat n)]
  else if isSuppressed n then []
  else [Char.ofNat n]

end Harvest.Markup.Entity
