/-!
# Base64

`encode` writes bytes in groups of four letters, padded at the end; `decode` reads such text and
refuses everything else, with one liberty: behind complete groups any number of padding signs is
passed over.  Bits that the padding leaves unused may be anything.
-/

namespace Harvest.Text.Base64

/-- The letter for a number below 64. -/
def letter (n : Nat) : Char :=
  if n < 26 then Char.ofNat (n + 65)
  else if n < 52 then Char.ofNat (n - 26 + 97)
  else if n < 62 then Char.ofNat (n - 52 + 48)
  else if n = 62 then '+'
  else '/'

/-- The number below 64 that a letter stands for. -/
def value? (c : Char) : Option Nat :=
  if 'A' ≤ c ∧ c ≤ 'Z' then some (c.toNat - 65)
  else if 'a' ≤ c ∧ c ≤ 'z' then some (c.toNat - 97 + 26)
  else if '0' ≤ c ∧ c ≤ '9' then some (c.toNat - 48 + 52)
  else if c = '+' then some 62
  else if c = '/' then some 63
  else none

/-- The text of a byte sequence: three bytes for four letters. -/
def encode : List UInt8 → List Char
  | [] => []
  | [a] => [letter (a.toNat / 4), letter (a.toNat % 4 * 16), '=', '=']
  | [a, b] =>
    [letter (a.toNat / 4), letter (a.toNat % 4 * 16 + b.toNat / 16), letter (b.toNat % 16 * 4), '=']
  | a :: b :: c :: rest =>
    letter (a.toNat / 4) :: letter (a.toNat % 4 * 16 + b.toNat / 16) ::
      letter (b.toNat % 16 * 4 + c.toNat / 64) :: letter (c.toNat % 64) :: encode rest

/-- Where a decoder stands inside a group of four letters. -/
structure Group where
  /-- How many letters of the group have been read. -/
  letters : Nat := 0
  /-- The bits that have been read and not yet written. -/
  bits : Nat := 0
  /-- How many padding signs close the group so far. -/
  pads : Nat := 0
  /-- Whether padding has begun. -/
  padded : Bool := false
  deriving Repr, DecidableEq

/-- The byte, if any, that the next letter of a group completes, and the group after it. -/
def Group.push (g : Group) (v : Nat) : Option UInt8 × Group :=
  match g.letters with
  | 0 => (none, { g with letters := 1, bits := v })
  | 1 => (some (UInt8.ofNat (g.bits * 4 + v / 16)), { g with letters := 2, bits := v % 16 })
  | 2 => (some (UInt8.ofNat (g.bits * 16 + v / 4)), { g with letters := 3, bits := v % 4 })
  | _ => (some (UInt8.ofNat (g.bits * 64 + v)), { g with letters := 0, bits := 0 })

/-- The bytes of the rest of a text, from inside a group. -/
def decodeFrom (g : Group) : List Char → Option (List UInt8)
  | [] => if g.letters = 0 then some [] else none
  | c :: cs =>
    if c = '=' then
      if 2 ≤ g.letters ∧ 4 ≤ g.letters + g.pads + 1 then
        if cs.isEmpty then some [] else none
      else
        decodeFrom { g with
          padded := true, pads := if 2 ≤ g.letters then g.pads + 1 else g.pads } cs
    else
      match value? c with
      | none => none
      | some v =>
        if g.padded then none
        else
          match g.push v with
          | (some b, g) => (decodeFrom g cs).map (b :: ·)
          | (none, g) => decodeFrom g cs

/-- The bytes that a base64 text stands for. -/
def decode (cs : List Char) : Option (List UInt8) :=
  if cs.head? = some '=' then none else decodeFrom {} cs

end Harvest.Text.Base64
