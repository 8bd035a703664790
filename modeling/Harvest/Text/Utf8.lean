import Harvest.Text.Digit
import Harvest.Text.Hex

/-!
# UTF-8

`encode` and `decode` between characters and bytes.  Bytes that are not UTF-8 are cut the way the
Unicode standard recommends: `pieces` divides any byte sequence into characters and maximal
ill-formed parts, `decode` fails at the first ill-formed part, and `decodeLossy` puts one
replacement character in place of each.
-/

namespace Harvest.Text.Utf8

/-- The bytes of a text. -/
def encode (s : String) : List UInt8 :=
  s.toList.flatMap String.utf8EncodeChar

/-- Why a part of a byte sequence is ill-formed. -/
inductive Fault where
  /-- No character starts with this byte. -/
  | start
  /-- A byte that should continue the character does not. -/
  | continuation
  /-- The bytes end inside a character. -/
  | truncated
  deriving Repr, DecidableEq

/-- A part of a byte sequence: a character or a maximal ill-formed part, with its length. -/
inductive Piece where
  /-- A well-formed character. -/
  | char (c : Char) (length : Nat)
  /-- Bytes that belong to no character. -/
  | bad (first : UInt8) (length : Nat) (fault : Fault)
  deriving Repr, DecidableEq

/-- The number of bytes of a piece. -/
def Piece.length : Piece → Nat
  | .char _ n => n
  | .bad _ n _ => n

/-- For the first byte of a character of several bytes: how many bytes follow, the bounds of the
next one, and the bits that the first byte gives. -/
def lead (b : Nat) : Option (Nat × Nat × Nat × Nat) :=
  if 0xC2 ≤ b ∧ b ≤ 0xDF then some (1, 0x80, 0xBF, b - 0xC0)
  else if b = 0xE0 then some (2, 0xA0, 0xBF, 0)
  else if b = 0xED then some (2, 0x80, 0x9F, 0xD)
  else if 0xE1 ≤ b ∧ b ≤ 0xEF then some (2, 0x80, 0xBF, b - 0xE0)
  else if b = 0xF0 then some (3, 0x90, 0xBF, 0)
  else if 0xF1 ≤ b ∧ b ≤ 0xF3 then some (3, 0x80, 0xBF, b - 0xF0)
  else if b = 0xF4 then some (3, 0x80, 0x8F, 4)
  else none

/-- The rest of a character: `need` more bytes are owed, the next within `lo` and `hi`, and `taken`
bytes gave the bits `code`. -/
def follow (first : UInt8) : (need lo hi code taken : Nat) → List UInt8 → Piece
  | 0, _, _, code, taken, _ => .char (Char.ofNat code) taken
  | _ + 1, _, _, _, taken, [] => .bad first taken .truncated
  | need + 1, lo, hi, code, taken, b :: bs =>
    if lo ≤ b.toNat ∧ b.toNat ≤ hi then
      follow first need 0x80 0xBF (64 * code + (b.toNat - 0x80)) (taken + 1) bs
    else .bad first taken .continuation

/-- The piece at the head of a byte sequence. -/
def head (b : UInt8) (bs : List UInt8) : Piece :=
  if b.toNat < 0x80 then .char (Char.ofNat b.toNat) 1
  else
    match lead b.toNat with
    | some (need, lo, hi, code) => follow b need lo hi code 1 bs
    | none => .bad b 1 .start

/-- The pieces of a byte sequence, in order. -/
def pieces : List UInt8 → List Piece
  | [] => []
  | b :: bs => head b bs :: pieces (bs.drop ((head b bs).length - 1))
  termination_by bs => bs.length

/-- The text of a byte sequence, with a replacement character for each ill-formed part. -/
def decodeLossy (bs : List UInt8) : String :=
  String.ofList ((pieces bs).map fun
    | .char c _ => c
    | .bad .. => '\uFFFD')

/-- The first ill-formed part of a byte sequence. -/
structure DecodeError where
  /-- How many bytes stand before it. -/
  position : Nat
  /-- Its first byte. -/
  first : UInt8
  /-- How many bytes it has. -/
  length : Nat
  /-- What is wrong with it. -/
  fault : Fault
  deriving Repr, DecidableEq

/-- The characters of a list of pieces that starts at a position, when all are well-formed. -/
def joinPieces (position : Nat) : List Piece → Except DecodeError (List Char)
  | [] => .ok []
  | .char c n :: ps => (joinPieces (position + n) ps).map (c :: ·)
  | .bad first n fault :: _ => .error ⟨position, first, n, fault⟩

/-- The text of a byte sequence, if it is UTF-8. -/
def decode (bs : List UInt8) : Except DecodeError String :=
  (joinPieces 0 (pieces bs)).map String.ofList

/-- The wording of a fault. -/
def Fault.message : Fault → String
  | .start => "invalid start byte"
  | .continuation => "invalid continuation byte"
  | .truncated => "unexpected end of data"

/-- The message of a decoding error. -/
def DecodeError.message (e : DecodeError) : String :=
  let place :=
    if e.length = 1 then
      "byte 0x" ++ hexText 2 e.first.toNat ++ " in position " ++ natText e.position
    else "bytes in position " ++ natText e.position ++ "-" ++ natText (e.position + e.length - 1)
  "'utf-8' codec can't decode " ++ place ++ ": " ++ e.fault.message

end Harvest.Text.Utf8
