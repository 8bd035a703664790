import Harvest.Markup.Entity
import Harvest.Text.Digit
import Harvest.Text.Hex

/-!
# References in attribute values

`expand` replaces the character references of an attribute value.  A reference starts with an
ampersand and needs no closing semicolon.  A name that is not known as a whole is known by its longest
beginning that is a loose name (`longestLoose?`); everything else stays as it is written.

A decimal number may have no more digits than a numeral (`Text.Numeral.maxDigits`).
-/

namespace Harvest.Markup

/-- A number has this many digits, which is too many. -/
structure TooManyDigits where
  /-- The number of digits. -/
  digits : Nat
  deriving Repr, DecidableEq

namespace Reference

/-- The number that decimal digits spell, if there are not too many. -/
def decimalValue (ds : List Char) : Except TooManyDigits Nat :=
  if Text.Numeral.maxDigits < ds.length then .error ⟨ds.length⟩ else .ok (Text.digitsValue ds)

/-- Whether a character is a decimal digit of ASCII. -/
def isDecimal (c : Char) : Bool :=
  '0' ≤ c && c ≤ '9'

/-- Whether a character can be part of a name. -/
def isNameChar (c : Char) : Bool :=
  !(c == '\t' || c == '\n' || c == '\x0c' || c == ' ' || c == '<' || c == '&' || c == '#' ||
    c == ';')

/-- A text without its first `n` characters and the semicolon that may follow them. -/
def behind (n : Nat) (cs : List Char) : List Char :=
  match cs.drop n with
  | ';' :: rest => rest
  | rest => rest

theorem length_behind_le (n : Nat) (cs : List Char) : (behind n cs).length ≤ cs.length := by
  have h : (cs.drop n).length ≤ cs.length := by simp
  unfold behind
  split
  next rest hr =>
    rw [hr, List.length_cons] at h
    omega
  next => exact h

/-- What a text becomes whose longest beginning, of `n` characters or fewer but at least two, that is
a loose name is replaced. -/
def longestLoose? (cs : List Char) : Nat → Option (List Char)
  | 0 => none
  | n + 1 =>
    if n = 0 then none
    else
      match Entity.loose? (String.ofList (cs.take (n + 1))) with
      | some c => some (c :: cs.drop (n + 1))
      | none => longestLoose? cs n

/-- What a name and the semicolon that may follow it become, the ampersand included. -/
def named (name : List Char) (closed : Bool) : List Char :=
  let written := if closed then name ++ [';'] else name
  let known :=
    if closed then Entity.named? (String.ofList name)
    else (Entity.loose? (String.ofList name)).map ([·])
  match known with
  | some cs => cs
  | none => (longestLoose? written (written.length - 1)).getD ('&' :: written)

/-- Some characters with the references that follow an ampersand replaced. -/
def expand : List Char → Except TooManyDigits (List Char)
  | [] => .ok []
  | '&' :: '#' :: cs =>
    let decimals := cs.takeWhile isDecimal
    if decimals.isEmpty then
      match cs with
      | x :: hs =>
        let digits := hs.takeWhile Text.isHexDigit
        if (x = 'x' || x = 'X') && !digits.isEmpty then
          (expand (behind digits.length hs)).map (Entity.numberedInValue (Text.hexValue digits) ++ ·)
        else (expand (x :: hs)).map ('&' :: '#' :: ·)
      | [] => .ok ['&', '#']
    else
      match decimalValue decimals with
      | .error e => .error e
      | .ok n => (expand (behind decimals.length cs)).map (Entity.numberedInValue n ++ ·)
  | '&' :: cs =>
    let name := (cs.take 32).takeWhile isNameChar
    if name.isEmpty then (expand cs).map ('&' :: ·)
    else
      (expand (behind name.length cs)).map
        (named name ((cs.drop name.length).head? == some ';') ++ ·)
  | c :: cs => (expand cs).map (c :: ·)
  termination_by cs => cs.length
  decreasing_by
    all_goals simp only [List.length_cons]
    · exact Nat.lt_of_le_of_lt (length_behind_le ..) (by omega)
    · omega
    · exact Nat.lt_of_le_of_lt (length_behind_le ..) (by omega)
    · omega
    · exact Nat.lt_of_le_of_lt (length_behind_le ..) (by omega)
    · omega

end Reference

end Harvest.Markup
