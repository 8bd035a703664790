import Harvest.Text.Hex
import Harvest.Text.Utf8

/-!
# Names and quoted texts in selectors

The smallest parts of a selector are blanks, comments, identifiers and quoted texts.  Functions whose
name ends in `Size?` find out how many characters such a part takes at the head of a text, if it is
there.  A backslash escapes a character, or spells one by up to six hexadecimal digits and a blank;
`unescape` replaces the escapes.

The end of a text counts as an end also where one line feed follows (`atEnd`).
-/

namespace Harvest.Selector

/-- Whether a text has ended, save for one line feed. -/
def atEnd : List Char → Bool
  | [] => true
  | ['\n'] => true
  | _ => false

/-- The size of a line break: a carriage return and a line feed are one. -/
def breakSize? : List Char → Option Nat
  | '\r' :: '\n' :: _ => some 2
  | '\n' :: _ => some 1
  | '\r' :: _ => some 1
  | '\x0c' :: _ => some 1
  | _ => none

/-- The size of a blank. -/
def blankSize? : List Char → Option Nat
  | ' ' :: _ => some 1
  | '\t' :: _ => some 1
  | cs => breakSize? cs

/-- How many characters a text has up to the end of a comment, if there is one. -/
def commentEnd? : List Char → Option Nat
  | '*' :: '/' :: _ => some 2
  | _ :: cs => (commentEnd? cs).map (· + 1)
  | [] => none

/-- The size of a comment. -/
def commentSize? : List Char → Option Nat
  | '/' :: '*' :: cs => (commentEnd? cs).map (· + 2)
  | _ => none

/-- The size of a blank or a comment. -/
def spaceSize? (cs : List Char) : Option Nat :=
  (blankSize? cs).or (commentSize? cs)

/-- The size of all that is recognised one after the other. -/
def manySize (size? : List Char → Option Nat) : List Char → Nat
  | [] => 0
  | c :: cs =>
    match size? (c :: cs) with
    | some (n + 1) => n + 1 + manySize size? (cs.drop n)
    | _ => 0
  termination_by cs => cs.length
  decreasing_by simp only [List.length_cons, List.length_drop]; omega

/-- The size of the blanks and comments that a text starts with. -/
def spaceSize (cs : List Char) : Nat :=
  manySize spaceSize? cs

/-! ### Escapes and identifiers -/

/-- Whether a character is a hexadecimal digit in lower case. -/
def isLowerHexDigit (c : Char) : Bool :=
  ('0' ≤ c && c ≤ '9') || ('a' ≤ c && c ≤ 'f')

/-- Whether a character breaks a line. -/
def isBreak (c : Char) : Bool :=
  c == '\n' || c == '\r' || c == '\x0c'

/-- The hexadecimal digits of an escape. -/
def escapeDigits (isHex : Char → Bool) (cs : List Char) : List Char :=
  (cs.take 6).takeWhile isHex

/-- The size of an escape, where `isHex` says what counts as a hexadecimal digit. -/
def escapeSize? (isHex : Char → Bool) : List Char → Option Nat
  | '\\' :: cs =>
    let digits := escapeDigits isHex cs
    if !digits.isEmpty then
      some (1 + digits.length + (blankSize? (cs.drop digits.length)).getD 0)
    else if atEnd cs then some 1
    else if cs.head?.any isBreak then none
    else some 2
  | _ => none

/-- Whether a character can stand inside an identifier. -/
def isNameChar (c : Char) : Bool :=
  ('a' ≤ c && c ≤ 'z') || ('A' ≤ c && c ≤ 'Z') || ('0' ≤ c && c ≤ '9') || c == '_' || c == '-' ||
    0xA0 ≤ c.toNat

/-- Whether an identifier can start with a character. -/
def isNameStart (c : Char) : Bool :=
  isNameChar c && !('0' ≤ c && c ≤ '9') && c != '-'

/-- The size of a character that a class holds, or of an escape. -/
def nameCharSize? (isHex : Char → Bool) (holds : Char → Bool) : List Char → Option Nat
  | [] => none
  | c :: cs => if holds c then some 1 else escapeSize? isHex (c :: cs)

/-- The size of an identifier.  It starts with two hyphens, or with at most one and then no digit. -/
def identifierSize? (isHex : Char → Bool) (cs : List Char) : Option Nat :=
  let start (hyphens : Nat) : Option Nat :=
    (nameCharSize? isHex isNameStart (cs.drop hyphens)).map (hyphens + ·)
  let first :=
    match cs with
    | '-' :: '-' :: _ => some 2
    | '-' :: _ => start 1
    | _ => start 0
  first.map fun n => n + manySize (nameCharSize? isHex isNameChar) (cs.drop n)

/-- The size of an identifier in a selector. -/
def nameSize? (cs : List Char) : Option Nat :=
  identifierSize? Text.isHexDigit cs

/-! ### Quoted texts -/

/-- The size of a quoted text behind its first quote: a backslash takes the next character or line
break with it, and no other line break may stand in it. -/
def quotedRest? (quote : Char) : List Char → Option Nat
  | [] => none
  | '\\' :: '\r' :: '\n' :: cs => (quotedRest? quote cs).map (· + 3)
  | ['\\'] => none
  | '\\' :: _ :: cs => (quotedRest? quote cs).map (· + 2)
  | c :: cs =>
    if c = quote then some 1
    else if isBreak c then none
    else (quotedRest? quote cs).map (· + 1)

/-- The size of a quoted text or an identifier. -/
def valueSize? (isHex : Char → Bool) (cs : List Char) : Option Nat :=
  match cs with
  | c :: rest =>
    if c = '"' || c = '\'' then (quotedRest? c rest).map (· + 1) else identifierSize? isHex cs
  | [] => none

/-! ### Replacing escapes -/

/-- Why a number in a selector is refused. -/
inductive NumberError where
  /-- An escape spells a number that is no character's. -/
  | noChar
  /-- A number has this many digits, which is too many. -/
  | tooLong (digits : Nat)
  deriving Repr, DecidableEq

/-- The message of an error. -/
def NumberError.message : NumberError → String
  | noChar => "chr() arg not in range(0x110000)"
  | tooLong digits => Text.Numeral.tooLongMessage digits

/-- The character that some hexadecimal digits spell. -/
def spelledChar (digits : List Char) : Except NumberError Char :=
  let n := Text.hexValue digits
  if n = 0 then .ok '\uFFFD' else if n < 0x110000 then .ok (Char.ofNat n) else .error .noChar

/-- A text with its escapes replaced.  In a quoted text an escaped line break is dropped. -/
def unescape (quoted : Bool) : List Char → Except NumberError (List Char)
  | [] => .ok []
  | c :: cs =>
    if c ≠ '\\' then (unescape quoted cs).map (c :: ·)
    else
      let digits := escapeDigits Text.isHexDigit cs
      if digits.isEmpty then
        match cs with
        | [] => .ok ['\uFFFD']
        | d :: rest =>
          if !isBreak d then (unescape quoted rest).map (d :: ·)
          else if atEnd (d :: rest) then (unescape quoted (d :: rest)).map ('\uFFFD' :: ·)
          else if quoted then unescape quoted ((d :: rest).drop ((breakSize? (d :: rest)).getD 1))
          else (unescape quoted (d :: rest)).map ('\\' :: ·)
      else
        match spelledChar digits with
        | .error e => .error e
        | .ok ch =>
          let size := digits.length + (blankSize? (cs.drop digits.length)).getD 0
          (unescape quoted (cs.drop size)).map (ch :: ·)
  termination_by cs => cs.length
  decreasing_by
    all_goals simp only [List.length_cons, List.length_drop]
    all_goals omega

/-- The text of an identifier. -/
def nameText (cs : List Char) : Except NumberError String :=
  (unescape false cs).map String.ofList

/-- The text of a quoted text or an identifier. -/
def valueText (cs : List Char) : Except NumberError String :=
  match cs with
  | c :: rest =>
    if c = '"' || c = '\'' then (unescape true rest.dropLast).map String.ofList else nameText cs
  | [] => .ok ""

end Harvest.Selector
