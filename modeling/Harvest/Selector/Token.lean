import Harvest.Selector.Basic
import Harvest.Selector.Name
import Harvest.Text.Case

/-!
# The tokens of a selector

`token` finds the token at the head of a text and its size.  Some tokens are a whole pseudo-class with
its arguments (`:nth-child(2n+1)`, `:-soup-contains("x")`); a pseudo-class with other arguments is a
token that ends behind the opening parenthesis.  The order in which the kinds of token are tried
matters, since their beginnings overlap.
-/

namespace Harvest.Selector

/-- How two compounds are joined. -/
inductive Combinator where
  /-- The sign `,`. -/
  | comma
  /-- A blank. -/
  | descendant
  /-- The sign `>`. -/
  | child
  /-- The sign `~`. -/
  | sibling
  /-- The sign `+`. -/
  | adjacent
  deriving Repr, DecidableEq

/-- The sign of a combinator. -/
def Combinator.sign : Combinator → Char
  | comma => ','
  | descendant => ' '
  | child => '>'
  | sibling => '~'
  | adjacent => '+'

/-- The combinator of a sign. -/
def Combinator.ofSign? (c : Char) : Option Combinator :=
  [comma, child, sibling, adjacent].find? fun k => k.sign == c

/-- A token of a selector. -/
inductive Token where
  /-- A closing parenthesis. -/
  | close
  /-- A test of the text. -/
  | text (test : TextTest)
  /-- A test of the place among the siblings. -/
  | nth (counting : Counting)
  /-- The beginning of a test of the place among the siblings that match what follows. -/
  | nthAmong (counting : Counting)
  /-- A pseudo-class with arguments that is known and not matched. -/
  | inert
  /-- A pseudo-class of the user. -/
  | custom (name : String)
  /-- A pseudo-class, with the opening parenthesis that may follow it. -/
  | pseudoClass (name : String) (opens : Bool)
  /-- A pseudo-element. -/
  | pseudoElement
  /-- The sign `&`. -/
  | nesting
  /-- A rule that starts with `@`. -/
  | atRule
  /-- An identifier. -/
  | id (name : String)
  /-- A class. -/
  | cls (name : String)
  /-- The name of an element and the prefix of its namespace, with their escapes. -/
  | tag (space : Option (List Char)) (name : List Char)
  /-- A test of an attribute, which may be negated. -/
  | attr (test : AttributeTest) (negated : Bool)
  /-- A combinator. -/
  | combinator (kind : Combinator)

/-- A token with its size. -/
abbrev Found := Option (Token × Nat)

/-- The size of blanks, comments and a closing parenthesis. -/
def closeSize? (cs : List Char) : Option Nat :=
  let n := spaceSize cs
  if (cs.drop n).head? = some ')' then some (n + 1) else none

/-! ### Pseudo-classes with arguments of their own -/

/-- The name of a pseudo-class, as it is compared. -/
def pseudoName (cs : List Char) : Except NumberError String :=
  (nameText cs).map fun s => Text.lowerAscii (":" ++ s)

/-- The size of blanks, comments and a comma among them. -/
def commaSize? (cs : List Char) : Option Nat :=
  let n := spaceSize cs
  if (cs.drop n).head? = some ',' then some (n + 1 + spaceSize (cs.drop (n + 1))) else none

/-- The size of a comma and the value behind it. -/
def nextValueSize? (cs : List Char) : Option Nat := do
  let n ← commaSize? cs
  let m ← valueSize? Text.isHexDigit (cs.drop n)
  return n + m

/-- The size of a list of values. -/
def valuesSize? (cs : List Char) : Option Nat :=
  (valueSize? Text.isHexDigit cs).map fun n => n + manySize nextValueSize? (cs.drop n)

/-- The values of a list.  Only the small letters count as hexadecimal digits here. -/
def values : List Char → Except NumberError (List String)
  | [] => .ok []
  | c :: cs =>
    match valueSize? isLowerHexDigit (c :: cs) with
    | some (n + 1) =>
      match valueText (c :: cs.take n) with
      | .error e => .error e
      | .ok s => (values (cs.drop n)).map (s :: ·)
    | _ =>
      match commaSize? (c :: cs) with
      | some (n + 1) => values (cs.drop n)
      | _ => values cs
  termination_by cs => cs.length
  decreasing_by
    all_goals simp only [List.length_cons, List.length_drop]
    all_goals omega

/-- The arguments of a test of the text, up to the closing parenthesis. -/
def textToken (own : Bool) (cs : List Char) : Except NumberError Found :=
  match valuesSize? cs with
  | none => .ok none
  | some n =>
    match closeSize? (cs.drop n) with
    | none => .ok none
    | some m => (values (cs.take n)).map fun texts => some (.text ⟨own, texts⟩, n + m)

/-- Whether a character is a decimal digit of ASCII. -/
def isDecimal (c : Char) : Bool :=
  '0' ≤ c && c ≤ '9'

/-- A formula for places, as it is written: `a`, `an` or `an+b` with signs. -/
structure Formula where
  /-- Whether `a` is negative. -/
  negative : Bool
  /-- The digits of `a`. -/
  scale : List Char
  /-- Whether an `n` follows. -/
  repeats : Bool
  /-- Whether `b` is negative. -/
  below : Bool
  /-- The digits of `b`. -/
  offset : List Char

/-- The sign and digits behind the `n` of a formula, with their size. -/
def offset? (cs : List Char) : Option (Bool × List Char × Nat) :=
  let before := spaceSize cs
  match cs.drop before with
  | c :: rest =>
    let digits := (rest.drop (spaceSize rest)).takeWhile isDecimal
    if (c = '+' || c = '-') && !digits.isEmpty then
      some (c == '-', digits, before + 1 + spaceSize rest + digits.length)
    else none
  | [] => none

/-- A formula with its size. -/
def formula? (cs : List Char) : Option (Formula × Nat) :=
  let signed := cs.head? == some '+' || cs.head? == some '-'
  let start := if signed then 1 else 0
  let negative := cs.head? == some '-'
  let digits := (cs.drop start).takeWhile isDecimal
  let behind := cs.drop (start + digits.length)
  let size := start + digits.length
  if behind.head? == some 'n' || behind.head? == some 'N' then
    match offset? (behind.drop 1) with
    | some (below, offset, n) => some (⟨negative, digits, true, below, offset⟩, size + 1 + n)
    | none => some (⟨negative, digits, true, false, []⟩, size + 1)
  else if digits.isEmpty then none
  else some (⟨negative, digits, false, false, []⟩, size)

/-- The integer of some digits; without digits it is the one given. -/
def signedValue (negative : Bool) (digits : List Char) (absent : Int) : Except NumberError Int :=
  if Text.Numeral.maxDigits < digits.length then .error (.tooLong digits.length)
  else
    let n : Int := if digits.isEmpty then absent else Text.digitsValue digits
    .ok (if negative then -n else n)

/-- The places that a formula picks. -/
def Formula.places (f : Formula) : Except NumberError Places := do
  let a ← signedValue f.negative f.scale 1
  let b ← signedValue f.below f.offset 0
  return if f.repeats then .every a b else .only a

/-- Whether a text starts with a word in either case. -/
def startsWithWord (word : String) (cs : List Char) : Bool :=
  Text.lowerAscii (String.ofList (cs.take word.length)) == word

/-- A formula, or one of the two words that stand for one, with its size. -/
def places? (cs : List Char) : Except NumberError (Option (Places × Nat)) :=
  match formula? cs with
  | some (f, n) => f.places.map fun p => some (p, n)
  | none =>
    if startsWithWord "even" cs then .ok (some (.every 2 0, 4))
    else if startsWithWord "odd" cs then .ok (some (.every 2 1, 3))
    else .ok none

/-- The size of a comment or blank that is followed by further ones; a blank must be among them. -/
def gapSize? (cs : List Char) : Option Nat :=
  let comments := manySize commentSize? cs
  (blankSize? (cs.drop comments)).map fun n =>
    comments + n + spaceSize (cs.drop (comments + n))

/-- The size of the word `of` between gaps. -/
def ofSize? (cs : List Char) : Option Nat := do
  let before ← gapSize? cs
  if startsWithWord "of" (cs.drop before) then
    let after ← gapSize? (cs.drop (before + 2))
    return before + 2 + after
  else none

/-- The arguments of a test of the place among siblings. -/
def nthToken (sameName fromEnd : Bool) (cs : List Char) : Except NumberError Found :=
  match places? cs with
  | .error e => .error e
  | .ok none => .ok none
  | .ok (some (places, n)) =>
    let counting : Counting := ⟨places, sameName, fromEnd⟩
    match closeSize? (cs.drop n) with
    | some m => .ok (some (.nth counting, n + m))
    | none =>
      if sameName then .ok none
      else .ok ((ofSize? (cs.drop n)).map fun m => (.nthAmong counting, n + m))

/-- The arguments of a pseudo-class for languages.  They are read, but the language of an element is left
out and nothing is matched. -/
def languageToken (cs : List Char) : Found := do
  let n ← valuesSize? cs
  let m ← closeSize? (cs.drop n)
  return (.inert, n + m)

/-- The arguments of a pseudo-class for the direction of text.  They are read, but the direction of an
element is left out and nothing is matched. -/
def directionToken (cs : List Char) : Found :=
  if startsWithWord "ltr" cs || startsWithWord "rtl" cs then
    (closeSize? (cs.drop 3)).map fun m => (.inert, 3 + m)
  else none

/-- A pseudo-class with arguments of its own. -/
def specialToken (name : String) (cs : List Char) : Except NumberError Found :=
  match name with
  | ":contains" => textToken false cs
  | ":-soup-contains" => textToken false cs
  | ":-soup-contains-own" => textToken true cs
  | ":nth-child" => nthToken false false cs
  | ":nth-last-child" => nthToken false true cs
  | ":nth-of-type" => nthToken true false cs
  | ":nth-last-of-type" => nthToken true true cs
  | ":lang" => .ok (languageToken cs)
  | ":dir" => .ok (directionToken cs)
  | _ => .ok none

/-! ### The kinds of token -/

/-- A pseudo-class or pseudo-element, behind its first colon. -/
def colonToken (cs : List Char) : Except NumberError Found :=
  match nameSize? cs with
  | none =>
    match cs with
    | ':' :: rest => .ok ((nameSize? rest).map fun n => (.pseudoElement, n + 2))
    | _ => .ok none
  | some n =>
    match pseudoName (cs.take n) with
    | .error e => .error e
    | .ok name =>
      let opens := (cs.drop n).head? == some '('
      let start := if opens then n + 1 + spaceSize (cs.drop (n + 1)) else n
      let ordinary : Found :=
        if cs.take 2 = ['-', '-'] then some (.custom name, n + 1)
        else some (.pseudoClass name opens, start + 1)
      if opens then
        match specialToken name (cs.drop start) with
        | .error e => .error e
        | .ok (some (t, size)) => .ok (some (t, start + 1 + size))
        | .ok none => .ok ordinary
      else .ok ordinary

/-- The name of an element or attribute with the prefix that may stand before it, and their size;
`wild` says whether the name may be a star. -/
def qualifiedName? (wild : Bool) (cs : List Char) : Option (Option (List Char) × List Char × Nat) :=
  let part (star : Bool) (cs : List Char) : Option Nat :=
    if star && cs.head? == some '*' then some 1 else nameSize? cs
  let n := (part true cs).getD 0
  let qualified :=
    match cs.drop n with
    | '|' :: rest => (part wild rest).map fun m => (some (cs.take n), rest.take m, n + 1 + m)
    | _ => none
  qualified.or ((part wild cs).map fun m => (none, cs.take m, m))

/-- The comparison of a sign; of the sign for inequality it is the negated one. -/
def comparisonOf? : List Char → Option (Comparison × Bool × Nat)
  | '=' :: _ => some (.equal, false, 1)
  | '!' :: '=' :: _ => some (.equal, true, 2)
  | '~' :: '=' :: _ => some (.word, false, 2)
  | '^' :: '=' :: _ => some (.starts, false, 2)
  | '|' :: '=' :: _ => some (.dashed, false, 2)
  | '*' :: '=' :: _ => some (.part, false, 2)
  | '$' :: '=' :: _ => some (.ends, false, 2)
  | _ => none

/-- The size of blanks, comments and a closing bracket. -/
def bracketSize? (cs : List Char) : Option Nat :=
  let n := spaceSize cs
  if (cs.drop n).head? = some ']' then some (n + 1) else none

/-- The letter that sets the treatment of case behind a value, and the size up to the bracket. -/
def caseFlag? (cs : List Char) : Option (Char × Nat) :=
  let n := spaceSize cs
  match cs.drop n with
  | c :: rest =>
    if Text.alike c 'i' || Text.alike c 's' then
      (bracketSize? rest).map fun m => (c, n + 1 + m)
    else none
  | [] => none

/-- A comparison in an attribute test: what it is, whether it is negated, the value, the letter for
case, and the size up to the bracket. -/
def comparison? (cs : List Char) :
    Option (Comparison × Bool × List Char × Option Char × Nat) := do
  let before := spaceSize cs
  let (comparison, negated, n) ← comparisonOf? (cs.drop before)
  let start := before + n + spaceSize (cs.drop (before + n))
  let size ← valueSize? Text.isHexDigit (cs.drop start)
  let value := (cs.drop start).take size
  let behind := cs.drop (start + size)
  match caseFlag? behind with
  | some (c, m) => return (comparison, negated, value, some c, start + size + m)
  | none =>
    let m ← bracketSize? behind
    return (comparison, negated, value, none, start + size + m)

/-- A test of an attribute, behind its opening bracket. -/
def bracketToken (cs : List Char) : Except NumberError Found :=
  let before := spaceSize cs
  match qualifiedName? false (cs.drop before) with
  | none => .ok none
  | some (space, nameChars, n) =>
    let behind := cs.drop (before + n)
    match comparison? behind, bracketSize? behind with
    | some (comparison, negated, valueChars, flag, m), _ => do
      let _ ← nameText (space.getD [])
      let name ← nameText nameChars
      let value ← valueText valueChars
      let ignoreCase :=
        match flag with
        | some c => c == 'i' || c == 'I'
        | none => Text.lowerAscii name == "type"
      return some (.attr ⟨name, some (comparison, value), ignoreCase⟩ negated, 1 + before + n + m)
    | none, some m => do
      let _ ← nameText (space.getD [])
      let name ← nameText nameChars
      return some (.attr ⟨name, none, false⟩ false, 1 + before + n + m)
    | none, none => .ok none

/-- A combinator: blanks and comments, the sign, and more of them.  A blank is a combinator itself
unless a sign follows it immediately. -/
def combinator? : List Char → Option (Combinator × Nat)
  | [] => none
  | c :: cs =>
    match Combinator.ofSign? c with
    | some k => some (k, 1 + spaceSize cs)
    | none =>
      let skip (n : Nat) : Option (Combinator × Nat) :=
        (combinator? (cs.drop n)).map fun (k, m) => (k, n + 1 + m)
      match blankSize? (c :: cs) with
      | some (n + 1) =>
        if ((cs.drop n).head?.bind Combinator.ofSign?).isSome then skip n
        else some (.descendant, n + 1 + spaceSize (cs.drop n))
      | _ =>
        match commentSize? (c :: cs) with
        | some (n + 1) => skip n
        | _ => none
  termination_by cs => cs.length
  decreasing_by
    all_goals simp only [List.length_cons, List.length_drop]
    all_goals omega

/-- The name of an element, or else a combinator. -/
def tagOrCombinator (cs : List Char) : Found :=
  match qualifiedName? true cs with
  | some (space, name, n) => some (.tag space name, n)
  | none => (combinator? cs).map fun (k, n) => (.combinator k, n)

/-- The token at the head of a text, with its size. -/
def token (cs : List Char) : Except NumberError Found :=
  match closeSize? cs with
  | some n => .ok (some (.close, n))
  | none =>
    match cs with
    | ':' :: rest => colonToken rest
    | '&' :: _ => .ok (some (.nesting, 1))
    | '#' :: rest =>
      match nameSize? rest with
      | none => .ok none
      | some n => (nameText (rest.take n)).map fun s => some (.id s, n + 1)
    | '.' :: rest =>
      match nameSize? rest with
      | none => .ok none
      | some n => (nameText (rest.take n)).map fun s => some (.cls s, n + 1)
    | '[' :: rest => bracketToken rest
    | '@' :: p :: rest =>
      if p = 'p' || p = 'P' then .ok ((nameSize? rest).map fun n => (.atRule, n + 2)) else .ok none
    | _ => .ok (tagOrCombinator cs)

end Harvest.Selector
