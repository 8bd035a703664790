import Harvest.Markup.Reference
import Harvest.Text.Case

/-!
# Tags

`startTag` reads a start tag behind its `<`.  Its name ends at white space, a slash or `>`; attributes
follow, separated by blanks and slashes.  An attribute starts behind a blank, a slash or a quote
(`mayPrecede`), and its value is quoted or bare (`value?`).  Where a quote is not closed the value is
taken without it, if it can be, and else there is no value.

A tag that the text ends in is incomplete; one that is followed by something else than `>` or `/>` is
no tag (`StartTag.broken`).  All sizes count characters.
-/

namespace Harvest.Markup

open Text (isBlank)

/-- Whether a character is a letter of ASCII. -/
def isLetter (c : Char) : Bool :=
  ('a' ≤ c && c ≤ 'z') || ('A' ≤ c && c ≤ 'Z')

namespace Tag

/-- Whether a character can stand in the name of a tag. -/
def isNameChar (c : Char) : Bool :=
  !(c == '\t' || c == '\n' || c == '\r' || c == '\x0c' || c == ' ' || c == '/' || c == '>' ||
    c == '\x00')

/-- A name as it is kept: in lower case. -/
def name (cs : List Char) : String :=
  String.ofList (Text.lower cs)

/-! ### Attributes -/

/-- Whether an attribute may start behind a character. -/
def mayPrecede (c : Char) : Bool :=
  isBlank c || c == '/' || c == '\'' || c == '"'

/-- How many blanks and slashes a text starts with; a slash right before `>` is not counted. -/
def separators : List Char → Nat
  | [] => 0
  | c :: cs =>
    if isBlank c || (c == '/' && cs.head? != some '>') then separators cs + 1 else 0

/-- Whether a character can stand in a value without quotes. -/
def isBareChar (c : Char) : Bool :=
  !(isBlank c || c == '>')

/-- The value of an attribute. -/
structure Written where
  /-- The value, without quotes. -/
  value : List Char
  /-- How many characters it takes, the equals sign and quotes included. -/
  size : Nat

/-- The value behind the name of an attribute. -/
def value? (cs : List Char) : Option Written :=
  let before := (cs.takeWhile isBlank).length
  let equals := ((cs.drop before).takeWhile (· == '=')).length
  let after := ((cs.drop (before + equals)).takeWhile isBlank).length
  let start := before + equals + after
  if equals = 0 then none
  else
    match cs.drop start with
    | [] => some ⟨[], start⟩
    | c :: rest =>
      if c = '\'' || c = '"' then
        let quoted := rest.takeWhile (· != c)
        if quoted.length < rest.length then some ⟨quoted, start + quoted.length + 2⟩
        else if 0 < after then some ⟨[], start - 1⟩
        else if 1 < equals then
          let bare := (c :: rest).takeWhile isBareChar
          some ⟨'=' :: bare, start + bare.length⟩
        else none
      else
        let bare := (c :: rest).takeWhile isBareChar
        some ⟨bare, start + bare.length⟩

/-- An attribute as it is written. -/
structure Attribute where
  /-- The name. -/
  name : List Char
  /-- The value; an attribute without one has the empty value. -/
  value : List Char

/-- The attributes at the head of a text, the character before which is given, and how many
characters they and the separators behind them take. -/
def attributes (previous : Char) : List Char → List Attribute × Nat
  | [] => ([], 0)
  | c :: cs =>
    if !mayPrecede previous || isBlank c || c == '/' || c == '>' then ([], 0)
    else
      let tail := cs.takeWhile fun c => !(isBlank c || c == '/' || c == '=' || c == '>')
      let written := (value? (cs.drop tail.length)).getD ⟨[], 0⟩
      let used := tail.length + written.size
      let size := used + separators (cs.drop used)
      let (more, moreSize) := attributes (((c :: cs)[size]?).getD c) (cs.drop size)
      (⟨c :: tail, written.value⟩ :: more, size + 1 + moreSize)
  termination_by cs => cs.length
  decreasing_by simp only [List.length_cons, List.length_drop]; omega

/-! ### Start tags -/

/-- What stands where a start tag should. -/
inductive StartTag where
  /-- The text ends inside the tag. -/
  | incomplete
  /-- So many characters that are no tag. -/
  | broken (size : Nat)
  /-- A tag, and how many characters it takes. -/
  | tag (name : String) (attributes : List Attribute) (selfClosing : Bool) (size : Nat)

/-- The start tag behind a `<` that is followed by a letter. -/
def startTag (cs : List Char) : StartTag :=
  let nameChars := cs.takeWhile isNameChar
  let behindName := cs.drop nameChars.length
  let lead := (behindName.takeWhile fun c => isBlank c || c == '/').length
  let start := nameChars.length + lead
  let (attrs, attrsSize) := attributes ((('<' :: cs)[start]?).getD '<') (cs.drop start)
  let last := start + attrsSize
  let slash := attrs.isEmpty && 0 < lead && cs[last - 1]? == some '/'
  match cs.drop last with
  | [] => .incomplete
  | '>' :: _ => .tag (name nameChars) attrs slash (last + 1)
  | '/' :: '>' :: _ => .tag (name nameChars) attrs true (last + 2)
  | c :: _ => if c = '/' || c = '=' || isLetter c then .incomplete else .broken last

/-! ### End tags -/

/-- Whether a character can stand in the name of an end tag. -/
def isEndNameChar (c : Char) : Bool :=
  isLetter c || ('0' ≤ c && c ≤ '9') || c == '-' || c == '.' || c == ':' || c == '_'

/-- The name of an end tag that holds nothing else, behind its `</`. -/
def endName? (cs : List Char) : Option String :=
  let cs := cs.dropWhile isBlank
  let nameChars := cs.takeWhile isEndNameChar
  if !nameChars.head?.any isLetter then none
  else
    match (cs.drop nameChars.length).dropWhile isBlank with
    | '>' :: _ => some (name nameChars)
    | _ => none

/-- Whether a text starts with the end tag of an element, letter case aside. -/
def endsElement (element : List Char) : List Char → Bool
  | '<' :: '/' :: cs =>
    let cs := cs.dropWhile isBlank
    let found := cs.take element.length
    found.length == element.length && (found.zip element).all (fun (a, b) => Text.alike a b) &&
      ((cs.drop element.length).dropWhile isBlank).head? == some '>'
  | _ => false

/-- How many characters stand before the end tag of an element, if there is one. -/
def findEnd? (element : List Char) : List Char → Option Nat
  | [] => none
  | c :: cs => if endsElement element (c :: cs) then some 0 else (findEnd? element cs).map (· + 1)

end Tag

end Harvest.Markup
