import Harvest.Markup.Node
import Harvest.Markup.Tag
import Harvest.Text.Quoted

/-!
# The tokens of markup

`tokens` cuts markup into texts, tags and asides (comments, declarations and the like), in two passes.
The first pass stops at a construct that the end of the text leaves open; the second pass starts
there and takes what stays open as text.  Inside `script` and `style` only the end tag of the element
counts, and where there is none the rest is dropped.

`step` is one step of a pass.  Every step that goes on takes at least one character, so a pass ends.
-/

namespace Harvest.Markup

open Text (isBlank)

/-- A token of markup. -/
inductive Token where
  /-- Text. -/
  | data (cs : List Char)
  /-- A start tag. -/
  | start (name : String) (attributes : List (String × String)) (selfClosing : Bool)
  /-- An end tag. -/
  | finish (name : String)
  /-- A text apart from the others. -/
  | aside (kind : TextKind) (cs : List Char)
  deriving Repr, DecidableEq

/-- Why markup is refused. -/
inductive Error where
  /-- A marked section has this keyword, which is unknown. -/
  | unknownSection (keyword : List Char)
  /-- A marked section that starts with these characters has no keyword. -/
  | unnamedSection (start : List Char)
  /-- A character reference has this many digits, which is too many. -/
  | tooLong (digits : Nat)
  deriving Repr, DecidableEq

/-- The message of an error. -/
def Error.message (e : Error) : String :=
  let rejected (reason : String) :=
    "The markup you provided was rejected by the parser. Trying a different parser or a different " ++
      "encoding may help.\n\nOriginal exception(s) from parser:\n AssertionError: " ++ reason
  match e with
  | unknownSection keyword =>
    rejected ("unknown status keyword " ++ Text.Quoted.chars keyword ++ " in marked section")
  | unnamedSection start => rejected ("expected name token at " ++ Text.Quoted.chars start)
  | tooLong digits => Text.Numeral.tooLongMessage digits

/-- The elements whose content is no markup. -/
def rawElements : List String :=
  ["script", "style"]

/-- The outcome of one step. -/
inductive Step where
  /-- The tokens that are found, how many characters are taken behind the first, and the element
  whose content is no markup, if one is open now. -/
  | next (tokens : List Token) (size : Nat) (raw : Option (List Char))
  /-- The pass stops with these tokens, and this is left. -/
  | stop (tokens : List Token) (rest : List Char)
  /-- The markup is refused. -/
  | fail (error : Error)

/-! ### Tags -/

/-- The attributes of a tag, with their references expanded; of two with one name the later value
stays, in the earlier place. -/
def attributesOf : List Tag.Attribute → List (String × String) → Except Error (List (String × String))
  | [], acc => .ok acc
  | a :: as, acc =>
    match Reference.expand a.value with
    | .error e => .error (.tooLong e.digits)
    | .ok value =>
      let key := Tag.name a.name
      let value := String.ofList value
      attributesOf as <|
        if acc.any (·.1 == key) then acc.map fun e => if e.1 == key then (key, value) else e
        else acc ++ [(key, value)]

/-- A construct that the text ends in, behind its `<`: a pass that is not the last stops there, and
the last one takes it as text up to the next `>` or, without one, before the next `<`. -/
def openEnded (final : Bool) (cs : List Char) : Step :=
  if !final then .stop [] ('<' :: cs)
  else
    let before (stop : Char) := (cs.takeWhile (· != stop)).length
    let size :=
      if cs.contains '>' then before '>' + 1 else if cs.contains '<' then before '<' else 0
    .next [.data ('<' :: cs.take size)] size none

/-- A start tag, behind its `<`. -/
def startStep (final : Bool) (cs : List Char) : Step :=
  match Tag.startTag cs with
  | .incomplete => openEnded final cs
  | .broken size => .next [.data ('<' :: cs.take size)] size none
  | .tag name attrs selfClosing size =>
    match attributesOf attrs [] with
    | .error e => .fail e
    | .ok attributes =>
      .next [.start name attributes selfClosing] size
        (if !selfClosing && rawElements.contains name then some name.toList else none)

/-- An end tag, behind its `<`; `raw` is the open element whose content is no markup. -/
def endStep (final : Bool) (raw : Option (List Char)) (cs : List Char) : Step :=
  let inside := cs.drop 1
  if !inside.contains '>' then openEnded final cs
  else
    let size := (inside.takeWhile (· != '>')).length + 2
    match Tag.endName? inside, raw with
    | some name, some element =>
      if name.toList = element then .next [.finish name] size none
      else .next [.data ('<' :: cs.take size)] size raw
    | some name, none => .next [.finish name] size none
    | none, some _ => .next [.data ('<' :: cs.take size)] size raw
    | none, none =>
      if inside.head?.any isLetter then
        .next [.finish (Tag.name (inside.takeWhile Tag.isNameChar))] size none
      else if inside.head? = some '>' then .next [] size none
      else .next [.aside .comment (inside.takeWhile (· != '>'))] size none

/-! ### Asides -/

/-- How many characters stand before the first place where a text starts in a given way, and how many
the beginning has there. -/
def search (starts : List Char → Option Nat) : List Char → Option (Nat × Nat)
  | [] => none
  | c :: cs =>
    match starts (c :: cs) with
    | some size => some (0, size)
    | none => (search starts cs).map fun (before, size) => (before + 1, size)

/-- The end of a comment: `--`, blanks and `>`. -/
def commentEnd : List Char → Option Nat
  | '-' :: '-' :: cs =>
    let blanks := (cs.takeWhile isBlank).length
    if (cs.drop blanks).head? = some '>' then some (blanks + 3) else none
  | _ => none

/-- The end of a conditional section: `]`, blanks and `>`. -/
def conditionEnd : List Char → Option Nat
  | ']' :: cs =>
    let blanks := (cs.takeWhile isBlank).length
    if (cs.drop blanks).head? = some '>' then some (blanks + 2) else none
  | _ => none

/-- The end of a section: `]`, blanks and the end of a conditional section. -/
def sectionEnd : List Char → Option Nat
  | ']' :: cs =>
    let blanks := (cs.takeWhile isBlank).length
    (conditionEnd (cs.drop blanks)).map (· + blanks + 1)
  | _ => none

/-- An aside of `start` characters behind the `<`, up to an end. -/
def asideStep (final : Bool) (start : Nat) (isEnd : List Char → Option Nat)
    (token : List Char → Token) (cs : List Char) : Step :=
  let body := cs.drop start
  match search isEnd body with
  | none => openEnded final cs
  | some (before, size) => .next [token (body.take before)] (start + before + size) none

/-- The end of an aside that ends at the next `>`. -/
def angleEnd : List Char → Option Nat
  | '>' :: _ => some 1
  | _ => none

/-- Whether a character can stand in the keyword of a section. -/
def isKeywordChar (c : Char) : Bool :=
  isLetter c || ('0' ≤ c && c ≤ '9') || c == '-' || c == '_' || c == '.'

/-- The text of a section: CDATA, or a declaration. -/
def sectionToken (cs : List Char) : Token :=
  if Text.lowerAscii (String.ofList (cs.take 6)) = "cdata[" then .aside .cdata (cs.drop 6)
  else .aside .declaration cs

/-- A section, behind its `<`. -/
def sectionStep (final : Bool) (cs : List Char) : Step :=
  let body := cs.drop 2
  if body.isEmpty then openEnded final cs
  else if !body.head?.any isLetter then .fail (.unnamedSection (('<' :: cs).take 20))
  else
    let word := body.takeWhile isKeywordChar
    let blanks := (body.drop word.length).takeWhile isBlank
    let keyword := Text.lowerAscii (String.ofList word)
    if (body.drop (word.length + blanks.length)).isEmpty then openEnded final cs
    else if ["temp", "cdata", "ignore", "include", "rcdata"].contains keyword then
      asideStep final 2 sectionEnd sectionToken cs
    else if ["if", "else", "endif"].contains keyword then
      asideStep final 2 conditionEnd sectionToken cs
    else .fail (.unknownSection (word ++ blanks))

/-- A declaration, behind its `<`. -/
def declarationStep (final : Bool) (cs : List Char) : Step :=
  if Text.lowerAscii (String.ofList (cs.take 8)) = "!doctype" then
    asideStep final 8 angleEnd (.aside .doctype) cs
  else asideStep final 1 angleEnd (.aside .comment) cs

/-- What stands behind a `<`. -/
def angleStep (final : Bool) (cs : List Char) : Step :=
  match cs with
  | [] => .stop [] ['<']
  | '/' :: _ => endStep final none cs
  | '?' :: _ => asideStep final 1 angleEnd (.aside .instruction) cs
  | '!' :: '-' :: '-' :: _ => asideStep final 3 commentEnd (.aside .comment) cs
  | '!' :: '[' :: _ => sectionStep final cs
  | '!' :: _ => declarationStep final cs
  | c :: _ => if isLetter c then startStep final cs else .next [.data ['<']] 0 none

/-! ### References -/

/-- A character reference by number, behind `&#`: digits that no further hexadecimal digit follows, and
one more character.  Without them the pass stops, behind `&#` if there is a semicolon anywhere. -/
def numberStep (cs : List Char) : Step :=
  let decimals := cs.takeWhile Reference.isDecimal
  let isHex := decimals.isEmpty && (cs.head? == some 'x' || cs.head? == some 'X')
  let hexadecimals := if isHex then (cs.drop 1).takeWhile Text.isHexDigit else []
  let size := if isHex then hexadecimals.length + 1 else decimals.length
  let spelled : Except TooManyDigits Nat :=
    if isHex then .ok (Text.hexValue hexadecimals) else Reference.decimalValue decimals
  match cs.drop size with
  | c :: _ =>
    if (decimals.isEmpty && hexadecimals.isEmpty) || Text.isHexDigit c then unread
    else
      match spelled with
      | .error e => .fail (.tooLong e.digits)
      | .ok n =>
        .next [.data [Entity.numberedInText n]] (1 + size + (if c = ';' then 1 else 0)) none
  | [] => unread
where
  /-- The pass stops at something that is no reference. -/
  unread : Step :=
    if cs.contains ';' then .stop [.data ['&', '#']] cs else .stop [] ('&' :: '#' :: cs)

/-- Whether a character can stand in the name of a reference. -/
def isReferenceChar (c : Char) : Bool :=
  isLetter c || ('0' ≤ c && c ≤ '9') || c == '-' || c == '.'

/-- The name of a reference that some character follows which is no letter and no digit.  Where the
text ends with the name, the name ends before its last hyphen or point. -/
def referenceName? (cs : List Char) : Option (List Char) :=
  let run := cs.takeWhile isReferenceChar
  if !cs.head?.any isLetter then none
  else if run.length < cs.length then some run
  else
    match run.reverse.dropWhile fun c => !(c == '-' || c == '.') with
    | [] => none
    | _ :: name => some name.reverse

/-- The text of a reference by name; an unknown one stays as it is. -/
def referenceText (name : List Char) : List Char :=
  (Entity.named? (String.ofList name)).getD ('&' :: name)

/-- What stands behind an ampersand. -/
def ampersandStep (final : Bool) (cs : List Char) : Step :=
  match cs with
  | '#' :: rest => numberStep rest
  | _ =>
    match referenceName? cs with
    | some name =>
      let closed := (cs.drop name.length).head? = some ';'
      .next [.data (referenceText name)] (name.length + if closed then 1 else 0) none
    | none =>
      match cs with
      | [] => .stop [] ['&']
      | c :: rest =>
        if isLetter c then
          if final && rest.isEmpty then .stop [] cs else .stop [] ('&' :: cs)
        else .next [.data ['&']] 0 none

/-! ### Passes -/

/-- One step of a pass at the text `c :: cs`. -/
def step (final : Bool) (raw : Option (List Char)) (c : Char) (cs : List Char) : Step :=
  match raw with
  | some element =>
    match Tag.findEnd? element (c :: cs) with
    | none => .stop [] (c :: cs)
    | some 0 => endStep final raw cs
    | some (n + 1) => .next [.data (c :: cs.take n)] n raw
  | none =>
    if c = '<' then angleStep final cs
    else if c = '&' then ampersandStep final cs
    else
      let more := cs.takeWhile fun c => c != '<' && c != '&'
      .next [.data (c :: more)] more.length none

/-- What a pass leaves. -/
structure Rest where
  /-- The characters that it did not take. -/
  chars : List Char
  /-- The open element whose content is no markup. -/
  raw : Option (List Char)

/-- A pass over markup: the tokens that are found, the last one first, before those that are there. -/
def pass (final : Bool) (found : List Token) (raw : Option (List Char)) :
    List Char → Except Error (List Token × Rest)
  | [] => .ok (found, ⟨[], raw⟩)
  | c :: cs =>
    match step final raw c cs with
    | .fail e => .error e
    | .stop tokens rest => .ok (tokens.reverse ++ found, ⟨rest, raw⟩)
    | .next tokens size raw => pass final (tokens.reverse ++ found) raw (cs.drop size)
  termination_by cs => cs.length
  decreasing_by simp only [List.length_cons, List.length_drop]; omega

/-- The tokens of markup. -/
def tokens (cs : List Char) : Except Error (List Token) :=
  match pass false [] none cs with
  | .error e => .error e
  | .ok (found, rest) =>
    match pass true found rest.raw rest.chars with
    | .error e => .error e
    | .ok (found, rest) =>
      if rest.raw.isSome || rest.chars.isEmpty then .ok found.reverse
      else .ok (.data rest.chars :: found).reverse

end Harvest.Markup
