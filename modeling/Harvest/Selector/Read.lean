import Harvest.Selector.Token
import Harvest.Text.Quoted

/-!
# Reading a selector

`read` turns the text of a selector into its alternatives.  It runs a machine over the tokens: for the
selector itself and for each pseudo-class whose parenthesis is open there is a `Frame` with what has
been read of its argument, the innermost first.  The next token is looked for only when the machine has
taken the one before, so the error that is reported is the first from the left.

Some pseudo-classes forgive: an alternative that is missing in their argument never holds, and that is
all.  The argument of `:has()` is read from the left (`Purpose.has`).
-/

namespace Harvest.Selector

/-! ### Errors -/

/-- What is wrong with a selector. -/
inductive Fault where
  /-- A bracket opens no test of an attribute. -/
  | attr
  /-- A point is followed by no class. -/
  | cls
  /-- A number sign is followed by no identifier. -/
  | id
  /-- A colon is followed by no pseudo-class. -/
  | pseudoClass
  /-- No token starts with a character. -/
  | character (c : Char)
  /-- A compound is missing. -/
  | missing
  /-- A compound is missing before a combinator. -/
  | missingBefore (combinator : Combinator)
  /-- Two combinators follow each other. -/
  | twoCombinators
  /-- The name of an element follows another test. -/
  | lateTag
  /-- A parenthesis is not closed. -/
  | unclosed
  /-- A parenthesis is closed that was not opened. -/
  | unopened
  /-- A pseudo-class has arguments that do not fit, or lacks them. -/
  | arguments (name : String)
  /-- A pseudo-class is unknown. -/
  | unknown (name : String)
  /-- A pseudo-class of the user is not defined. -/
  | undefined (name : String)
  deriving Repr, DecidableEq

/-- The wording of a fault at a position. -/
def Fault.message (fault : Fault) (position : Nat) : String :=
  let place := " at position " ++ Text.natText position
  match fault with
  | attr => "Malformed attribute selector" ++ place
  | cls => "Malformed class selector" ++ place
  | id => "Malformed id selector" ++ place
  | pseudoClass => "Malformed pseudo-class selector" ++ place
  | character c =>
    "Invalid character " ++ Text.Quoted.chars [c] ++ " position " ++ Text.natText position
  | missing => "Expected a selector" ++ place
  | missingBefore combinator =>
    "The combinator '" ++ combinator.sign.toString ++ "'" ++ place ++
      ", must have a selector before it"
  | twoCombinators => "The multiple combinators" ++ place
  | lateTag => "Tag name found" ++ place ++ " instead of at the start"
  | unclosed => "Unclosed pseudo-class" ++ place
  | unopened => "Unmatched pseudo-class close" ++ place
  | arguments name => "Invalid syntax for pseudo class '" ++ name ++ "'"
  | unknown name =>
    "'" ++ name ++ "' was detected as a pseudo-class and is either unsupported or invalid. If the " ++
      "syntax was not intended to be recognized as a pseudo-class, please escape the colon."
  | undefined name => "Undefined custom selector '" ++ name ++ "' found" ++ place

/-- A line of a text: where it starts, its characters, and the size of the break behind it. -/
structure Line where
  /-- The position of its first character. -/
  start : Nat
  /-- Its characters. -/
  chars : List Char
  /-- The size of the break behind it, which the last line lacks. -/
  breakSize : Nat

/-- The lines of a text, of which the first starts at a position and has some characters already. -/
def linesFrom (start : Nat) (chars : List Char) : List Char → List Line
  | [] => [⟨start, chars.reverse, 0⟩]
  | '\r' :: '\n' :: cs => ⟨start, chars.reverse, 2⟩ :: linesFrom (start + chars.length + 2) [] cs
  | c :: cs =>
    if c = '\n' || c = '\r' then
      ⟨start, chars.reverse, 1⟩ :: linesFrom (start + chars.length + 1) [] cs
    else linesFrom start (c :: chars) cs

/-- Whether a position lies in a line or in the break behind it. -/
def Line.holds (l : Line) (position : Nat) : Bool :=
  l.start ≤ position && position < l.start + l.chars.length + l.breakSize

/-- A line with a sign under a column. -/
def marked (lead : String) (l : Line) (column : Nat) : String :=
  lead ++ String.ofList l.chars ++ "\n" ++
    String.ofList (List.replicate (lead.length + column) ' ') ++ "^"

/-- A text with a position marked, and the number of the marked line.  The end of a text of several
lines cannot be marked; it counts as the first line. -/
def excerpt (cs : List Char) (position : Nat) : String × Nat :=
  match linesFrom 0 [] cs with
  | [l] => (marked "" l position, 1)
  | ls =>
    let shown := ls.map fun l =>
      if l.holds position then
        marked "--> " l (min (position - l.start) l.chars.length)
      else "    " ++ String.ofList l.chars
    (("\n".intercalate shown), (ls.findIdx? (·.holds position)).getD 0 + 1)

/-- Why a selector cannot be read. -/
inductive Error where
  /-- It has a fault at a position. -/
  | fault (fault : Fault) (selector : List Char) (position : Nat)
  /-- A number in it is refused. -/
  | number (error : NumberError)
  /-- It has a pseudo-element at a position. -/
  | pseudoElement (position : Nat)
  /-- It has a rule that starts with `@` at a position. -/
  | atRule (position : Nat)
  deriving Repr, DecidableEq

/-- The message of an error. -/
def Error.message : Error → String
  | fault f selector position =>
    let (text, line) := excerpt selector position
    f.message position ++ "\n  line " ++ Text.natText line ++ ":\n" ++ text
  | number error => error.message
  | pseudoElement position => "Pseudo-element found at position " ++ Text.natText position
  | atRule position => "At-rules found at position " ++ Text.natText position

/-- What stops the machine: a fault with its position, or another error. -/
inductive Stop where
  /-- A fault. -/
  | fault (fault : Fault) (position : Nat)
  /-- A number is refused. -/
  | number (error : NumberError)
  /-- A pseudo-element. -/
  | pseudoElement (position : Nat)
  /-- A rule that starts with `@`. -/
  | atRule (position : Nat)

/-! ### Frames -/

/-- What the alternatives of a frame are for. -/
inductive Purpose where
  /-- They are the selector. -/
  | whole
  /-- One of them must hold. -/
  | anyOf
  /-- One of them must hold, and missing ones are forgiven. -/
  | forgiving
  /-- None of them may hold. -/
  | noneOf
  /-- One of them must hold for the elements around which the test stands. -/
  | has
  /-- They say which siblings count. -/
  | among (counting : Counting)
  /-- Nothing, since the pseudo-class never holds. -/
  | nothing
  deriving Repr, DecidableEq

/-- What has been read of a selector or of the argument of a pseudo-class. -/
structure Frame where
  /-- What it is for. -/
  purpose : Purpose
  /-- Where the last token ended. -/
  position : Nat
  /-- The alternatives that are complete, the last one first. -/
  finished : List Complex := []
  /-- The tests of the compound that is being read, the last one first. -/
  tests : List Simple := []
  /-- The tests of the text of that compound, the last one first. -/
  texts : List TextTest := []
  /-- Whether that compound has any test. -/
  filled : Bool := false
  /-- What stands to the left of that compound. -/
  left : Option (Relation × Complex) := none
  /-- In a chain that is read from the left, the compounds before that one, the last one first. -/
  chain : List (Relation × List Simple) := []
  /-- In such a chain, the relation in front of that compound. -/
  relation : Relation := .around

namespace Frame

/-- The frame with a test added. -/
def add (f : Frame) (test : Simple) : Frame :=
  { f with tests := test :: f.tests, filled := true }

/-- The tests of the compound that is being read. -/
def compound (f : Frame) : List Simple :=
  f.tests.reverse ++ if f.texts.isEmpty then [] else [.text f.texts.reverse]

/-- The frame with a new compound begun. -/
def begin (f : Frame) : Frame :=
  { f with tests := [], texts := [], filled := false }

/-- The alternative that ends with the compound that is being read. -/
def alternative (f : Frame) : Complex :=
  if f.purpose = .has then .ofChain (f.chain.reverse ++ [(f.relation, f.compound)])
  else .ofLeft f.compound f.left

/-- The frame with its alternative complete and a new one begun. -/
def finish (f : Frame) : Frame :=
  { f.begin with
    finished := f.alternative :: f.finished, left := none, chain := [], relation := .around }

/-- The frame with an alternative that never holds in place of its own. -/
def giveUp (f : Frame) : Frame :=
  { f.begin with finished := .alone [.never] :: f.finished, left := none }

/-- The alternatives of a frame that ends here. -/
def alternatives (f : Frame) : Except Stop (List Complex) :=
  if f.filled then .ok f.finish.finished.reverse
  else if f.purpose = .forgiving && (f.finished.isEmpty || f.left.isNone) then
    .ok f.giveUp.finished.reverse
  else .error (.fault .missing f.position)

/-- How a compound stands to the one on its left. -/
def relationBehind : Combinator → Relation
  | .child => .childOf
  | .sibling => .after
  | .adjacent => .rightAfter
  | _ => .within

/-- How a compound stands to the one on its right. -/
def relationAhead : Combinator → Relation
  | .child => .parentOf
  | .sibling => .before
  | .adjacent => .rightBefore
  | _ => .around

/-- The frame after a combinator in a chain that is read from the right. -/
def joinBehind (f : Frame) (k : Combinator) : Except Stop Frame :=
  if f.filled then
    if k = .comma then .ok f.finish
    else .ok { f.begin with left := some (relationBehind k, f.alternative) }
  else if f.purpose = .forgiving && k = .comma then .ok f.giveUp
  else .error (.fault (.missingBefore k) f.position)

/-- The frame after a combinator in a chain that is read from the left. -/
def joinAhead (f : Frame) (k : Combinator) : Except Stop Frame :=
  if k = .comma then
    if f.filled then .ok f.finish else .error (.fault (.missingBefore k) f.position)
  else if f.filled then
    .ok { f.begin with
      chain := (f.relation, f.compound) :: f.chain, relation := relationAhead k }
  else if f.relation = .around then .ok { f with relation := relationAhead k }
  else .error (.fault .twoCombinators f.position)

/-- The frame after a combinator. -/
def join (f : Frame) (k : Combinator) : Except Stop Frame :=
  if f.purpose = .has then f.joinAhead k else f.joinBehind k

/-- The test that the alternatives of a closed frame make. -/
def test (f : Frame) (alternatives : List Complex) : Simple :=
  match f.purpose with
  | .whole => .anyOf alternatives
  | .anyOf => .anyOf alternatives
  | .forgiving => .anyOf alternatives
  | .noneOf => .noneOf alternatives
  | .has => .anyOf alternatives
  | .among counting => .nth counting alternatives
  | .nothing => .never

end Frame

/-! ### Pseudo-classes -/

/-- The test of the first or last place, counting all siblings or those of the same name. -/
def edge (sameName fromEnd : Bool) : Simple :=
  .nth ⟨.only 1, sameName, fromEnd⟩ []

/-- The pseudo-classes without arguments. -/
def plainClasses : List (String × List Simple) :=
  [(":root", [.root]), (":scope", [.scope]), (":empty", [.empty]),
    (":link", [.link]), (":any-link", [.link]), (":checked", [.checked]),
    (":disabled", [.disabled]), (":enabled", [.enabled]), (":required", [.required]),
    (":optional", [.optional]), (":first-child", [edge false false]),
    (":last-child", [edge false true]), (":first-of-type", [edge true false]),
    (":last-of-type", [edge true true]),
    (":only-child", [edge false false, edge false true]),
    (":only-of-type", [edge true false, edge true true])]

/-- The pseudo-classes without arguments for what happens to a document in use, which never hold. -/
def idleClasses : List String :=
  [":active", ":autofill", ":buffering", ":current", ":focus", ":focus-visible", ":focus-within",
    ":fullscreen", ":future", ":host", ":hover", ":local-link", ":past", ":paused",
    ":picture-in-picture", ":playing", ":popover-open", ":seeking", ":stalled", ":target",
    ":target-within", ":user-invalid", ":visited", ":volume-locked"]

/-- The pseudo-classes without arguments that are read but not matched.  They do hold of some elements,
such as controls with a value in their range; here that is left out, and they match nothing. -/
def unmatchedClasses : List String :=
  [":in-range", ":open", ":out-of-range", ":default", ":indeterminate", ":placeholder-shown",
    ":read-only", ":read-write", ":defined", ":muted"]

/-- The pseudo-classes without arguments that match nothing. -/
def inertClasses : List String :=
  idleClasses ++ unmatchedClasses

/-- The pseudo-classes whose arguments are selectors. -/
def listClasses : List (String × Purpose) :=
  [(":is", .forgiving), (":where", .forgiving), (":matches", .anyOf), (":contains", .anyOf),
    (":-soup-contains", .anyOf), (":-soup-contains-own", .anyOf), (":not", .noneOf), (":has", .has),
    (":current", .nothing), (":host", .nothing), (":host-context", .nothing)]

/-- The pseudo-classes with arguments of another form. -/
def formClasses : List String :=
  [":dir", ":lang", ":nth-child", ":nth-last-child", ":nth-last-of-type", ":nth-of-type"]

/-- The pseudo-class of a name is known. -/
def isKnown (name : String) : Bool :=
  (plainClasses.lookup name).isSome || inertClasses.contains name ||
    (listClasses.lookup name).isSome || formClasses.contains name

/-- The frames after a pseudo-class that starts at a position and ends at another. -/
def pseudoClass (f : Frame) (outer : List Frame) (name : String) (opens : Bool) (start stop : Nat) :
    Except Stop (Frame × List Frame) :=
  let refused := if isKnown name then Fault.arguments name else Fault.unknown name
  if opens then
    match listClasses.lookup name with
    | some purpose => .ok ({ purpose := purpose, position := stop },
        { f with position := stop } :: outer)
    | none => .error (.fault refused start)
  else
    match plainClasses.lookup name with
    | some tests => .ok ({ tests.foldl Frame.add f with position := stop }, outer)
    | none =>
      if inertClasses.contains name then .ok ({ f.add .never with position := stop }, outer)
      else .error (.fault refused start)

/-! ### The machine -/

/-- The frames after a closing parenthesis at a position. -/
def close (f : Frame) (outer : List Frame) (start : Nat) : Except Stop (Frame × List Frame) :=
  if !f.filled && f.purpose ≠ .forgiving then .error (.fault .missing start)
  else
    match outer with
    | [] => .error (.fault .unopened start)
    | parent :: rest =>
      match f.alternatives with
      | .error e => .error e
      | .ok alternatives => .ok (parent.add (f.test alternatives), rest)

/-- The frames after a token that starts at a position and ends at another. -/
def step (f : Frame) (outer : List Frame) (t : Token) (start stop : Nat) :
    Except Stop (Frame × List Frame) :=
  let taken (f : Frame) : Except Stop (Frame × List Frame) :=
    .ok ({ f with position := stop }, outer)
  match t with
  | .close => close f outer start
  | .text test => taken { f with texts := test :: f.texts, filled := true }
  | .nth counting => taken (f.add (.nth counting []))
  | .nthAmong counting =>
    .ok ({ purpose := .among counting, position := stop },
      { f with position := stop } :: outer)
  | .inert => taken (f.add .never)
  | .custom name => .error (.fault (.undefined name) stop)
  | .pseudoClass name opens => pseudoClass f outer name opens start stop
  | .pseudoElement => .error (.pseudoElement start)
  | .nesting => taken (f.add .scope)
  | .atRule => .error (.atRule start)
  | .id name => taken (f.add (.id name))
  | .cls name => taken (f.add (.cls name))
  | .tag space name =>
    if f.filled then .error (.fault .lateTag start)
    else
      match space.elim (.ok none) (fun cs => (nameText cs).map some), nameText name with
      | .ok space, .ok name => taken (f.add (.tag space name))
      | .error e, _ => .error (.number e)
      | _, .error e => .error (.number e)
  | .attr test negated =>
    taken (f.add (if negated then .noneOf [.alone [.attr test]] else .attr test))
  | .combinator k =>
    match f.join k with
    | .error e => .error e
    | .ok f => taken f

/-- The fault of a text in which no token starts at a character. -/
def unreadable (c : Char) : Fault :=
  if c = '[' then .attr
  else if c = '.' then .cls
  else if c = '#' then .id
  else if c = ':' then .pseudoClass
  else .character c

/-- The alternatives of the selector when the text ends. -/
def finish (f : Frame) (outer : List Frame) : Except Stop (List Complex) :=
  if outer.isEmpty then f.alternatives else .error (.fault .unclosed f.position)

/-- The machine at a position: tokens are taken as long as they start before a limit. -/
def run (limit position : Nat) (f : Frame) (outer : List Frame) :
    List Char → Except Stop (List Complex)
  | [] => finish f outer
  | c :: cs =>
    if limit ≤ position then finish f outer
    else
      match token (c :: cs) with
      | .error e => .error (.number e)
      | .ok (some (t, n + 1)) =>
        match step f outer t position (position + n + 1) with
        | .error e => .error e
        | .ok (f, outer) => run limit (position + n + 1) f outer (cs.drop n)
      | .ok _ => .error (.fault (unreadable c) position)
  termination_by cs => cs.length
  decreasing_by simp only [List.length_cons, List.length_drop]; omega

/-- The position behind which a text holds blanks and comments only. -/
def limitOf : List Char → Nat
  | [] => 0
  | c :: cs => if atEnd ((c :: cs).drop (spaceSize (c :: cs))) then 0 else limitOf cs + 1

/-- A text with a replacement character for each character zero. -/
def withoutNul (cs : List Char) : List Char :=
  cs.map fun c => if c = '\x00' then '\uFFFD' else c

/-- The alternatives of a selector. -/
def read (selector : String) : Except Error (List Complex) :=
  let cs := withoutNul selector.toList
  let start := spaceSize cs
  match run (limitOf cs) start { purpose := .whole, position := 0 } [] (cs.drop start) with
  | .ok alternatives => .ok alternatives
  | .error (.fault fault position) => .error (.fault fault cs position)
  | .error (.number e) => .error (.number e)
  | .error (.pseudoElement position) => .error (.pseudoElement position)
  | .error (.atRule position) => .error (.atRule position)

end Harvest.Selector
