import Harvest.Markup.Token

/-!
# Building the tree of a document

The tokens of a document become a tree without any repair.  A start tag opens an element inside the
innermost open one, an end tag closes elements up to the nearest open one of its name, and one without
such an element closes nothing.  An element whose tag closes itself, and a void element, is closed as
soon as it is opened.  For a void element an end tag may still be written later; that tag is passed over
as if it were not there (`Builder.closed`).

Texts that follow each other are one text.  A text of white space alone is reduced to a line feed or a
space, unless an element that keeps white space is open.

`parse` makes the tree of a markup text.
-/

namespace Harvest.Markup

/-- The elements that hold nothing. -/
def voidElements : List String :=
  [
   "area", "base", "br", "col", "embed", "hr", "img", "input", "keygen", "link", "menuitem", "meta",
   "param", "source", "track", "wbr", "basefont", "bgsound", "command", "frame", "image", "isindex",
   "nextid", "spacer"]

/-- The elements that keep white space. -/
def preservingElements : List String :=
  ["pre", "textarea"]

/-- An element that is open, with its children so far, the last one first. -/
structure OpenElement where
  /-- The name. -/
  name : String
  /-- The attributes. -/
  attributes : List (String × String)
  /-- The children, the last one first. -/
  children : List Node

/-- A tree that is being built. -/
structure Builder where
  /-- The open elements, the innermost first. -/
  stack : List OpenElement := []
  /-- The nodes outside all elements, the last one first. -/
  roots : List Node := []
  /-- The pieces of a text that may go on, the last one first. -/
  pending : List (List Char) := []
  /-- The names of void elements that an end tag may still be written for. -/
  closed : List String := []

namespace Builder

/-- The tree with a node added in the innermost open element. -/
def add (b : Builder) (n : Node) : Builder :=
  match b.stack with
  | [] => { b with roots := n :: b.roots }
  | e :: stack => { b with stack := { e with children := n :: e.children } :: stack }

/-- The kind of the texts that are added now. -/
def textKind (b : Builder) : TextKind :=
  (b.stack.findSome? fun e => TextKind.ofContainer? e.name).getD .plain

/-- Whether white space is kept now. -/
def preserves (b : Builder) : Bool :=
  b.stack.any fun e => preservingElements.contains e.name

/-- Whether a character is white space of ASCII. -/
def isSpace (c : Char) : Bool :=
  c == ' ' || c == '\n' || c == '\t' || c == '\x0c' || c == '\r'

/-- The text that some characters become. -/
def normalize (b : Builder) (cs : List Char) : String :=
  if !cs.all isSpace || b.preserves then String.ofList cs
  else if cs.contains '\n' then "\n"
  else " "

/-- The tree with the pending text, if there is any, added as a text of a kind. -/
def flush (b : Builder) (kind : TextKind) : Builder :=
  if b.pending.isEmpty then b
  else
    let kind := if kind = .plain then b.textKind else kind
    let s := b.normalize b.pending.reverse.flatten
    { b with pending := [] }.add (.text kind s)

/-- The tree with its innermost open element closed. -/
def pop (b : Builder) : Builder :=
  match b.stack with
  | [] => b
  | e :: stack =>
    { b with stack := stack }.add (.element e.name e.attributes e.children.reverse)

/-- The tree with as many of the innermost open elements closed. -/
def popMany (b : Builder) : Nat → Builder
  | 0 => b
  | n + 1 => b.pop.popMany n

/-- The tree after an end tag. -/
def finish (b : Builder) (name : String) : Builder :=
  let b := b.flush .plain
  match b.stack.findIdx? fun e => e.name == name with
  | some depth => b.popMany (depth + 1)
  | none => b

/-- The tree after an end tag that was written out: one of a void element that was closed when it was
opened is passed over. -/
def finishWritten (b : Builder) (name : String) : Builder :=
  if b.closed.contains name then { b with closed := b.closed.erase name } else b.finish name

/-- The tree after a start tag. -/
def start (b : Builder) (name : String) (attributes : List (String × String)) : Builder :=
  let b := b.flush .plain
  { b with stack := ⟨name, attributes, []⟩ :: b.stack }

/-- The tree after one token. -/
def step (b : Builder) : Token → Builder
  | .data cs => { b with pending := cs :: b.pending }
  | .aside kind cs =>
    let b := b.flush .plain
    { b with pending := [cs] }.flush kind
  | .finish name => b.finishWritten name
  | .start name attributes selfClosing =>
    let b := b.start name attributes
    if selfClosing then b.finish name
    else if voidElements.contains name then
      let b := b.finish name
      { b with closed := b.closed ++ [name] }
    else b

/-- The document, with all that is open closed. -/
def done (b : Builder) : Node :=
  let b := b.flush .plain
  .document (b.popMany b.stack.length).roots.reverse

end Builder

/-- The document that a list of tokens describes. -/
def build (tokens : List Token) : Node :=
  (tokens.foldl Builder.step {}).done

/-- The document of a markup text. -/
def parse (markup : String) : Except Error Node :=
  (tokens markup.toList).map build

end Harvest.Markup
