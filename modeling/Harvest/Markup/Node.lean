/-!
# Document trees

A document is a tree of elements and texts.  Texts are of several kinds (`TextKind`): plain ones and
CDATA sections are what is read on a page, the texts of some elements (`TextKind.ofContainer?`) are kept
apart, and comments and declarations are never read.

`Node.text` is the text of an element: all texts below it that are of a kind the element is read for.
-/

namespace Harvest.Markup

/-- The kind of a text. -/
inductive TextKind where
  /-- A text on the page. -/
  | plain
  /-- A CDATA section. -/
  | cdata
  /-- A program. -/
  | script
  /-- A style sheet. -/
  | style
  /-- A text inside a template. -/
  | template
  /-- A ruby annotation. -/
  | rubyText
  /-- The parenthesis of a ruby annotation. -/
  | rubyParenthesis
  /-- A comment. -/
  | comment
  /-- A document type. -/
  | doctype
  /-- A declaration. -/
  | declaration
  /-- A processing instruction. -/
  | instruction
  deriving Repr, DecidableEq

/-- The elements whose texts are kept apart, with the kind of their texts. -/
def TextKind.containers : List (String × TextKind) :=
  [("script", .script), ("style", .style), ("template", .template), ("rt", .rubyText),
    ("rp", .rubyParenthesis)]

/-- The kind of the texts of an element that keeps its texts apart. -/
def TextKind.ofContainer? (name : String) : Option TextKind :=
  containers.lookup name

/-- Whether a text is for nobody to read: a comment, a declaration or a CDATA section. -/
def TextKind.isHidden (kind : TextKind) : Bool :=
  [.cdata, .comment, .doctype, .declaration, .instruction].contains kind

/-- Whether an element of a name is read for the texts of a kind. -/
def TextKind.isReadIn (kind : TextKind) (name : String) : Bool :=
  match ofContainer? name with
  | some own => kind == own
  | none => kind == .plain || kind == .cdata

/-- A node of a document. -/
inductive Node where
  /-- An element, with its attributes and the nodes inside. -/
  | element (name : String) (attributes : List (String × String)) (children : List Node)
  /-- A text. -/
  | text (kind : TextKind) (s : String)
  deriving Inhabited

namespace Node

/-- The name that a whole document goes by as an element; no tag can have it. -/
def documentName : String :=
  "[document]"

/-- A document that holds some nodes. -/
def document (children : List Node) : Node :=
  element documentName [] children

/-- The name of an element. -/
def name : Node → String
  | element name _ _ => name
  | text .. => ""

/-- The attributes of an element. -/
def attributes : Node → List (String × String)
  | element _ attributes _ => attributes
  | text .. => []

/-- The nodes inside an element. -/
def children : Node → List Node
  | element _ _ children => children
  | text .. => []

/-- Whether a node is an element. -/
def isElement : Node → Bool
  | element .. => true
  | text .. => false

/-- The value of an attribute of an element. -/
def attribute? (n : Node) (key : String) : Option String :=
  n.attributes.lookup key

mutual
/-- The texts in a node, with their kinds, in document order. -/
def texts : Node → List (TextKind × String)
  | element _ _ children => textsAll children
  | text kind s => [(kind, s)]

/-- The texts in some nodes. -/
def textsAll : List Node → List (TextKind × String)
  | [] => []
  | n :: ns => texts n ++ textsAll ns
end

/-- The text of an element. -/
def readText (n : Node) : String :=
  String.join (n.texts.filterMap fun (kind, s) => if kind.isReadIn n.name then some s else none)

end Node

end Harvest.Markup
