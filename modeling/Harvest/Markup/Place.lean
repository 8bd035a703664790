import Harvest.Text.Case
import Harvest.Markup.Node

/-!
# Places in a document

A `Place` is a node together with the way to it: the elements around it up to the document, and the
number of each among its siblings.  From a place one sees the whole document: the parent, the ancestors,
the siblings and everything below, in document order.  Two places of one document are the same if their
addresses are.

An `iframe` can be taken as a border (`framed`): nothing inside it is seen from outside, nor the other
way round.
-/

namespace Harvest.Markup

/-- A node with the way to it. -/
structure Place where
  /-- The node. -/
  node : Node
  /-- Its number among its siblings. -/
  index : Nat
  /-- The elements around it with their numbers, the innermost first and the document last. -/
  above : List (Node × Nat)

/-- Whether a node is a frame that shows another document. -/
def Node.isFrame (n : Node) : Bool :=
  n.isElement && Text.lowerAscii n.name == "iframe"

namespace Place

/-- The place of a whole document. -/
def top (document : Node) : Place :=
  ⟨document, 0, []⟩

/-- The numbers that lead to a place, the last one first. -/
def address (p : Place) : List Nat :=
  p.index :: p.above.map Prod.snd

/-- Whether a place is that of the document itself. -/
def isTop (p : Place) : Bool :=
  p.above.isEmpty

/-- The parent of a place. -/
def parent? (p : Place) : Option Place :=
  match p.above with
  | [] => none
  | (n, i) :: above => some ⟨n, i, above⟩

/-- The places that lead up from elements around a place. -/
def climb (framed : Bool) : List (Node × Nat) → List Place
  | [] => []
  | (n, i) :: above => if framed && n.isFrame then [] else ⟨n, i, above⟩ :: climb framed above

/-- The ancestors of a place, the parent first. -/
def ancestors (framed : Bool) (p : Place) : List Place :=
  climb framed p.above

/-- The places of nodes that stand side by side, of which the first has a number. -/
def sideBySide (above : List (Node × Nat)) (first : Nat) (ns : List Node) : List Place :=
  (ns.zipIdx first).map fun (n, i) => ⟨n, i, above⟩

/-- The way to what is directly inside a place. -/
def inside (p : Place) : List (Node × Nat) :=
  (p.node, p.index) :: p.above

/-- The places directly inside a place. -/
def children (p : Place) : List Place :=
  sideBySide p.inside 0 p.node.children

/-- A place among its siblings. -/
def row (p : Place) : List Place :=
  match p.above with
  | [] => [p]
  | (n, _) :: _ => sideBySide p.above 0 n.children

/-- Whether the node of a place is an element. -/
def isElement (p : Place) : Bool :=
  p.node.isElement

/-- The siblings before a place that are elements, the nearest first. -/
def earlier (p : Place) : List Place :=
  ((p.row.take p.index).filter isElement).reverse

/-- The siblings behind a place that are elements, the nearest first. -/
def later (p : Place) : List Place :=
  (p.row.drop (p.index + 1)).filter isElement

mutual
/-- A node that stands somewhere and all below it, in document order. -/
def walk (framed : Bool) (above : List (Node × Nat)) (i : Nat) : Node → List Place
  | .text kind s => [⟨.text kind s, i, above⟩]
  | .element name attributes children =>
    let n := Node.element name attributes children
    ⟨n, i, above⟩ ::
      if framed && n.isFrame then [] else walkAll framed ((n, i) :: above) 0 children

/-- Nodes that stand side by side and all below them, in document order. -/
def walkAll (framed : Bool) (above : List (Node × Nat)) (i : Nat) : List Node → List Place
  | [] => []
  | n :: ns => walk framed above i n ++ walkAll framed above (i + 1) ns
end

/-- All elements below a place, in document order. -/
def descendants (framed : Bool) (p : Place) : List Place :=
  if framed && p.node.isFrame then []
  else (walkAll framed p.inside 0 p.node.children).filter isElement

/-- The elements directly inside a place. -/
def elements (framed : Bool) (p : Place) : List Place :=
  if framed && p.node.isFrame then [] else p.children.filter isElement

/-- The document that a place belongs to. -/
def documentOf (p : Place) : Place :=
  p.above.getLast?.elim p fun (n, i) => ⟨n, i, []⟩

/-- The first element of a document outside all others. -/
def rootOf (document : Place) : Option Place :=
  (document.elements false).head?

end Place

end Harvest.Markup
