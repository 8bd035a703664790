import Harvest.Markup.Place
import Harvest.Selector.Read
import Harvest.Text.Blank

/-!
# Matching selectors

`Complex.holds` says whether a chain holds at a place of a document, and `select` lists the elements
below a place at which a selector holds, in document order.  Ancestors and siblings outside that place
take part: the document itself counts as an ancestor without attributes.

Names of elements and attributes are compared without regard to the case of ASCII letters; all else is
compared exactly unless a test says otherwise.
-/

namespace Harvest.Selector

open Markup

/-! ### Texts -/

/-- Whether a text occurs in another. -/
def occursIn (s : List Char) : List Char → Bool
  | [] => s.isEmpty
  | c :: cs => s.isPrefixOf (c :: cs) || occursIn s cs

/-- What follows a text at the head of another one, under some sameness of characters. -/
def behindPrefix? (same : Char → Char → Bool) : List Char → List Char → Option (List Char)
  | [], cs => some cs
  | _ :: _, [] => none
  | a :: as, c :: cs => if same a c then behindPrefix? same as cs else none

/-- Whether a test holds of some end of a text, the whole and the empty one included. -/
def anyTail (holds : List Char → Bool) : List Char → Bool
  | [] => holds []
  | c :: cs => holds (c :: cs) || anyTail holds cs

/-- Whether a character separates words. -/
def isSeparator (c : Char) : Bool :=
  c == ' ' || c == '\t' || c == '\r' || c == '\n' || c == '\x0c'

/-- The words of a text. -/
def words (cs : List Char) : List (List Char) :=
  (cs.splitBy fun a b => !isSeparator a && !isSeparator b).filter fun w => !w.all isSeparator

/-- Whether a value compares to a text. -/
def Comparison.holds (k : Comparison) (ignoreCase : Bool) (s value : List Char) : Bool :=
  let same (a b : Char) : Bool := if ignoreCase then Text.alike a b else a == b
  let startsAt (cs : List Char) : Bool := (behindPrefix? same s cs).isSome
  let endsAt (cs : List Char) : Bool := (behindPrefix? same s cs).any atEnd
  match k with
  | .equal => endsAt value
  | .starts => !s.isEmpty && startsAt value
  | .ends => !s.isEmpty && anyTail endsAt value
  | .part => !s.isEmpty && anyTail startsAt value
  | .dashed => (behindPrefix? same s value).any fun rest => atEnd rest || rest.head? == some '-'
  | .word =>
    !s.isEmpty && !s.any isSeparator &&
      (words value).any fun w => (behindPrefix? same s w).any List.isEmpty

/-- The value of an attribute, whose name is compared without regard to case. -/
def attributeOf (n : Node) (name : String) : Option String :=
  (n.attributes.find? fun a => Text.lowerAscii a.1 == Text.lowerAscii name).map Prod.snd

/-- Whether the test of an attribute holds for a node. -/
def AttributeTest.holds (t : AttributeTest) (n : Node) : Bool :=
  match attributeOf n t.name, t.comparison with
  | none, _ => false
  | some _, none => true
  | some value, some (k, s) => k.holds t.ignoreCase s.toList value.toList

mutual
/-- The texts in a node that are read by tests of its text; frames hide what is in them. -/
def textsIn : Node → List String
  | .text kind s => if kind.isHidden then [] else [s]
  | .element name attributes children =>
    if (Node.element name attributes children).isFrame then [] else textsInAll children

/-- The texts in some nodes. -/
def textsInAll : List Node → List String
  | [] => []
  | n :: ns => textsIn n ++ textsInAll ns
end

/-- The texts directly inside a node. -/
def ownTexts (n : Node) : List String :=
  if n.isFrame then []
  else n.children.filterMap fun
    | .text kind s => if kind.isHidden then none else some s
    | .element .. => none

/-- Whether tests of the text of a node hold.  The text is read once, as the first test wants it: the
tests that follow look into what was read. -/
def textsHold (n : Node) (tests : List TextTest) : Bool :=
  let occurs (s t : String) : Bool := occursIn s.toList t.toList
  match tests with
  | [] => true
  | first :: _ =>
    if first.own then
      let parts := ownTexts n
      tests.all fun t =>
        t.texts.any fun s => if t.own then parts.any (occurs s) else parts.contains s
    else
      let whole := String.join (textsIn n)
      tests.all fun t =>
        t.texts.any fun s =>
          if t.own then whole.toList.any fun c => occurs s c.toString else occurs s whole

/-! ### Places -/

/-- Where a search takes place. -/
structure Search where
  /-- The address of the element that the search starts from. -/
  scope : Option (List Nat)
  /-- The address of the root of the document. -/
  root : Option (List Nat)
  /-- Whether frames are borders. -/
  framed : Bool

/-- The places that a place may stand to in a relation. -/
def Relation.candidates (r : Relation) (framed : Bool) (p : Place) : List Place :=
  match r with
  | .within => p.ancestors framed
  | .childOf => (p.ancestors framed).take 1
  | .after => p.earlier
  | .rightAfter => p.earlier.take 1
  | .around => p.descendants framed
  | .parentOf => p.elements framed
  | .before => p.later
  | .rightBefore => p.later.take 1

/-- Whether a node beside an element shows that the element is not alone. -/
def isCompany : Node → Bool
  | .element .. => true
  | .text kind s => kind == .cdata || (!kind.isHidden && !s.toList.all Text.isBlank)

/-- Whether a place is that of a root: of the document or of a frame, with nothing beside it. -/
def isRoot (search : Search) (p : Place) : Bool :=
  (search.root == some p.address || p.parent?.any (·.node.isFrame)) &&
    !(p.row.eraseIdx p.index).any fun q => isCompany q.node

/-- Whether a node is empty: white space and comments do not count, and a frame is always empty. -/
def isEmpty (n : Node) : Bool :=
  n.isFrame || n.children.all fun
    | .element .. => false
    | .text kind s => kind.isHidden || s.toList.all isSeparator

/-- Whether an element has a name. -/
def hasName (n : Node) (name : String) : Bool :=
  name == "*" || Text.lowerAscii name == Text.lowerAscii n.name

/-- Whether the prefix of a namespace can stand before the name of an element.  No prefix is ever
declared, so this is the star only. -/
def isOpenSpace (space : Option String) : Bool :=
  space.all (· == "*")

/-- Whether a place of a list is picked. -/
def Places.holds (places : Places) (place : Int) : Bool :=
  match places with
  | .only n => place == n
  | .every scale offset =>
    if scale == 0 then place == offset
    else (place - offset) % scale == 0 && 0 ≤ (place - offset) / scale

/-- Whether a node counts beside another one. -/
def Counting.counts (counting : Counting) (n other : Node) : Bool :=
  !counting.sameName || Text.lowerAscii n.name == Text.lowerAscii other.name

mutual
/-- Whether a test holds at a place. -/
def Simple.holds (search : Search) : Simple → Place → Bool
  | .never, _ => false
  | .tag space name, p => isOpenSpace space && hasName p.node name
  | .id name, p => (attributeOf p.node "id").getD "" == name
  | .cls name, p =>
    (words ((attributeOf p.node "class").getD "").toList).contains name.toList
  | .attr test, p => test.holds p.node
  | .text tests, p => textsHold p.node tests
  | .root, p => isRoot search p
  | .scope, p => search.scope == some p.address
  | .empty, p => isEmpty p.node
  | .nth counting among, p =>
    let counts (q : Place) : Bool :=
      q.isElement && counting.counts p.node q.node &&
        (among.isEmpty || anyHolds search among q)
    let seen := p.row.filter fun q =>
      if counting.fromEnd then p.index ≤ q.index else q.index ≤ p.index
    counts p && counting.places.holds (seen.countP counts)
  | .anyOf alternatives, p => anyHolds search alternatives p
  | .noneOf alternatives, p => !anyHolds search alternatives p
  | .framed alternatives, p => anyHolds { search with framed := true } alternatives p

/-- Whether all of some tests hold at a place. -/
def allHold (search : Search) : List Simple → Place → Bool
  | [], _ => true
  | t :: ts, p => Simple.holds search t p && allHold search ts p

/-- Whether a chain holds at a place. -/
def Complex.holds (search : Search) : Complex → Place → Bool
  | .alone tests, p => allHold search tests p
  | .related tests relation other, p =>
    allHold search tests p &&
      (relation.candidates search.framed p).any fun q => Complex.holds search other q

/-- Whether one of some chains holds at a place. -/
def anyHolds (search : Search) : List Complex → Place → Bool
  | [], _ => false
  | c :: cs, p => Complex.holds search c p || anyHolds search cs p
end

/-- The search from a place. -/
def Search.from (p : Place) : Search :=
  let root := p.documentOf.rootOf.map Place.address
  ⟨if p.isTop then root else some p.address, root, false⟩

/-- The elements below a place at which one of some alternatives holds, in document order. -/
def select (alternatives : List Complex) (p : Place) : List Place :=
  (p.descendants false).filter (anyHolds (Search.from p) alternatives)

end Harvest.Selector
