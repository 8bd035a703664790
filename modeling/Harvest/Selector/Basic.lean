/-!
# Selectors

A selector is a list of alternatives.  An alternative (`Complex`) is a chain of compounds: a list of
tests on one element (`Simple`), and possibly the relation of that element to another one, for which
the rest of the chain holds.  A chain written from left to right is read from its right end, where the
matched element stands; in the argument of `:has()` it is read from the left.
-/

namespace Harvest.Selector

/-- How an element stands to another one. -/
inductive Relation where
  /-- It lies inside the other. -/
  | within
  /-- It is a child of the other. -/
  | childOf
  /-- It follows the other under the same parent. -/
  | after
  /-- It follows the other immediately. -/
  | rightAfter
  /-- The other lies inside it. -/
  | around
  /-- The other is a child of it. -/
  | parentOf
  /-- The other follows it under the same parent. -/
  | before
  /-- The other follows it immediately. -/
  | rightBefore
  deriving Repr, DecidableEq

/-- How the value of an attribute is compared with another text. -/
inductive Comparison where
  /-- It is the text. -/
  | equal
  /-- One of its words is the text. -/
  | word
  /-- It is the text, or goes on behind it with a hyphen. -/
  | dashed
  /-- It starts with the text. -/
  | starts
  /-- It ends with the text. -/
  | ends
  /-- The text occurs in it. -/
  | part
  deriving Repr, DecidableEq

/-- A test of an attribute. -/
structure AttributeTest where
  /-- The name of the attribute. -/
  name : String
  /-- What is asked of its value, if more than that it is there. -/
  comparison : Option (Comparison × String)
  /-- Whether letter case is ignored in the value. -/
  ignoreCase : Bool
  deriving Repr, DecidableEq

/-- A test of the text of an element: one of some texts occurs in it. -/
structure TextTest where
  /-- Whether only the texts directly inside the element count, each on its own. -/
  own : Bool
  /-- The texts. -/
  texts : List String
  deriving Repr, DecidableEq

/-- The places of a list that a formula picks: one, or every `scale * n + offset` for a natural `n`. -/
inductive Places where
  /-- The place of this number, counted from one. -/
  | only (place : Int)
  /-- The places of an arithmetic progression. -/
  | every (scale offset : Int)
  deriving Repr, DecidableEq

/-- How the place of an element among its siblings is counted. -/
structure Counting where
  /-- The places that are picked. -/
  places : Places
  /-- Whether only elements of the same name count. -/
  sameName : Bool
  /-- Whether places are counted from the end. -/
  fromEnd : Bool
  deriving Repr, DecidableEq

mutual
/-- A test of one element. -/
inductive Simple where
  /-- The test that fails. -/
  | never
  /-- The name of the element, and the prefix of its namespace where one is written. -/
  | tag (space : Option String) (name : String)
  /-- The identifier of the element. -/
  | id (name : String)
  /-- A class of the element. -/
  | cls (name : String)
  /-- An attribute of the element. -/
  | attr (test : AttributeTest)
  /-- The text of the element; several tests share one reading of it. -/
  | text (tests : List TextTest)
  /-- The element is the root of its document. -/
  | root
  /-- The element is where the search starts. -/
  | scope
  /-- The element is empty. -/
  | empty
  /-- The place of the element among its siblings that match one of some alternatives; without
  alternatives all siblings count. -/
  | nth (counting : Counting) (among : List Complex)
  /-- One of some alternatives holds. -/
  | anyOf (alternatives : List Complex)
  /-- None of some alternatives holds. -/
  | noneOf (alternatives : List Complex)
  /-- One of some alternatives holds, and no ancestor outside the frame of the element is seen. -/
  | framed (alternatives : List Complex)

/-- A chain of compounds. -/
inductive Complex where
  /-- A compound without a relation. -/
  | alone (tests : List Simple)
  /-- A compound, and its relation to an element for which the rest of the chain holds. -/
  | related (tests : List Simple) (relation : Relation) (other : Complex)
end

instance : Inhabited Complex := ⟨.alone []⟩

/-- A compound with what stands to the left of it. -/
def Complex.ofLeft (tests : List Simple) : Option (Relation × Complex) → Complex
  | none => .alone tests
  | some (relation, other) => .related tests relation other

/-- A chain that is read from the left, from an element that nothing is asked of. -/
def Complex.ofChain : List (Relation × List Simple) → Complex
  | links => go [] links
where
  /-- The chain that starts with a compound. -/
  go (tests : List Simple) : List (Relation × List Simple) → Complex
    | [] => .alone tests
    | (relation, next) :: links => .related tests relation (go next links)

/-! ### The states of form fields and links -/

/-- The test that an element has one of some names. -/
def Simple.oneOf (names : List String) : Simple :=
  .anyOf (names.map fun name => .alone [.tag none name])

/-- The test that an element has an attribute. -/
def Simple.has (name : String) : Simple :=
  .attr ⟨name, none, false⟩

/-- The test that the type of an element is a word. -/
def Simple.type (value : String) : Simple :=
  .attr ⟨"type", some (.equal, value), true⟩

/-- The test for a visible `input`. -/
def Complex.visibleInput : Complex :=
  .alone [.tag none "input", .noneOf [.alone [.type "hidden"]]]

/-- The test for a field of a form, or for another element that has one of some names. -/
def Simple.fieldOr (names : List String) : Simple :=
  .anyOf (.visibleInput ::
    (["button", "select", "textarea", "fieldset"] ++ names).map fun name =>
      .alone [.tag none name])

/-- A link. -/
def Simple.link : Simple :=
  .framed [.alone [.oneOf ["a", "area"], .has "href"]]

/-- A box or an option that is chosen. -/
def Simple.checked : Simple :=
  .framed [
    .alone [
      .anyOf [.alone [.tag none "input", .type "checkbox"],
        .alone [.tag none "input", .type "radio"]],
      .has "checked"],
    .alone [.tag none "option", .has "selected"]]

/-- A field that is disabled, itself or by the group that it belongs to; the fields in the first
legend of a group are not. -/
def Simple.disabled : Simple :=
  let group := Complex.alone [.tag none "fieldset", .has "disabled"]
  .framed [
    .alone [.fieldOr ["optgroup", "option"], .has "disabled"],
    .related [.tag none "option"] .childOf
      (.alone [.tag none "optgroup", .has "disabled"]),
    .related [.fieldOr []] .childOf group,
    .related [.fieldOr []] .within
      (.related
        [.noneOf [.alone [.tag none "legend", .nth ⟨.only 1, true, false⟩ []]]] .childOf group)]

/-- A field that is not disabled. -/
def Simple.enabled : Simple :=
  .framed [.alone [.fieldOr ["optgroup", "option"], .noneOf [.alone [.disabled]]]]

/-- A field that must be filled in. -/
def Simple.required : Simple :=
  .framed [.alone [.oneOf ["input", "select", "textarea"], .has "required"]]

/-- A field that need not be filled in. -/
def Simple.optional : Simple :=
  .framed [.alone [.oneOf ["input", "select", "textarea"], .noneOf [.alone [.has "required"]]]]

end Harvest.Selector
