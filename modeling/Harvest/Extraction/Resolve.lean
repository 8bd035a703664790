import Harvest.Extraction.Run
import Harvest.Text.Fold

/-!
# Resolving rules

`resolve` applies rules to a node of a tree and yields a map.  The rules are applied in order, each
searching below the node; a rule that is reached and has a flaw ends the extraction.  A rule for all
matches yields a list, any other rule the value of the first match, or no entry where nothing
matches.  A later rule replaces the value of an earlier one of the same name.

`resolve` follows the plans of the rules (`Rule.plan`), so it ends whatever the tree answers.
-/

namespace Harvest.Extraction

variable {ν : Type}

/-- The texts of a list of values, of which the first stands at an index of a longer list. -/
def textsFrom (index : Nat) : List Value → Except Failure (List String)
  | [] => .ok []
  | .text s :: vs => (textsFrom (index + 1) vs).map (s :: ·)
  | v :: _ => .error (.notText index v.typeName)

/-- An attribute's value as one text: several values are joined with spaces, and an absent one is
empty. -/
def attributeText : Value → Except Failure String
  | .null => .ok ""
  | .list vs => (textsFrom 0 vs).map (" ".intercalate ·)
  | .tuple vs => (textsFrom 0 vs).map (" ".intercalate ·)
  | v => v.shown?.elim (.error .longInteger) .ok

/-- The text of a node, folded. -/
def nodeText (view : View ν) (node : ν) : String :=
  Text.fold (view.text node)

/-- The run that reads the text of a node. -/
def readText (view : View ν) (node : ν) : Run ν Value :=
  .access (.text node) (.text (nodeText view node))

/-- The run that reads an attribute of a node; without a name it reads nothing. -/
def readAttribute (view : View ν) (name : Option String) (node : ν) : Run ν Value :=
  match name with
  | none => .pure (.text "")
  | some "" => .pure (.text "")
  | some name =>
    (Run.access (.attr node name) (view.attr node name)).bind fun v =>
      match attributeText v with
      | .ok s => .pure (.text s)
      | .error failure => .fail failure

/-- The run that lets a rule pass unless its plan has a flaw. -/
def sound (r : Rule) (p : Plan) : Run ν Unit :=
  match p.flaw? with
  | some flaw => .fail (.ofFlaw r flaw)
  | none => .pure ()

/-- What a rule stores, given the answer to its search and the run that makes a value of a node. -/
def collect (r : Rule) (p : Plan) (value : ν → Run ν Value) : Answer ν → Run ν (Option Value)
  | .malformed reason => .fail (.rule r (.selector reason))
  | .failed error => .fail (.search error)
  | .nothing =>
    if r.multi = some true then (sound r p).bind fun _ => .fail .noNodes else .pure none
  | .nodes matched =>
    if r.multi = some true then
      (sound r p).bind fun _ => (Run.forAll value matched).map fun vs => some (.list vs)
    else
      match matched with
      | [] => .pure none
      | node :: _ => (sound r p).bind fun _ => (value node).map some

/-- What a rule stores: it searches below a node, unless its selector is absent or empty. -/
def apply (view : View ν) (node : ν) (r : Rule) (p : Plan) (value : ν → Run ν Value) :
    Run ν (Option Value) :=
  match r.selector with
  | none => .pure none
  | some "" => .pure none
  | some selector =>
    (Run.access (.find node selector) (view.find node selector)).bind (collect r p value)

/-- The entries with what a rule stores. -/
def store (r : Rule) (acc : Entries) : Option Value → Entries
  | none => acc
  | some v => acc.put r.name v

mutual
/-- The value that a plan makes of a node. -/
def follow (view : View ν) (r : Rule) : Plan → ν → Run ν Value
  | .text, node => readText view node
  | .attr name, node => readAttribute view name node
  | .object steps, node => (fill view node steps []).map .map
  | .flawed flaw, _ => .fail (.ofFlaw r flaw)

/-- The entries with what some rules store, applied to a node in order. -/
def fill (view : View ν) (node : ν) : List (Rule × Plan) → Entries → Run ν Entries
  | [], acc => .pure acc
  | (r, p) :: steps, acc =>
    (apply view node r p (fun m => follow view r p m)).bind fun v =>
      fill view node steps (store r acc v)
end

/-- The map that some rules make of a node. -/
def resolve (view : View ν) (node : ν) (rules : List Rule) : Run ν Entries :=
  fill view node (Rule.plans rules) []

end Harvest.Extraction
