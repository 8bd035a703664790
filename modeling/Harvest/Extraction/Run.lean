import Harvest.Rule.Plan

/-!
# Runs of an extraction

An extraction works on a tree that it knows only through a `View`: a node can be searched by a
selector, and asked for its text and its attributes.  A `Run` is what an extraction does, the list of
its accesses to the tree, together with what it yields, a result or the `Failure` that ended it.

Runs are sequenced with `Run.bind`: a run that fails makes no further access.
-/

namespace Harvest.Extraction

/-- Why a search failed other than by a malformed selector. -/
inductive SearchError where
  /-- The selector has a value that is out of range. -/
  | invalid (message : String)
  /-- The selector uses something that is not supported. -/
  | unsupported (message : String)
  deriving Repr, DecidableEq

/-- The message of a search error. -/
def SearchError.message : SearchError → String
  | invalid message => message
  | unsupported message => message

/-- How a tree answers a search. -/
inductive Answer (ν : Type) where
  /-- The nodes below the searched one that match, in document order. -/
  | nodes (matched : List ν)
  /-- Nothing that could be gone through. -/
  | nothing
  /-- The selector is malformed, for this reason. -/
  | malformed (reason : String)
  /-- The search failed. -/
  | failed (error : SearchError)

/-- What an extraction can see of a tree. -/
structure View (ν : Type) where
  /-- The matches of a selector below a node. -/
  find : ν → String → Answer ν
  /-- The text of a node. -/
  text : ν → String
  /-- The value of an attribute, which is null where the node has none. -/
  attr : ν → String → Value

/-- An access to a tree. -/
inductive Access (ν : Type) where
  /-- A search below a node. -/
  | find (node : ν) (selector : String)
  /-- A look at the text of a node. -/
  | text (node : ν)
  /-- A look at an attribute of a node. -/
  | attr (node : ν) (name : String)

/-- Why an extraction fails. -/
inductive Failure where
  /-- A rule that was reached has a flaw. -/
  | rule (rule : Rule) (flaw : Rule.Flaw)
  /-- A search failed. -/
  | search (error : SearchError)
  /-- All matches are wanted and the tree answered with nothing. -/
  | noNodes
  /-- An attribute with several values has one at this index that is no text, but of this kind. -/
  | notText (index : Nat) (typeName : String)
  /-- A text would show an integer with too many digits. -/
  | longInteger

/-- The message of a failure. -/
def Failure.message : Failure → String
  | rule r flaw => r.message flaw
  | search error => error.message
  | noNodes => "'NoneType' object is not iterable"
  | notText index typeName =>
    "sequence item " ++ Text.natText index ++ ": expected str instance, " ++ typeName ++ " found"
  | longInteger => Text.Numeral.TooLong.written.message

/-- The failure for a flaw of a rule; one that cannot be told blames no rule. -/
def Failure.ofFlaw (r : Rule) : Rule.Flaw → Failure
  | .untold => .longInteger
  | flaw => .rule r flaw

theorem Failure.ofFlaw_of_ne {r : Rule} {flaw : Rule.Flaw} (h : flaw ≠ .untold) :
    Failure.ofFlaw r flaw = .rule r flaw := by
  cases flaw with
  | untold => exact absurd rfl h
  | _ => rfl

/-- A piece of an extraction: its accesses to the tree, in order, and its outcome. -/
structure Run (ν : Type) (α : Type) where
  /-- The accesses. -/
  accesses : List (Access ν)
  /-- What the run yields. -/
  outcome : Except Failure α

namespace Run

variable {ν α β : Type}

/-- The run that yields a value without any access. -/
def pure (a : α) : Run ν α :=
  ⟨[], .ok a⟩

/-- The run that fails without any access. -/
def fail (failure : Failure) : Run ν α :=
  ⟨[], .error failure⟩

/-- The run of one access. -/
def access (what : Access ν) (a : α) : Run ν α :=
  ⟨[what], .ok a⟩

/-- A run and, unless it fails, the run that its result leads to. -/
def bind (x : Run ν α) (f : α → Run ν β) : Run ν β :=
  match x.outcome with
  | .error failure => ⟨x.accesses, .error failure⟩
  | .ok a => ⟨x.accesses ++ (f a).accesses, (f a).outcome⟩

/-- A run with its result changed. -/
def map (f : α → β) (x : Run ν α) : Run ν β :=
  ⟨x.accesses, x.outcome.map f⟩

/-- The runs for the elements of a list, one after the other. -/
def forAll (f : α → Run ν β) : List α → Run ν (List β)
  | [] => pure []
  | a :: as => (f a).bind fun b => (forAll f as).map (b :: ·)

@[simp] theorem pure_bind (a : α) (f : α → Run ν β) : (pure a).bind f = f a := by
  simp [pure, bind]

@[simp] theorem fail_bind (failure : Failure) (f : α → Run ν β) :
    (fail failure).bind f = fail failure := rfl

@[simp] theorem bind_pure (x : Run ν α) : x.bind pure = x := by
  unfold bind pure
  cases x with
  | mk accesses outcome => cases outcome <;> simp

theorem bind_assoc {γ : Type} (x : Run ν α) (f : α → Run ν β) (g : β → Run ν γ) :
    (x.bind f).bind g = x.bind fun a => (f a).bind g := by
  unfold bind
  cases x with
  | mk accesses outcome =>
    cases outcome with
    | error failure => rfl
    | ok a => cases h : (f a).outcome <;> simp [h]

end Run

end Harvest.Extraction
