import Harvest.Text.Case
import Harvest.Validation.Coerce
import Harvest.Value.Depth

/-!
# Extraction rules

A rule says what to take from a document: the nodes that a selector matches, all of them or the
first one (`multi`), and of each node its text, an attribute or, through nested rules, a map.  The
result is stored under the rule's name.

A rule is read from a map (`Rule.ofEntries`); each field has two spellings, of which the first
wins.  Only the shape is checked then.  Whether the declared kind is known (`Rule.kind`) and fits
the source of the value (`Rule.attributeName`, `Rule.nested`) is decided when the rule is
applied, and what is wrong is a `Flaw`.  The message for a flaw may show a value; where an integer in
that value has too many digits there is no such message, and the flaw stays untold (`Flaw.showing`).
-/

namespace Harvest

/-- An extraction rule. -/
structure Rule where
  /-- The key that the extracted value is stored under. -/
  name : String
  /-- The selector of the nodes; without one the rule is passed over. -/
  selector : Option String
  /-- The declared kind of value. -/
  declared : Value
  /-- Where in a node the value comes from: an attribute's name or a list of nested rules. -/
  source : Value
  /-- Whether all matches are used, or the first one only. -/
  multi : Option Bool
  deriving Inhabited

namespace Rule

/-- A rule as a value. -/
def toValue (r : Rule) : Value :=
  .rule r.name r.selector r.declared r.source r.multi

/-! ### Reading a rule -/

section Fields

open Validation

/-- The check that lets everything pass. -/
def anything (v : Value) : Checked Value :=
  .ok v

/-- A value that may be absent. -/
def optional {α : Type} (rule : Value → Except Problem α) : Value → Checked (Option α)
  | .null => .ok none
  | v => (check rule v).map some

/-- The name of a rule. -/
def nameField : FieldSpec String := ⟨["varName", "var_name"], check text, ""⟩

/-- The selector of a rule. -/
def selectorField : FieldSpec (Option String) := ⟨["selector"], optional text, none⟩

/-- The declared kind of a rule. -/
def declaredField : FieldSpec Value := ⟨["valueType", "value_type"], anything, .null⟩

/-- The source of a rule. -/
def sourceField : FieldSpec Value := ⟨["valueBy", "value_by"], anything, .null⟩

/-- The cardinality of a rule. -/
def multiField : FieldSpec (Option Bool) := ⟨["multi"], optional bool, some false⟩

/-- The rule that a map describes. -/
def ofEntries (es : Entries) : Checked Rule :=
  let fields := (nameField.read es).zip <| (selectorField.read es).zip <|
    (declaredField.read es).zip <| (sourceField.read es).zip (multiField.read es)
  fields.map fun (name, selector, declared, source, multi) =>
    ⟨name, selector, declared, source, multi⟩

/-- The rule that a value describes: a map is read, and a rule is taken as it is. -/
def ofValue : Value → Except Report Rule
  | .rule name selector declared source multi => .ok ⟨name, selector, declared, source, multi⟩
  | v => Checked.report "Rule" (entries "Rule" v |>.bind ofEntries)

end Fields

/-- The declared kind and the source of a rule that was read from a map are fields of the map. -/
theorem read_of_ofEntries {es : Entries} {r : Rule} (h : ofEntries es = .ok r) :
    declaredField.read es = .ok r.declared ∧ sourceField.read es = .ok r.source := by
  unfold ofEntries at h
  simp only [Except.map] at h
  split at h
  next => cases h
  next v hv =>
    obtain ⟨name, selector, declared, source, multi⟩ := v
    simp only [Validation.Checked.zip_eq_ok_iff] at hv
    cases h
    exact ⟨hv.2.2.1, hv.2.2.2.1⟩

/-- A field that is taken as it is, and is null by default, is less deep than its map. -/
theorem depth_lt_of_read {names : List String} {es : Entries} {v : Value}
    (h : Validation.FieldSpec.read ⟨names, anything, .null⟩ es = .ok v) :
    v.depth < (Value.map es).depth := by
  unfold Validation.FieldSpec.read at h
  split at h
  next key w hw =>
    cases h
    obtain ⟨name, _, hw⟩ := List.exists_of_findSome?_eq_some hw
    obtain ⟨v, hv, he⟩ := Option.map_eq_some_iff.1 hw
    cases he
    exact Value.depth_lt_of_get? hv
  next =>
    cases h
    simp [Value.depth]

/-- The declared kind of a rule that was read from a map is part of the map. -/
theorem depth_declared_lt_of_ofEntries {es : Entries} {r : Rule} (h : ofEntries es = .ok r) :
    r.declared.depth < (Value.map es).depth :=
  depth_lt_of_read (read_of_ofEntries h).1

/-- The source of a rule that was read from a map is part of the map. -/
theorem depth_source_lt_of_ofEntries {es : Entries} {r : Rule} (h : ofEntries es = .ok r) :
    r.source.depth < (Value.map es).depth :=
  depth_lt_of_read (read_of_ofEntries h).2

/-- A field that is taken as it is can be written if the values of the map can be. -/
theorem isShort_of_read {names : List String} {es : Entries} {v : Value}
    (h : Validation.FieldSpec.read ⟨names, anything, .null⟩ es = .ok v)
    (hes : ∀ e ∈ es, e.2.isShort = true) : v.isShort = true := by
  unfold Validation.FieldSpec.read at h
  split at h
  next key w hw =>
    cases h
    obtain ⟨name, _, hw⟩ := List.exists_of_findSome?_eq_some hw
    obtain ⟨v, hv, he⟩ := Option.map_eq_some_iff.1 hw
    cases he
    exact hes _ (Entries.mem_of_get? hv)
  next =>
    cases h
    rfl

/-- A rule that was read from a map can be written if the values of the map can be. -/
theorem isShort_of_ofEntries {es : Entries} {r : Rule} (h : ofEntries es = .ok r)
    (hes : ∀ e ∈ es, e.2.isShort = true) : r.toValue.isShort = true := by
  obtain ⟨hdeclared, hsource⟩ := read_of_ofEntries h
  rw [toValue, Value.isShort, isShort_of_read hdeclared hes, isShort_of_read hsource hes]
  rfl

/-! ### Applying a rule -/

/-- What a rule makes of a node. -/
inductive Kind where
  /-- The text of the node. -/
  | text
  /-- An attribute of the node. -/
  | attr
  /-- A map that nested rules fill. -/
  | object
  deriving Repr, DecidableEq

/-- The spellings of the kinds. -/
def Kind.spellings : List (String × Kind) :=
  [("text", .text), ("attr", .attr), ("attribute", .attr), ("object", .object)]

/-- The first spelling of a kind. -/
def Kind.spelling : Kind → String
  | .text => "text"
  | .attr => "attr"
  | .object => "object"

/-- The kind that a text declares; blanks around it and letter case do not matter. -/
def Kind.ofText? (s : String) : Option Kind :=
  spellings.lookup (String.ofList (Text.lower (Text.trim s.toList)))

/-- What is wrong with a rule that is applied. -/
inductive Flaw where
  /-- Its selector cannot be read, for this reason. -/
  | selector (reason : String)
  /-- Its declared kind, which is shown like this, is unknown. -/
  | kind (declared : String)
  /-- Its source is no attribute name; the declared kind is shown like this. -/
  | attributeName (declared : String)
  /-- Its source is no list of rules. -/
  | noRules
  /-- Its source is a list in which a rule is invalid, for this reason. -/
  | nestedRules (reason : String)
  /-- Its flaw cannot be told: the message would show an integer with too many digits. -/
  | untold
  deriving Repr, DecidableEq

/-- The flaw of which the message shows a value. -/
def Flaw.showing (v : Value) (flaw : String → Flaw) : Flaw :=
  v.shown?.elim .untold flaw

theorem Flaw.showing_of_short {v : Value} (h : v.isShort = true) (flaw : String → Flaw) :
    ∃ shown, Flaw.showing v flaw = flaw shown := by
  obtain ⟨shown, hshown⟩ := Option.isSome_iff_exists.1 (v.isSome_shown?.trans h)
  exact ⟨shown, by rw [showing, hshown]; rfl⟩

theorem Flaw.showing_of_long {v : Value} (h : v.isShort = false) (flaw : String → Flaw) :
    Flaw.showing v flaw = .untold := by
  rw [← Value.isSome_shown?, Option.isSome_eq_false_iff, Option.isNone_iff_eq_none] at h
  rw [showing, h]
  rfl

/-- The message for a flaw of a rule.  It starts with the name of the rule, unless the flaw cannot be
told. -/
def message (r : Rule) (flaw : Flaw) : String :=
  let blame (text : String) := r.name ++ ": " ++ text
  match flaw with
  | .selector reason =>
    blame ("invalid selector " ++ Value.optionalText r.selector ++ ": " ++ reason)
  | .kind declared => blame ("invalid valueType: " ++ declared)
  | .attributeName declared =>
    blame ("valueBy must be an attribute name for valueType " ++ declared ++ ", got " ++
      r.source.typeName)
  | .noRules =>
    blame ("valueBy must be a list of rules for valueType object, got " ++ r.source.typeName)
  | .nestedRules reason => blame ("nested rules are invalid: " ++ reason)
  | .untold => Text.Numeral.TooLong.written.message

/-- The kind that a rule declares. -/
def kind (r : Rule) : Except Flaw Kind :=
  (r.declared.text?.bind Kind.ofText?).elim (.error (.showing r.declared .kind)) .ok

/-- The attribute that a rule names, if it names one. -/
def attributeName (r : Rule) : Except Flaw (Option String) :=
  match r.source with
  | .null => .ok none
  | .text s => .ok (some s)
  | _ => .error (.showing r.declared .attributeName)

end Rule

end Harvest
