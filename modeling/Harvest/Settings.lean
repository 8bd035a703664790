import Harvest.Validation.Coerce

/-!
# Settings

`Defaults` are the settings of an extraction run and `Config` is a whole configuration: where output
goes, the defaults, and the rules as they were written.  Both are read from maps, in which every
field may be left out and is known by two spellings, the first of which wins.

A number of threads that was read is positive (`Defaults.one_le_threads_of_ofEntries`).
-/

namespace Harvest

open Validation

/-- What the records of a run hold. -/
inductive SourceType where
  /-- Text, or lists of texts. -/
  | json
  /-- Binary data, or text that encodes it. -/
  | binary
  deriving Repr, DecidableEq

/-- The names of the source types. -/
def SourceType.names : List (String × SourceType) :=
  [("json", .json), ("binary", .binary)]

/-- The name of a source type. -/
def SourceType.name : SourceType → String
  | .json => "json"
  | .binary => "binary"

/-- The settings of an extraction run. -/
structure Defaults where
  /-- How many records are worked on at a time. -/
  threads : Int := 20
  /-- Whether a failure becomes an error record instead of ending the run. -/
  continueOnFail : Bool := false
  /-- The markup parser. -/
  parser : String := "html.parser"
  /-- What the records hold. -/
  sourceType : SourceType := .json
  /-- The path of the markup inside a record. -/
  property : String := "data"
  deriving Repr, DecidableEq

namespace Defaults

/-- The number of threads. -/
def threadsField : FieldSpec Int := ⟨["threads"], check (atLeast 1), 20⟩

/-- Whether failures are tolerated. -/
def continueOnFailField : FieldSpec Bool :=
  ⟨["continueOnFail", "continue_on_fail"], check bool, false⟩

/-- The markup parser. -/
def parserField : FieldSpec String := ⟨["parser"], check text, "html.parser"⟩

/-- What the records hold. -/
def sourceTypeField : FieldSpec SourceType :=
  ⟨["sourceType", "source_type"], check (oneOf SourceType.names), .json⟩

/-- The path of the markup. -/
def propertyField : FieldSpec String :=
  ⟨["dataPropertyName", "data_property_name"], check text, "data"⟩

/-- The defaults that a map describes. -/
def ofEntries (es : Entries) : Checked Defaults :=
  let fields := (threadsField.read es).zip <| (continueOnFailField.read es).zip <|
    (parserField.read es).zip <| (sourceTypeField.read es).zip (propertyField.read es)
  fields.map fun (threads, continueOnFail, parser, sourceType, property) =>
    ⟨threads, continueOnFail, parser, sourceType, property⟩

/-- The defaults inside a configuration. -/
def checked (v : Value) : Checked Defaults :=
  (entries "Defaults" v).bind ofEntries

/-- The defaults that a value describes. -/
def ofValue (v : Value) : Except Report Defaults :=
  Checked.report "Defaults" (checked v)

end Defaults

/-- A configuration. -/
structure Config where
  /-- The name of the form in which records are written. -/
  strategy : String
  /-- The settings of the run. -/
  defaults : Defaults
  /-- The payload of the rules. -/
  rules : Value

namespace Config

/-- The form in which records are written. -/
def strategyField : FieldSpec String :=
  ⟨["persistenceStrategy", "persistence_strategy"], check text, "json_lines"⟩

/-- The settings of the run. -/
def defaultsField : FieldSpec Defaults := ⟨["defaults"], Defaults.checked, {}⟩

/-- The payload of the rules. -/
def rulesField : FieldSpec Value := ⟨["rules"], .ok, .text "[]"⟩

/-- The configuration that a map describes. -/
def ofEntries (es : Entries) : Checked Config :=
  let fields := (strategyField.read es).zip <|
    (defaultsField.read es).zip (rulesField.read es)
  fields.map fun (strategy, defaults, rules) => ⟨strategy, defaults, rules⟩

/-- The configuration that a value describes. -/
def ofValue (v : Value) : Except Report Config :=
  Checked.report "Config" ((entries "Config" v).bind ofEntries)

end Config

/-! ### The number of threads -/

theorem Validation.le_of_atLeast {bound : Nat} {v : Value} {n : Int}
    (h : atLeast bound v = .ok n) : bound ≤ n := by
  unfold atLeast at h
  split at h
  · cases h
  · split at h
    · cases h
    · cases h
      omega

theorem Defaults.one_le_threads_of_ofEntries {es : Entries} {d : Defaults}
    (h : Defaults.ofEntries es = .ok d) : 1 ≤ d.threads := by
  unfold Defaults.ofEntries at h
  simp only [Except.map] at h
  split at h
  next => cases h
  next v hv =>
    obtain ⟨threads, continueOnFail, parser, sourceType, property⟩ := v
    simp only [Checked.zip_eq_ok_iff] at hv
    cases h
    have ht := hv.1
    unfold FieldSpec.read at ht
    split at ht
    next key v hv =>
      simp only [threadsField, check, Checked.under] at ht
      cases ha : atLeast 1 v with
      | error p => simp [ha] at ht
      | ok n =>
        simp only [ha, Except.ok.injEq] at ht
        subst ht
        exact le_of_atLeast ha
    next =>
      rw [← Except.ok.inj ht]
      exact (by decide : (1 : Int) ≤ 20)

end Harvest
