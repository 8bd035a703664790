import Harvest.Command.Run
import Mathlib.Data.List.Forall2

/-!
# What a run works on

A run reads a configuration, rules and items from files before it does anything else.  `Sources` are
what the files hold for some options: the configuration; the rules of the file that is named for
them, or else of the configuration; and the records of each input file, in the order of the command
line.  Whatever is prepared for a run comes from them (`exists_sources_of_prepare`).
-/

namespace Harvest

/-! ### Pieces of a run -/

namespace Log.Told

variable {ε α β : Type}

theorem outcome_bind_eq_ok_iff {x : Told ε α} {f : α → Told ε β} {b : β} :
    (x >>= f).outcome = .ok b ↔ ∃ a, x.outcome = .ok a ∧ (f a).outcome = .ok b := by
  obtain ⟨log, outcome⟩ := x
  cases outcome with
  | error e =>
    constructor
    · intro h
      cases h
    · rintro ⟨a, ha, -⟩
      cases ha
  | ok a =>
    constructor
    · intro h
      exact ⟨a, rfl, h⟩
    · rintro ⟨_, ha, h⟩
      cases ha
      exact h

end Log.Told

namespace Command

open Extraction (Engine)
open Log (Told)

variable {s : Store} {o : Options}

/-! ### Inputs -/

/-- The records of several inputs are those of each, one after the other. -/
theorem readAllInputs_eq_ok_iff {items : Bool} {paths : List String} {records : List Value} :
    readAllInputs s items paths = .ok records ↔
      ∃ blocks, List.Forall₂ (fun path block => readInput s items path = .ok block) paths blocks ∧
        records = blocks.flatten := by
  induction paths generalizing records with
  | nil =>
    simp only [readAllInputs, List.forall₂_nil_left_iff, exists_eq_left, List.flatten_nil,
      Except.ok.injEq, eq_comm]
  | cons path paths ih =>
    rw [readAllInputs]
    constructor
    · intro h
      split at h
      · cases h
      next block hblock =>
        cases hrest : readAllInputs s items paths with
        | error e =>
          rw [hrest] at h
          cases h
        | ok rest =>
          rw [hrest] at h
          cases h
          obtain ⟨blocks, hblocks, rfl⟩ := ih.1 hrest
          exact ⟨block :: blocks, .cons hblock hblocks, by simp⟩
    · rintro ⟨_, hblocks, rfl⟩
      cases hblocks with
      | @cons _ block _ blocks hblock hblocks =>
        simp only [hblock, ih.2 ⟨blocks, hblocks, rfl⟩, Except.map, List.flatten_cons]

/-! ### Sources -/

/-- What a run with some options works on, as its files hold it.  A file of rules that has no name
counts as none. -/
structure Sources (s : Store) (o : Options) where
  /-- The configuration. -/
  config : Config
  /-- The rules. -/
  rules : List Rule
  /-- The records of each input. -/
  blocks : List (List Value)
  readConfig_eq : readConfig s (.ofText o.config) = .ok config
  readRules_eq : ∀ path, o.rules = some path → path ≠ "" →
    readRules s (.ofText path) = .ok rules
  parse_eq : (∀ path, o.rules = some path → path = "") → Rule.parse config.rules = .ok rules
  readInput_eq : List.Forall₂ (fun path block => readInput s o.items path = .ok block)
    o.inputs blocks

namespace Sources

/-- The settings of the batch. -/
def defaults (src : Sources s o) : Defaults :=
  override src.config.defaults o

/-- The items of the batch. -/
def items (src : Sources s o) : List Value :=
  src.blocks.flatten

/-- What the batch yields. -/
def outcome (E : Engine) (src : Sources s o) : Batch.Outcome :=
  Batch.runWith E src.defaults src.items (.ok src.rules)

/-- What is to be extracted. -/
def job (src : Sources s o) : Job :=
  ⟨src.config.strategy, src.defaults, src.rules, src.items⟩

end Sources

/-- The JSON texts that a run may read: the configuration, the rules, which it may hold as text, and the
files of records. -/
def jsonTexts (s : Store) (o : Options) : List String :=
  let paths := o.config :: o.rules.toList ++ if o.items then o.inputs else []
  let rules := (readConfig s (.ofText o.config)).toOption.bind (·.rules.text?)
  paths.filterMap (fun path => (s.readText (.ofText path)).toOption) ++ rules.toList

/-- Every JSON text that a run may read is paired, so that there are bytes for whatever it spells. -/
def ReadsPaired (s : Store) (o : Options) : Prop :=
  ∀ text ∈ jsonTexts s o, Json.Paired text

instance (s : Store) (o : Options) : Decidable (ReadsPaired s o) :=
  inferInstanceAs (Decidable (∀ text ∈ jsonTexts s o, _))

theorem outcome_loadConfig {path : String} {config : Config}
    (h : (loadConfig s path).outcome = .ok config) : readConfig s (.ofText path) = .ok config := by
  obtain ⟨-, -, h⟩ := Told.outcome_bind_eq_ok_iff.1 h
  obtain ⟨-, -, h⟩ := Told.outcome_bind_eq_ok_iff.1 h
  obtain ⟨config', hread, h⟩ := Told.outcome_bind_eq_ok_iff.1 h
  obtain ⟨-, -, h⟩ := Told.outcome_bind_eq_ok_iff.1 h
  cases h
  exact hread

theorem outcome_loadRules {path : String} {rules : List Rule}
    (h : (loadRules s path).outcome = .ok rules) : readRules s (.ofText path) = .ok rules := by
  obtain ⟨-, -, h⟩ := Told.outcome_bind_eq_ok_iff.1 h
  obtain ⟨-, -, h⟩ := Told.outcome_bind_eq_ok_iff.1 h
  exact h

theorem outcome_readInputs {paths : List String} {items : Bool} {records : List Value}
    (h : (readInputs s paths items).outcome = .ok records) :
    readAllInputs s items paths = .ok records := by
  obtain ⟨records', hread, h⟩ := Told.outcome_bind_eq_ok_iff.1 h
  obtain ⟨-, -, h⟩ := Told.outcome_bind_eq_ok_iff.1 h
  cases h
  exact hread

theorem outcome_chooseRules {config : Config} {rules : List Rule}
    (h : (chooseRules s o config).outcome = .ok rules) :
    (∀ path, o.rules = some path → path ≠ "" → readRules s (.ofText path) = .ok rules) ∧
      ((∀ path, o.rules = some path → path = "") → Rule.parse config.rules = .ok rules) := by
  unfold chooseRules at h
  split at h
  next path hpath =>
    rw [hpath]
    split at h
    next hempty =>
      rw [String.isEmpty_iff] at hempty
      exact ⟨by rintro _ ⟨⟩ hne; exact absurd hempty hne, fun _ => mapError_eq_ok_iff.1 h⟩
    next hempty =>
      rw [String.isEmpty_iff] at hempty
      exact ⟨by rintro _ ⟨⟩ -; exact outcome_loadRules h, fun h' => absurd (h' path rfl) hempty⟩
  next hnone =>
    rw [hnone]
    exact ⟨by rintro _ ⟨⟩, fun _ => mapError_eq_ok_iff.1 h⟩

/-- **Whatever is prepared comes from the files.** -/
theorem exists_sources_of_prepare {job : Job} (h : (prepare s o).outcome = .ok job) :
    ∃ src : Sources s o, job = src.job := by
  obtain ⟨config, hconfig, h⟩ := Told.outcome_bind_eq_ok_iff.1 h
  obtain ⟨rules, hrules, h⟩ := Told.outcome_bind_eq_ok_iff.1 h
  obtain ⟨items, hitems, h⟩ := Told.outcome_bind_eq_ok_iff.1 h
  cases h
  obtain ⟨hpath, hparse⟩ := outcome_chooseRules hrules
  obtain ⟨blocks, hblocks, rfl⟩ := readAllInputs_eq_ok_iff.1 (outcome_readInputs hitems)
  exact ⟨⟨config, rules, blocks, outcome_loadConfig hconfig, hpath, hparse, hblocks⟩, rfl⟩

end Command

end Harvest
