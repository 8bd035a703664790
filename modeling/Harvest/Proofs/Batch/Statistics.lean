import Harvest.Proofs.Batch.Records

/-!
# The statistics of a batch

A run that yields records ends in one of three ways (`Ended`, `ended_run`): there were no items, the
payload was refused and every item got a placeholder, or the records of all items were collected.
The numbers of items and of placeholders are right in each of them.  Placeholders for a refused
payload are not counted as records, though, so the other two counts are right exactly if there were
no items or the payload has rules (`stats_of_run`).
-/

namespace Harvest.Batch

open Extraction (Engine)

variable {E : Engine} {d : Defaults} {items : List Value} {payload : Value}
  {records : List Record}

/-- The ways in which a run yields records, with the statistics that it leaves. -/
inductive Ended (items : List Value) (payload : Value) : List Record → Stats → Prop
  /-- There are no items. -/
  | idle (h : items = []) : Ended items payload [] {}
  /-- The payload is refused, and each item has a placeholder for that. -/
  | refused {e : Rule.PayloadError} (h : items ≠ []) (hp : Rule.parse payload = .error e) :
      Ended items payload ((List.range items.length).map (Record.failure · e.message))
        { total := items.length, failed := items.length }
  /-- The records of all items are there. -/
  | completed {rules : List Rule} {records : List Record}
      (hp : Rule.parse payload = .ok rules) :
      Ended items payload records (Stats.ofRecords items.length records)

/-- **How a run ends.** -/
theorem ended_run (h : (run E d items payload).records = .ok records) :
    Ended items payload records (run E d items payload).stats := by
  unfold run runWith at h ⊢
  split at h
  next hnone =>
    rw [if_pos hnone]
    cases h
    exact .idle (List.isEmpty_iff.1 hnone)
  next hsome =>
    rw [if_neg hsome]
    cases hp : Rule.parse payload with
    | error e =>
      simp only [hp, runRefused] at h ⊢
      split at h
      next ht =>
        rw [if_pos ht]
        cases h
        exact .refused (mt List.isEmpty_iff.2 hsome) hp
      next => cases h
    | ok rules =>
      simp only [hp, runRules] at h ⊢
      split at h
      next => cases h
      next ht =>
        rw [if_neg ht]
        cases hall : allRecords E d rules 0 items with
        | error e =>
          rw [hall] at h
          cases h
        | ok rs =>
          rw [hall] at h
          cases h
          exact .completed hp

/-! ### Counting -/

theorem countP_failures (indices : List Nat) (message : String) :
    (indices.map (Record.failure · message)).countP Record.isFailure = indices.length := by
  rw [List.countP_eq_length.2, List.length_map]
  intro r hr
  obtain ⟨index, -, rfl⟩ := List.mem_map.1 hr
  rfl

theorem success_add_failed (total : Nat) (records : List Record) :
    (Stats.ofRecords total records).success + (Stats.ofRecords total records).failed =
      (Stats.ofRecords total records).documents :=
  Nat.sub_add_cancel List.countP_le_length

/-- **The statistics account for the records, but for those of a refused payload.**  When a runner
has yielded records, whatever it ran before, its statistics have the number of the items and that
of the placeholders.  The number of the records, which the successes and the placeholders make up,
is right exactly if there were no items or the payload has rules; otherwise every record is the
placeholder of an item, and none is counted as a record. -/
theorem stats_of_run (E : Engine) (runner : Runner) (items : List Value) (payload : Value)
    {records : List Record} (h : (runner.run E items payload).1.records = .ok records) :
    let stats := (runner.run E items payload).2.stats
    let parsed := items = [] ∨ ∃ rules, Rule.parse payload = .ok rules
    stats.total = items.length ∧ stats.failed = records.countP (·.error.isSome) ∧
      (stats.documents = records.length ↔ parsed) ∧
      (stats.success + stats.failed = stats.documents ↔ parsed) ∧
      (¬ parsed → records.length = items.length ∧ stats.documents = 0 ∧ stats.success = 0 ∧
        stats.failed = items.length) := by
  intro stats parsed
  have hended : Ended items payload records stats := ended_run h
  generalize stats = stats at hended ⊢
  cases hended with
  | idle hnone =>
    have hp : parsed := .inl hnone
    subst hnone
    simp [hp]
  | completed hparsed =>
    have hp : parsed := .inr ⟨_, hparsed⟩
    have hsum := success_add_failed items.length records
    refine ⟨rfl, rfl, iff_of_true rfl hp, iff_of_true hsum hp, fun hno => absurd hp hno⟩
  | @refused e hsome hrefused =>
    have hp : ¬ parsed := by
      rintro (hnone | ⟨rules, hrules⟩)
      · exact hsome hnone
      · cases hrefused.symm.trans hrules
    -- there is an item, so there is a placeholder that was not counted as a record
    have hpos : 0 < items.length := List.length_pos_iff.2 hsome
    have hcount := countP_failures (List.range items.length) e.message
    have hlength : ((List.range items.length).map (Record.failure · e.message)).length =
        items.length := by rw [List.length_map, List.length_range]
    rw [List.length_range] at hcount
    refine ⟨rfl, hcount.symm, iff_of_false ?_ hp, iff_of_false ?_ hp, fun _ => ?_⟩
    · rw [hlength]
      exact Nat.ne_of_lt hpos
    · rw [Nat.zero_add]
      exact Nat.ne_of_gt hpos
    · exact ⟨hlength, rfl, rfl, rfl⟩

/-- A page and an item without markup, behind a run that left other numbers. -/
theorem stats_of_run_mixed :
    let runner : Runner := ⟨{ continueOnFail := true }, ⟨9, 9, 9, 9⟩⟩
    let items : List Value := [.text "<p>a</p>", .map [("data", .int 5)]]
    let stats := (runner.run Engine.html items (.list [])).2.stats
    ∃ records, (runner.run Engine.html items (.list [])).1.records = .ok records ∧
      stats.total = 2 ∧ stats.failed = records.countP (·.error.isSome) ∧
      stats.documents = records.length ∧ stats.success + stats.failed = stats.documents := by
  intro runner items stats
  obtain ⟨records, hrecords⟩ :
      ∃ records, (runner.run Engine.html items (.list [])).1.records = .ok records :=
    exists_of_isOk (by decide +kernel)
  have hparsed : items = [] ∨ ∃ rules, Rule.parse (.list []) = .ok rules := .inr ⟨[], rfl⟩
  obtain ⟨htotal, hfailed, hdocuments, hsum, -⟩ :=
    stats_of_run Engine.html runner items (.list []) hrecords
  exact ⟨records, hrecords, htotal, hfailed, hdocuments.2 hparsed, hsum.2 hparsed⟩

/-- A payload that is no JSON leaves one placeholder, and no record is counted. -/
theorem stats_of_refused_payload :
    let outcome := run Engine.html { continueOnFail := true } [.text "<p>a</p>"] (.text "x")
    ∃ records, outcome.records = .ok records ∧ records.length = 1 ∧
      outcome.stats.documents = 0 ∧ outcome.stats.success + outcome.stats.failed = 1 := by
  intro outcome
  obtain ⟨records, hrecords⟩ : ∃ records, outcome.records = .ok records :=
    exists_of_isOk (by decide +kernel)
  have hlength : outcome.records.toOption.map List.length = some 1 := by decide +kernel
  rw [hrecords] at hlength
  exact ⟨records, hrecords, Option.some.inj hlength, by decide +kernel, by decide +kernel⟩

end Harvest.Batch
