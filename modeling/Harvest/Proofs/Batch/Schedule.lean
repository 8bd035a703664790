import Harvest.Proofs.Batch.Records
import Mathlib.Logic.Relation

/-!
# Schedules of a batch

The items of a batch are worked on several at a time.  A state has one `Slot` for each item, and a
`Step` either starts an item, which needs a free place among the threads, or ends one that is in
progress; any order of steps is a schedule.  When all items have ended, `gather` makes the outcome
of the run from theirs.

Main statements:

* `Sound.step` : no step breaks the invariant `Sound`, that there are never more items in progress
  than threads and that an item ends with its own records.
* `exists_step` : a state with an item that has not ended is not stuck, and `work_of_step` : every
  step brings the end nearer, so every schedule comes to an end.
* `scheduled_agrees_with_sequential` : whatever the schedule, the outcome is the one of going
  through the items one by one.
-/

namespace Harvest.Batch

open Extraction (Engine extractText)

variable {E : Engine} {d : Defaults} {rules : List Rule} {items : List Value}
  {slots slots' : List Slot}

/-! ### States and steps -/

/-- How far the work on an item has come. -/
inductive Slot where
  /-- It has not started. -/
  | waiting
  /-- It is in progress. -/
  | running
  /-- It has ended, with records or a failure. -/
  | finished (outcome : Except Error (List Record))

/-- Whether an item is in progress. -/
def Slot.isRunning : Slot → Bool
  | running => true
  | _ => false

/-- How an item has ended. -/
def Slot.outcome? : Slot → Option (Except Error (List Record))
  | finished outcome => some outcome
  | _ => none

/-- The number of steps that an item still has to take. -/
def Slot.work : Slot → Nat
  | waiting => 2
  | running => 1
  | finished _ => 0

/-- The number of items in progress. -/
def inProgress (slots : List Slot) : Nat :=
  slots.countP Slot.isRunning

/-- The number of steps that all items still have to take. -/
def work : List Slot → Nat
  | [] => 0
  | slot :: slots => slot.work + work slots

variable (E d rules items) in
/-- A step: an item starts where a thread is free, or an item in progress ends. -/
inductive Step (slots : List Slot) : List Slot → Prop where
  /-- An item starts. -/
  | start {i : Nat} (hi : slots[i]? = some .waiting) (free : (inProgress slots : Int) < d.threads) :
      Step slots (slots.set i .running)
  /-- An item ends. -/
  | finish {i : Nat} {v : Value} (hi : slots[i]? = some .running) (hv : items[i]? = some v) :
      Step slots (slots.set i (.finished (itemRecords E d rules i v)))

variable (E d rules items) in
/-- States that some schedule leads to. -/
def Reachable (slots : List Slot) : Prop :=
  Relation.ReflTransGen (Step E d rules items) (List.replicate items.length .waiting) slots

/-- All items have ended. -/
def Finished (slots : List Slot) : Prop :=
  ∀ slot ∈ slots, ∃ outcome, slot = .finished outcome

/-! ### What every step keeps -/

variable (E d rules items) in
/-- What holds of a state whatever the schedule that led to it. -/
structure Sound (slots : List Slot) : Prop where
  /-- There is one slot for each item. -/
  length_eq : slots.length = items.length
  /-- No more items are in progress than there are threads. -/
  bounded : (inProgress slots : Int) ≤ d.threads
  /-- An item has ended with its own records or failure. -/
  own : ∀ i v outcome, items[i]? = some v → slots[i]? = some (.finished outcome) →
    outcome = itemRecords E d rules i v

theorem sound_start (ht : 0 ≤ d.threads) :
    Sound E d rules items (List.replicate items.length .waiting) := by
  refine ⟨List.length_replicate, ?_, fun i v outcome _ h => ?_⟩
  · have h0 : inProgress (List.replicate items.length Slot.waiting) = 0 := by
      simp [inProgress, Slot.isRunning]
    omega
  · cases (List.mem_replicate.1 (List.mem_of_getElem? h)).2

theorem inProgress_set_running {i : Nat} (h : slots[i]? = some .waiting) :
    inProgress (slots.set i .running) = inProgress slots + 1 := by
  obtain ⟨hi, hw⟩ := List.getElem?_eq_some_iff.1 h
  simp [inProgress, List.countP_set hi, hw, Slot.isRunning]

theorem inProgress_set_finished {i : Nat} (outcome : Except Error (List Record)) :
    inProgress (slots.set i (.finished outcome)) ≤ inProgress slots := by
  by_cases hi : i < slots.length
  · simp [inProgress, List.countP_set hi, Slot.isRunning]
  · have hset : slots.set i (.finished outcome) = slots :=
      List.set_eq_of_length_le (Nat.le_of_not_lt hi)
    exact Nat.le_of_eq (congrArg inProgress hset)

theorem work_set {i : Nat} {a : Slot} (b : Slot) (h : slots[i]? = some a) :
    work (slots.set i b) + a.work = work slots + b.work := by
  induction slots generalizing i with
  | nil => cases h
  | cons slot slots ih =>
    cases i with
    | zero =>
      cases h
      simp only [work, List.set_cons_zero]
      omega
    | succ i =>
      have := ih (i := i) h
      simp only [work, List.set_cons_succ] at this ⊢
      omega

/-- **No step breaks the invariant.** -/
theorem Sound.step (hs : Sound E d rules items slots) (h : Step E d rules items slots slots') :
    Sound E d rules items slots' := by
  cases h with
  | @start i hi free =>
    refine ⟨by rw [List.length_set, hs.length_eq], ?_, fun j v outcome hv hj => ?_⟩
    · have := inProgress_set_running hi
      omega
    · rw [List.getElem?_set] at hj
      split at hj
      · split at hj <;> cases hj
      · exact hs.own j v outcome hv hj
  | @finish i w hi hw =>
    refine ⟨by rw [List.length_set, hs.length_eq], ?_, fun j v outcome hv hj => ?_⟩
    · have : inProgress (slots.set i (.finished (itemRecords E d rules i w))) ≤ inProgress slots :=
        inProgress_set_finished _
      have := hs.bounded
      omega
    · rw [List.getElem?_set] at hj
      split at hj
      next hij =>
        subst hij
        split at hj
        · cases hw.symm.trans hv
          cases hj
          rfl
        · cases hj
      next => exact hs.own j v outcome hv hj

theorem Reachable.sound (ht : 0 ≤ d.threads) (h : Reachable E d rules items slots) :
    Sound E d rules items slots := by
  induction h with
  | refl => exact sound_start ht
  | tail _ hstep ih => exact ih.step hstep

/-! ### Every schedule comes to an end -/

/-- **Every step brings the end nearer.** -/
theorem work_of_step (h : Step E d rules items slots slots') : work slots' + 1 = work slots := by
  cases h with
  | start hi free =>
    have := work_set .running hi
    simp only [Slot.work] at this
    omega
  | @finish i v hi hv =>
    have := work_set (.finished (itemRecords E d rules i v)) hi
    simp only [Slot.work] at this
    omega

/-- **A state is not stuck** as long as an item has not ended: an item in progress can end, and
without any in progress a thread is free. -/
theorem exists_step (ht : 1 ≤ d.threads) (hl : slots.length = items.length)
    (h : ¬ Finished slots) : ∃ slots', Step E d rules items slots slots' := by
  by_cases hr : Slot.running ∈ slots
  · obtain ⟨i, hi, hr⟩ := List.getElem_of_mem hr
    exact ⟨_, .finish (List.getElem?_eq_some_iff.2 ⟨hi, hr⟩)
      (List.getElem?_eq_getElem (hl ▸ hi))⟩
  · have hnone : inProgress slots = 0 := by
      refine List.countP_eq_zero.2 fun slot hslot hrunning => ?_
      cases slot with
      | running => exact hr hslot
      | waiting => cases hrunning
      | finished outcome => cases hrunning
    obtain ⟨slot, hslot, hopen⟩ : ∃ slot ∈ slots, ¬ ∃ outcome, slot = .finished outcome := by
      simpa only [Finished, not_forall, exists_prop] using h
    cases slot with
    | running => exact absurd hslot hr
    | finished outcome => exact absurd ⟨outcome, rfl⟩ hopen
    | waiting =>
      obtain ⟨i, hi, hw⟩ := List.getElem_of_mem hslot
      exact ⟨_, .start (List.getElem?_eq_some_iff.2 ⟨hi, hw⟩) (by omega)⟩

/-- Every schedule can be carried on to a state in which all items have ended. -/
theorem Sound.exists_finished (ht : 1 ≤ d.threads) (hs : Sound E d rules items slots) :
    ∃ done, Relation.ReflTransGen (Step E d rules items) slots done ∧ Finished done := by
  induction hn : work slots using Nat.strongRecOn generalizing slots with
  | ind n ih =>
    by_cases hf : Finished slots
    · exact ⟨slots, .refl, hf⟩
    · obtain ⟨slots', hstep⟩ : ∃ slots', Step E d rules items slots slots' :=
        exists_step ht hs.length_eq hf
      have hlt : work slots' < n := by
        have := work_of_step hstep
        omega
      obtain ⟨done, hdone, hf⟩ := ih _ hlt (hs.step hstep) rfl
      exact ⟨done, .head hstep hdone, hf⟩

/-! ### The outcome of a run -/

/-- The failure of an item, if it failed. -/
def failure? : Except Error (List Record) → Option Error
  | .error e => some e
  | .ok _ => none

/-- The records of an item, if it did not fail. -/
def records? : Except Error (List Record) → Option (List Record)
  | .error _ => none
  | .ok records => some records

/-- What a run makes of the outcomes of its items, given in the order of the items: the first
failure, or else all records; and how it went. -/
def gather (total : Nat) (outcomes : List (Except Error (List Record))) :
    Except Error (List Record) × Stats :=
  match outcomes.findSome? failure? with
  | some e => (.error e, { total })
  | none =>
    let records := (outcomes.filterMap records?).flatten
    (.ok records, Stats.ofRecords total records)

/-- The outcomes of some items, of which the first has the index given. -/
def outcomesFrom (E : Engine) (d : Defaults) (rules : List Rule) :
    Nat → List Value → List (Except Error (List Record))
  | _, [] => []
  | item, v :: vs => itemRecords E d rules item v :: outcomesFrom E d rules (item + 1) vs

theorem getElem?_outcomesFrom (item : Nat) (vs : List Value) (i : Nat) :
    (outcomesFrom E d rules item vs)[i]? = vs[i]?.map (itemRecords E d rules (item + i)) := by
  induction vs generalizing item i with
  | nil => rfl
  | cons v vs ih =>
    cases i with
    | zero => rfl
    | succ i =>
      simp only [outcomesFrom, List.getElem?_cons_succ, ih, Nat.add_right_comm item 1 i,
        Nat.add_assoc]

/-- When all items of a state have ended, each has ended with its own outcome. -/
theorem Sound.outcomes (hs : Sound E d rules items slots) (hf : Finished slots) :
    slots.filterMap Slot.outcome? = outcomesFrom E d rules 0 items := by
  have hslots : slots = (outcomesFrom E d rules 0 items).map .finished := by
    refine List.ext_getElem? fun i => ?_
    rw [List.getElem?_map, getElem?_outcomesFrom, Nat.zero_add]
    cases hi : slots[i]? with
    | none =>
      have : items[i]? = none := by
        rw [List.getElem?_eq_none_iff] at hi ⊢
        rwa [← hs.length_eq]
      rw [this]
      rfl
    | some slot =>
      obtain ⟨outcome, rfl⟩ := hf slot (List.mem_of_getElem? hi)
      have hlt : i < items.length := hs.length_eq ▸ (List.getElem?_eq_some_iff.1 hi).1
      have hv : items[i]? = some items[i] := List.getElem?_eq_getElem hlt
      rw [hv, hs.own i _ outcome hv hi]
      rfl
  rw [hslots, List.filterMap_map]
  exact List.filterMap_some

/-- To go through the items one by one is to gather their outcomes. -/
theorem allRecords_eq_gather (item total : Nat) (vs : List Value) :
    allRecords E d rules item vs = (gather total (outcomesFrom E d rules item vs)).1 := by
  induction vs generalizing item with
  | nil => rfl
  | cons v vs ih =>
    rw [allRecords, ih (item + 1), outcomesFrom]
    unfold gather
    cases itemRecords E d rules item v with
    | error e => rfl
    | ok records =>
      simp only [List.findSome?_cons, failure?]
      cases (outcomesFrom E d rules (item + 1) vs).findSome? failure? <;> rfl

variable (rules) in
theorem gather_eq_runWith (ht : 0 ≤ d.threads) (items : List Value) :
    gather items.length (outcomesFrom E d rules 0 items) =
      ((runWith E d items (.ok rules)).records, (runWith E d items (.ok rules)).stats) := by
  cases items with
  | nil => rfl
  | cons v vs =>
    have hthreads : ¬ d.threads < 0 := by omega
    simp only [runWith, runRules, hthreads, List.isEmpty_cons, if_false, Bool.false_eq_true,
      allRecords_eq_gather 0 (v :: vs).length (v :: vs)]
    unfold gather
    cases (outcomesFrom E d rules 0 (v :: vs)).findSome? failure? with
    | none => rfl
    | some e => rfl

/-- To go through the items one by one fails as the first item that fails does. -/
theorem allRecords_eq_error_iff {item : Nat} {vs : List Value} {e : Error} :
    allRecords E d rules item vs = .error e ↔
      ∃ i v, vs[i]? = some v ∧ itemRecords E d rules (item + i) v = .error e ∧
        ∀ j w, j < i → vs[j]? = some w → ∃ rs, itemRecords E d rules (item + j) w = .ok rs := by
  induction vs generalizing item with
  | nil =>
    constructor
    · intro h
      cases h
    · rintro ⟨i, v, hv, -⟩
      cases hv
  | cons v vs ih =>
    rw [allRecords]
    cases hv : itemRecords E d rules item v with
    | error e' =>
      constructor
      · intro h
        cases h
        refine ⟨0, v, rfl, hv, fun j w hj => ?_⟩
        omega
      · rintro ⟨i, w, hw, hfail, hbefore⟩
        cases i with
        | zero =>
          cases hw
          exact hv.symm.trans hfail
        | succ i =>
          obtain ⟨rs, hrs⟩ := hbefore 0 v (Nat.succ_pos i) rfl
          cases hv.symm.trans hrs
    | ok records =>
      have hmap : (allRecords E d rules (item + 1) vs).map (records ++ ·) = .error e ↔
          allRecords E d rules (item + 1) vs = .error e := by
        cases allRecords E d rules (item + 1) vs <;> simp [Except.map]
      rw [hmap, ih]
      -- the first item does not fail, so all indices move by one
      constructor
      · rintro ⟨i, w, hw, hfail, hbefore⟩
        rw [Nat.add_assoc, Nat.add_comm 1 i] at hfail
        refine ⟨i + 1, w, hw, hfail, fun j u hj hu => ?_⟩
        cases j with
        | zero =>
          cases hu
          exact ⟨records, hv⟩
        | succ j =>
          have := hbefore j u (Nat.lt_of_succ_lt_succ hj) hu
          rwa [Nat.add_assoc, Nat.add_comm 1 j] at this
      · rintro ⟨i, w, hw, hfail, hbefore⟩
        cases i with
        | zero =>
          cases hw
          cases hv.symm.trans hfail
        | succ i =>
          rw [← Nat.add_comm 1 i, ← Nat.add_assoc] at hfail
          refine ⟨i, w, hw, hfail, fun j u hj hu => ?_⟩
          have := hbefore (j + 1) u (Nat.succ_lt_succ hj) hu
          rwa [← Nat.add_comm 1 j, ← Nat.add_assoc] at this

/-- **The outcome of a batch does not depend on its schedule.**  In every state that a schedule
leads to there are at most as many items in progress as there are threads, a step is possible
unless all items have ended, and some steps lead to a state in which they have.  When they have,
the run has the records and the statistics of going through the items one by one, and it fails
with the failure of the first item that fails, whichever failed earlier in the schedule. -/
theorem scheduled_agrees_with_sequential (ht : 1 ≤ d.threads) (h : Reachable E d rules items slots) :
    (inProgress slots : Int) ≤ d.threads ∧
    (¬ Finished slots → ∃ slots', Step E d rules items slots slots') ∧
    (∃ done, Relation.ReflTransGen (Step E d rules items) slots done ∧ Finished done) ∧
    (Finished slots →
      let outcome := gather items.length (slots.filterMap Slot.outcome?)
      outcome.1 = (runWith E d items (.ok rules)).records ∧
      outcome.2 = (runWith E d items (.ok rules)).stats ∧
      ∀ e, outcome.1 = .error e ↔
        ∃ i v, items[i]? = some v ∧ itemRecords E d rules i v = .error e ∧
          ∀ j w, j < i → items[j]? = some w → ∃ rs, itemRecords E d rules j w = .ok rs) := by
  have ht0 : 0 ≤ d.threads := by omega
  have hs : Sound E d rules items slots := h.sound ht0
  refine ⟨hs.bounded, exists_step ht hs.length_eq, hs.exists_finished ht, fun hf => ?_⟩
  rw [hs.outcomes hf]
  have hgather := gather_eq_runWith (E := E) rules ht0 items
  refine ⟨congrArg Prod.fst hgather, congrArg Prod.snd hgather, fun e => ?_⟩
  have hfirst : allRecords E d rules 0 items = .error e ↔ _ := allRecords_eq_error_iff
  rw [← allRecords_eq_gather]
  simpa only [Nat.zero_add] using hfirst

/-- Two threads work on `uneven`; the third item fails before the second, and the run fails as the
second does. -/
theorem scheduled_agrees_with_sequential_uneven :
    let d : Defaults := { threads := 2 }
    let own (i : Nat) (v : Value) := itemRecords Engine.html d [firstParagraph] i v
    let done : List Slot := uneven.mapIdx fun i v => .finished (own i v)
    (1 ≤ d.threads ∧ Reachable Engine.html d [firstParagraph] uneven done) ∧ Finished done ∧
      ∃ v e, uneven[1]? = some v ∧ own 1 v = .error (.extraction e) ∧
        own 2 (.map [("data", .int 5)]) = .error (.load (.notText "data" "int")) ∧
        (gather 3 (done.filterMap Slot.outcome?)).1 = .error (.extraction e) ∧
        (gather 3 (done.filterMap Slot.outcome?)).2 =
          (runWith Engine.html d uneven (.ok [firstParagraph])).stats := by
  intro d own done
  have ht : 1 ≤ d.threads := by decide
  have h : Reachable Engine.html d [firstParagraph] uneven done := by
    let Reached := Reachable Engine.html d [firstParagraph] uneven
    have start {i : Nat} {slots : List Slot} (hi : slots[i]? = some .waiting)
        (free : (inProgress slots : Int) < 2) (hr : Reached slots) :
        Reached (slots.set i .running) := hr.tail (.start hi free)
    have finish {i : Nat} {v : Value} {slots : List Slot} (hi : slots[i]? = some .running)
        (hv : uneven[i]? = some v) (hr : Reached slots) :
        Reached (slots.set i (.finished (own i v))) :=
      hr.tail (.finish hi hv)
    -- the third item starts when the first has ended, and ends before the second
    have h0 := start (i := 0) rfl (by decide) .refl
    have h1 := start (i := 1) rfl (by decide) h0
    have h2 := start (i := 2) rfl (by decide) (finish (i := 0) rfl rfl h1)
    exact finish (i := 1) rfl rfl (finish (i := 2) rfl rfl h2)
  have hf : Finished done := by
    intro slot hslot
    obtain ⟨i, hi, rfl⟩ := List.mem_mapIdx.1 hslot
    exact ⟨_, rfl⟩
  let v : Value := .map [("data", .list [.text "<p>b</p>", .text "<![x]>", .text "<b>c</b>"])]
  let extracted := extractText Engine.html d.parser [firstParagraph]
  obtain ⟨json, hjson⟩ : ∃ json, extracted "<p>b</p>" = .ok json :=
    exists_of_isOk (by decide +kernel)
  obtain ⟨e, hunknown⟩ : ∃ e, extracted "<![x]>" = .error e :=
    exists_error_of_isOk_eq_false (by decide +kernel)
  have he : own 1 v = .error (.extraction e) := by
    have hload : load d 1 v = .ok ["<p>b</p>", "<![x]>", "<b>c</b>"] := rfl
    have hstrict : d.continueOnFail = false := rfl
    simp only [own, itemRecords, loadedRecords, hload, documentRecords, extracted, hjson, hunknown,
      hstrict]
    rfl
  obtain ⟨records, hfirst⟩ : ∃ records, own 0 (.text "<p>a</p>") = .ok records :=
    exists_of_isOk (by decide +kernel)
  obtain ⟨-, -, -, hrun⟩ := scheduled_agrees_with_sequential ht h
  obtain ⟨-, hstats, herror⟩ := hrun hf
  refine ⟨⟨ht, h⟩, hf, v, e, rfl, he, rfl, (herror _).2 ⟨1, v, rfl, he, ?_⟩, hstats⟩
  intro j w hj hw
  obtain rfl : j = 0 := by omega
  cases hw
  exact ⟨records, hfirst⟩

end Harvest.Batch
