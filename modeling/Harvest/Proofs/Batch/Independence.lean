import Harvest.Proofs.Batch.Records

/-!
# The runs of one runner are independent

A runner holds the statistics of its last run, and a run fills them in as it goes: the number of items
at once, and the other counts only behind what may fail.  `fillIn` is a run in these steps, on
statistics that are held elsewhere.  Whatever they were, it yields what `run` yields and leaves the
statistics of `run` (`run_fillIn`).

So a call in a row of calls on one runner comes to what it comes to on a new runner with the same
settings, whether the calls before it yielded records, put up with failures or ended in one; and a call
that ends in a failure leaves nothing but the number of its items (`calls_are_independent`).
-/

namespace Harvest.Batch

open Extraction (Engine)

/-! ### A run that fills in statistics -/

/-- A run, step by step, with statistics that are filled in. -/
def fillIn (E : Engine) (d : Defaults) (items : List Value) (payload : Value) :
    ExceptT Error (StateM Stats) (List Record) := do
  set ({ total := items.length } : Stats)
  if items.isEmpty then
    return []
  match Rule.parse payload with
  | .error e =>
    unless isTolerable d e do throw (.payload e)
    let placeholders := (List.range items.length).map (Record.failure · e.message)
    modify fun s => { s with failed := placeholders.length }
    return placeholders
  | .ok rules =>
    if d.threads < 0 then throw .threads
    match allRecords E d rules 0 items with
    | .error e => throw e
    | .ok records =>
      modify fun s => { s with documents := records.length }
      modify fun s => { s with failed := records.countP Record.isFailure }
      modify fun s => { s with success := s.documents - s.failed }
      return records

variable {E : Engine} {d : Defaults} {items : List Value} {payload : Value}

/-- **Nothing is left of earlier statistics.**  Whatever statistics a run finds, it yields its records
or its failure, and leaves its own. -/
theorem run_fillIn (E : Engine) (d : Defaults) (items : List Value) (payload : Value) (s : Stats) :
    (fillIn E d items payload).run.run s =
      ((run E d items payload).records, (run E d items payload).stats) := by
  unfold fillIn run runWith runRefused runRules
  cases items with
  | nil => rfl
  | cons v vs =>
    simp only [List.isEmpty_cons, Bool.false_eq_true, if_false]
    cases Rule.parse payload with
    | error e =>
      simp only [List.length_map, List.length_range]
      by_cases ht : isTolerable d e
      · simp only [if_pos ht]
        rfl
      · simp only [if_neg ht]
        rfl
    | ok rules =>
      by_cases hd : d.threads < 0
      · simp only [if_pos hd]
        rfl
      · simp only [if_neg hd]
        cases allRecords E d rules 0 (v :: vs) with
        | error e => rfl
        | ok records => rfl

theorem stats_of_refused_failed {e : Error} {refusal : Rule.PayloadError}
    (h : (runRefused d items refusal).records = .error e) :
    (runRefused d items refusal).stats = ⟨items.length, 0, 0, 0⟩ := by
  unfold runRefused at h ⊢
  by_cases ht : isTolerable d refusal
  · rw [if_pos ht] at h
    cases h
  · rw [if_neg ht]

theorem stats_of_rules_failed {e : Error} {rules : List Rule}
    (h : (runRules E d items rules).records = .error e) :
    (runRules E d items rules).stats = ⟨items.length, 0, 0, 0⟩ := by
  unfold runRules at h ⊢
  by_cases hd : d.threads < 0
  · rw [if_pos hd]
  · rw [if_neg hd] at h ⊢
    cases hall : allRecords E d rules 0 items with
    | error e => rfl
    | ok records =>
      rw [hall] at h
      cases h

/-- **A run that fails leaves the number of items**, and no other count. -/
theorem stats_of_failed {e : Error} (h : (run E d items payload).records = .error e) :
    (run E d items payload).stats = ⟨items.length, 0, 0, 0⟩ := by
  unfold run runWith at h ⊢
  cases items with
  | nil => cases h
  | cons v vs =>
    generalize Rule.parse payload = parsed at h ⊢
    cases parsed with
    | error refusal => exact stats_of_refused_failed h
    | ok rules => exact stats_of_rules_failed h

/-! ### Calls -/

/-- A call of a runner. -/
structure Call where
  /-- The items. -/
  items : List Value
  /-- The payload that holds the rules. -/
  payload : Value

/-- What a call comes to on a new runner: its outcome, and the statistics behind it. -/
def alone (E : Engine) (d : Defaults) (c : Call) : Outcome × Stats :=
  let (outcome, r) := ({ defaults := d } : Runner).run E c.items c.payload
  (outcome, r.stats)

/-- What calls come to, one after the other on one runner. -/
def Runner.results (E : Engine) (r : Runner) : List Call → List (Outcome × Stats)
  | [] => []
  | c :: calls =>
    let (outcome, r') := r.run E c.items c.payload
    (outcome, r'.stats) :: r'.results E calls

/-- What calls come to, one after the other on statistics that each of them fills in. -/
def fillInAll (E : Engine) (d : Defaults) :
    List Call → StateM Stats (List (Except Error (List Record) × Stats))
  | [] => return []
  | c :: calls => do
    let records ← (fillIn E d c.items c.payload).run
    let stats ← get
    let rest ← fillInAll E d calls
    return (records, stats) :: rest

theorem results_eq_map_alone (E : Engine) (r : Runner) (calls : List Call) :
    r.results E calls = calls.map (alone E r.defaults) := by
  induction calls generalizing r with
  | nil => rfl
  | cons c calls ih =>
    have hrest := ih (r.run E c.items c.payload).2
    exact congrArg (alone E r.defaults c :: ·) hrest

theorem run_fillInAll (E : Engine) (d : Defaults) (calls : List Call) (s : Stats) :
    ((fillInAll E d calls).run s).1 =
      calls.map fun c => ((alone E d c).1.records, (alone E d c).2) := by
  induction calls generalizing s with
  | nil => rfl
  | cons c calls ih =>
    have hfirst := run_fillIn E d c.items c.payload s
    have hrest := ih (alone E d c).2
    simp only [fillInAll, StateT.run_bind, hfirst]
    exact congrArg (((alone E d c).1.records, (alone E d c).2) :: ·) hrest

/-- **Runs of one runner are independent.**  Take a runner that may have run before, and calls of it,
one after the other.  Each of them comes to what it comes to on a new runner with the same settings:
it yields the same records or fails with the same error, tells the same, and leaves the same
statistics.  The records, the errors and the statistics are also the same when each call fills in the
statistics that the calls before it left, one count at a time.

A call that fails, for whatever reason and whatever it finds, leaves the number of its items, and no
other count. -/
theorem calls_are_independent (E : Engine) (r : Runner) (calls : List Call) :
    r.results E calls = calls.map (alone E r.defaults) ∧
    ((fillInAll E r.defaults calls).run r.stats).1 =
      (r.results E calls).map (fun x => (x.1.records, x.2)) ∧
    ∀ (c : Call) (e : Error), (r.run E c.items c.payload).1.records = .error e →
      (r.run E c.items c.payload).2.stats = ⟨c.items.length, 0, 0, 0⟩ := by
  have hresults := results_eq_map_alone E r calls
  refine ⟨hresults, ?_, fun c e he => stats_of_failed he⟩
  rw [run_fillInAll, hresults, List.map_map]
  rfl

/-- A runner with statistics of an earlier run is called with a page, an item without markup, the page
again, a payload that is no JSON, and no items at all. -/
theorem calls_are_independent_mixed :
    let r : Runner := ⟨{}, ⟨9, 9, 9, 9⟩⟩
    let page : Call := ⟨[.text "<p>a</p>"], .list []⟩
    let bad : Call := ⟨[.text "<p>a</p>", .map [("data", .int 5)]], .list []⟩
    let refused : Call := ⟨[.text "<p>a</p>"], .text "x"⟩
    let calls := [page, bad, page, refused, ⟨[], .null⟩]
    (∃ e, (r.run Engine.html bad.items bad.payload).1.records = .error e) ∧
    (∃ e, (r.run Engine.html refused.items refused.payload).1.records = .error e) ∧
    (r.results Engine.html calls).map Prod.snd =
      [⟨1, 1, 1, 0⟩, ⟨2, 0, 0, 0⟩, ⟨1, 1, 1, 0⟩, ⟨1, 0, 0, 0⟩, ⟨0, 0, 0, 0⟩] := by
  intro r page bad refused calls
  obtain ⟨hresults, -, hfailed⟩ := calls_are_independent Engine.html r calls
  obtain ⟨e, he⟩ : ∃ e, (r.run Engine.html bad.items bad.payload).1.records = .error e :=
    exists_error_of_isOk_eq_false (by decide +kernel)
  obtain ⟨e', he'⟩ : ∃ e, (r.run Engine.html refused.items refused.payload).1.records = .error e :=
    exists_error_of_isOk_eq_false (by decide +kernel)
  have hpage : (alone Engine.html r.defaults page).2 = ⟨1, 1, 1, 0⟩ := by decide +kernel
  have hbad : (alone Engine.html r.defaults bad).2 = ⟨2, 0, 0, 0⟩ := hfailed bad e he
  have hrefused : (alone Engine.html r.defaults refused).2 = ⟨1, 0, 0, 0⟩ := hfailed refused e' he'
  refine ⟨⟨e, he⟩, ⟨e', he'⟩, ?_⟩
  rw [hresults]
  simp only [calls, List.map_cons, List.map_nil, hpage, hbad, hrefused]
  rfl

end Harvest.Batch
