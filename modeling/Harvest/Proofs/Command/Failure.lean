import Harvest.Command.Run

/-!
# What a run tells of its failures

On its way a run tells its course and details, but no errors (`Quiet`) other than those of its batch.
So the error lines of its log are those of the batch, if it comes to one, and the one of its end, if it
fails (`errorLines_run`).  The latter is the only line in which the command line itself tells an error
(`failureLines_run`).
-/

namespace Harvest

/-! ### Quiet logs -/

namespace Log

/-- The lines of a log that tell errors. -/
def errorLines (log : List Line) : List Line :=
  log.filter (·.level = .error)

/-- The lines of a log in which the command line tells errors. -/
def failureLines (log : List Line) : List Line :=
  (errorLines log).filter (·.origin = "cli")

/-- A log without errors. -/
def Quiet (log : List Line) : Prop :=
  ∀ line ∈ log, line.level ≠ .error

variable {log log' : List Line} {line : Line}

theorem quiet_nil : Quiet [] :=
  fun _ h => nomatch h

theorem Quiet.append (h : Quiet log) (h' : Quiet log') : Quiet (log ++ log') :=
  List.forall_mem_append.2 ⟨h, h'⟩

theorem quiet_cons_iff : Quiet (line :: log) ↔ line.level ≠ .error ∧ Quiet log :=
  List.forall_mem_cons

theorem quiet_singleton (h : line.level ≠ .error) : Quiet [line] :=
  quiet_cons_iff.2 ⟨h, quiet_nil⟩

theorem Quiet.filter (h : Quiet log) (shown : Line → Bool) : Quiet (log.filter shown) :=
  fun line hline => h line (List.mem_filter.1 hline).1

theorem Quiet.errorLines_eq (h : Quiet log) : errorLines log = [] :=
  List.filter_eq_nil_iff.2 fun line hline => by simpa using h line hline

theorem errorLines_append (log log' : List Line) :
    errorLines (log ++ log') = errorLines log ++ errorLines log' :=
  List.filter_append ..

/-- No option hides an error. -/
theorem errorLines_filter_isShown (log : List Line) (verbose : Bool) :
    errorLines (log.filter (·.isShown verbose)) = errorLines log := by
  rw [errorLines, List.filter_filter]
  refine List.filter_congr fun line _ => ?_
  by_cases h : line.level = .error <;> simp [Line.isShown, h]

theorem quiet_bind {ε α β : Type} {x : Told ε α} {f : α → Told ε β} (hx : Quiet x.log)
    (hf : ∀ a, Quiet (f a).log) : Quiet (x >>= f).log := by
  obtain ⟨log, outcome⟩ := x
  cases outcome with
  | error e => exact hx
  | ok a => exact hx.append (hf a)

theorem quiet_say {ε : Type} {level : Level} {origin message : String} (h : level ≠ .error) :
    Quiet (Told.say (ε := ε) level origin message).log :=
  quiet_singleton h

end Log

open Extraction (Engine)
open Log (Quiet errorLines errorLines_append failureLines quiet_bind quiet_cons_iff quiet_nil
  quiet_say quiet_singleton)

/-! ### Batches and sinks -/

namespace Batch

variable {E : Engine} {d : Defaults} {rules : List Rule} {items : List Value}

theorem origin_of_mem_itemLines {item : Nat} {v : Value} {line : Log.Line}
    (h : line ∈ itemLines E d rules item v) : line.origin = "batch_runner" := by
  unfold itemLines at h
  split at h
  · cases List.mem_singleton.1 h
    rfl
  · obtain ⟨r, -, hr⟩ := List.mem_filterMap.1 h
    obtain ⟨message, -, rfl⟩ := Option.map_eq_some_iff.1 hr
    rfl

theorem origin_of_mem_allLines {item : Nat} {line : Log.Line}
    (h : line ∈ allLines E d rules item items) : line.origin = "batch_runner" := by
  induction items generalizing item with
  | nil => cases h
  | cons v items ih => exact (List.mem_append.1 h).elim origin_of_mem_itemLines ih

theorem origin_of_mem_runRules {line : Log.Line} (h : line ∈ (runRules E d items rules).log) :
    line.origin = "batch_runner" := by
  have hstart : (startLine items.length).origin = "batch_runner" := rfl
  have hlines : ∀ line ∈ startLine items.length :: allLines E d rules 0 items,
      line.origin = "batch_runner" :=
    List.forall_mem_cons.2 ⟨hstart, fun line hline => origin_of_mem_allLines hline⟩
  unfold runRules at h
  dsimp only at h
  split at h
  · cases List.mem_singleton.1 h
    exact hstart
  · split at h
    · exact hlines line h
    · obtain h | h := List.mem_append.1 h
      · exact hlines line h
      · cases List.mem_singleton.1 h
        rfl

/-- **A batch tells of itself.** -/
theorem origin_of_mem_runWith {parsed : Except Rule.PayloadError (List Rule)} {line : Log.Line}
    (h : line ∈ (runWith E d items parsed).log) : line.origin = "batch_runner" := by
  unfold runWith at h
  split at h
  · cases List.mem_singleton.1 h
    rfl
  · split at h
    next e =>
      have hlines : ∀ line ∈ startLine items.length :: payloadLines d items.length e,
          line.origin = "batch_runner" := by
        refine List.forall_mem_cons.2 ⟨rfl, fun line hline => ?_⟩
        cases e with
        | refused quoted shown reason =>
          cases List.mem_singleton.1 hline
          rfl
        | tooLong error => cases hline
      unfold runRefused at h
      dsimp only at h
      split at h <;> exact hlines line h
    next rules => exact origin_of_mem_runRules h

theorem failureLines_runWith (parsed : Except Rule.PayloadError (List Rule)) :
    failureLines (runWith E d items parsed).log = [] := by
  refine List.filter_eq_nil_iff.2 fun line hline => ?_
  rw [origin_of_mem_runWith (List.mem_filter.1 hline).1]
  decide

/-- A batch that fails by its number of threads tells no error. -/
theorem errorLines_runWith_of_threads (h : d.threads < 0) :
    errorLines (runWith E d items (.ok rules)).log = [] := by
  unfold runWith
  split
  · rfl
  · simp only [runRules, if_pos h]
    rfl

end Batch

namespace Output

theorem Sink.quiet_save (s : Store) (o : Sink) (record : Value) (item : Int) :
    Quiet (o.save s record item).log := by
  cases o with
  | lines o =>
    simp only [Sink.save]
    split
    · exact quiet_singleton (by simp [Lines.saveLog, told])
    · exact quiet_nil
  | listing o =>
    simp only [Sink.save]
    split
    · exact quiet_singleton (by simp [Listing.saveLog, told])
    · exact quiet_nil

theorem Sink.quiet_finish (s : Store) (o : Sink) : Quiet (o.finish s).log := by
  cases o with
  | lines o => exact quiet_singleton (by simp [Lines.finishLog, told])
  | listing o =>
    have hstart : o.startLog.level ≠ .error := by simp [Listing.startLog, told]
    simp only [Sink.finish]
    split
    · exact quiet_cons_iff.2 ⟨hstart,
        quiet_singleton (by simp [Listing.finishLog, told])⟩
    · exact quiet_singleton hstart

theorem Sink.quiet_saveAll (s : Store) (o : Sink) (records : List (Value × Int)) :
    Quiet (o.saveAll s records).log := by
  induction records generalizing s o with
  | nil => exact quiet_finish s o
  | cons r records ih =>
    obtain ⟨record, item⟩ := r
    have hfirst := quiet_save s o record item
    rw [Sink.saveAll]
    dsimp only
    split
    · exact hfirst
    · exact hfirst.append (ih _ _)

end Output

/-! ### Runs -/

namespace Command

variable (s : Store) (o : Options)

theorem quiet_loadConfig (path : String) : Quiet (loadConfig s path).log :=
  quiet_bind quiet_nil fun _ => quiet_bind (quiet_say (by decide)) fun _ =>
    quiet_bind quiet_nil fun _ => quiet_bind (quiet_say (by decide)) fun _ => quiet_nil

theorem quiet_chooseRules (config : Config) : Quiet (chooseRules s o config).log := by
  have hload (path : String) : Quiet (loadRules s path).log :=
    quiet_bind quiet_nil fun _ => quiet_bind (quiet_say (by decide)) fun _ => quiet_nil
  unfold chooseRules
  split
  · split
    · exact quiet_nil
    · exact hload _
  · exact quiet_nil

theorem quiet_readInputs (paths : List String) (items : Bool) :
    Quiet (readInputs s paths items).log :=
  quiet_bind quiet_nil fun _ => quiet_bind (quiet_say (by decide)) fun _ => quiet_nil

theorem quiet_prepare : Quiet (prepare s o).log :=
  quiet_bind (quiet_loadConfig s o.config) fun config =>
    quiet_bind (quiet_chooseRules s o config) fun _ =>
      quiet_bind (quiet_readInputs s o.inputs o.items) fun _ => quiet_nil

variable (E : Engine)

/-- A sink adds no errors to those of the batch. -/
theorem errorLines_writeRecords (sink : Output.Sink) (outcome : Batch.Outcome) :
    errorLines (writeRecords s sink outcome).log = errorLines outcome.log := by
  unfold writeRecords
  split
  · rfl
  next records _ =>
    have hsaved := sink.quiet_saveAll s (records.map fun r => (.map r.json, (r.item : Int)))
    have hstats : Quiet [statsLog outcome.stats] := quiet_singleton (by simp [statsLog, told])
    dsimp only
    split <;> simp only [errorLines_append, hsaved.errorLines_eq, hstats.errorLines_eq,
      List.append_nil]

theorem failureLines_perform (job : Job) : failureLines (perform E s o job).log = [] := by
  unfold perform
  split
  · rfl
  · rw [failureLines, errorLines_writeRecords]
    exact Batch.failureLines_runWith _

theorem errorLines_extract :
    errorLines (extract E s o).log =
      match (prepare s o).outcome with
      | .error _ => []
      | .ok job => if o.dryRun then [] else errorLines (perform E s o job).log := by
  have hprepare := quiet_prepare s o
  unfold extract
  cases hprepared : (prepare s o).outcome with
  | error e =>
    simp only [hprepared]
    exact hprepare.errorLines_eq
  | ok job =>
    have hdry : Quiet (dryRunLog o job) := by
      refine quiet_cons_iff.2 ⟨by simp [told], fun line hline => ?_⟩
      obtain ⟨path, -, rfl⟩ := List.mem_map.1 hline
      simp [told]
    simp only [hprepared]
    split
    · exact (hprepare.append hdry).errorLines_eq
    · rw [errorLines_append, hprepare.errorLines_eq, List.nil_append]

theorem failureLines_extract : failureLines (extract E s o).log = [] := by
  rw [failureLines, errorLines_extract]
  split
  · rfl
  next job _ =>
    split
    · rfl
    · exact failureLines_perform s o E job

theorem exit_run :
    (run E s o).exit = match (extract E s o).result with | .ok () => 0 | .error _ => 1 := by
  unfold run
  dsimp only
  cases (extract E s o).result <;> rfl

/-- The line that tells why a run fails. -/
def failureLine (e : Error) : Log.Line :=
  told .error ("Extraction failed: " ++ e.message)

/-- **A run tells the errors of its extraction**, and its failure behind them. -/
theorem errorLines_run :
    errorLines (run E s o).log = errorLines (extract E s o).log ++
      match (extract E s o).result with
      | .ok () => []
      | .error e => [failureLine e] := by
  unfold run
  dsimp only
  cases (extract E s o).result with
  | ok _ => rw [Log.errorLines_filter_isShown, List.append_nil]
  | error e =>
    rw [Log.errorLines_filter_isShown, errorLines_append]
    rfl

/-- **The command line tells one error, the failure of a run, or none.** -/
theorem failureLines_run :
    failureLines (run E s o).log =
      match (extract E s o).result with
      | .ok () => []
      | .error e => [failureLine e] := by
  have hextract := failureLines_extract s o E
  rw [failureLines] at hextract
  rw [failureLines, errorLines_run, List.filter_append, hextract]
  cases (extract E s o).result <;> rfl

theorem exists_failure_of_exit_ne_zero (h : (run E s o).exit ≠ 0) :
    ∃ e, failureLines (run E s o).log = [failureLine e] := by
  rw [exit_run] at h
  rw [failureLines_run]
  cases hresult : (extract E s o).result with
  | ok _ =>
    rw [hresult] at h
    exact absurd rfl h
  | error e => exact ⟨e, rfl⟩

end Command

end Harvest
