import Harvest.Proofs.Command.Appending
import Harvest.Proofs.Command.DryRun

/-!
# The number of threads of a run

A configuration holds a number of threads that is at least one, since nothing else is read.  The
command line may give another number, which nobody checks: zero counts as none, and a negative number
is handed to the batch as it is.

As long as the number is not negative, it makes no difference: batches over the same items yield the
same (`Batch.runWith_threads`), and so do whole runs.  With a negative number a batch over items
always fails, and so does every run that comes to it (`run_of_threads`).
-/

namespace Harvest

/-! ### Batches -/

namespace Batch

open Extraction (Engine)

variable {E : Engine} {d : Defaults} {rules : List Rule}

theorem documentRecords_threads (n : Int) (item : Nat) (documents : List String) :
    documentRecords E { d with threads := n } rules item documents =
      documentRecords E d rules item documents := by
  induction documents with
  | nil => rfl
  | cons document documents ih => simp only [documentRecords, ih]

theorem loadedRecords_threads (n : Int) (item : Nat) (v : Value) :
    loadedRecords E { d with threads := n } rules item v = loadedRecords E d rules item v := by
  have hload : load { d with threads := n } item v = load d item v := rfl
  simp only [loadedRecords, hload, documentRecords_threads]

/-- **A number of threads that is not negative makes no difference** to what a batch yields, tells and
counts. -/
theorem runWith_threads (h : 0 ≤ d.threads) {n : Int} (hn : 0 ≤ n) (items : List Value)
    (rules : Except Rule.PayloadError (List Rule)) :
    runWith E { d with threads := n } items rules = runWith E d items rules := by
  unfold runWith
  split
  · rfl
  · cases rules with
    | error e => rfl
    | ok rules =>
      have hsame : List.Forall₂ (fun v w => ∀ item,
          loadedRecords E { d with threads := n } rules item v =
            loadedRecords E d rules item w) items items :=
        List.forall₂_same.2 fun v _ item => loadedRecords_threads n item v
      have hc : ({ d with threads := n } : Defaults).continueOnFail = d.continueOnFail := rfl
      obtain ⟨hrecords, hlines⟩ := allRecords_congr hc hsame 0
      simp only [runRules, hrecords, hlines, if_neg (Int.not_lt.2 h), if_neg (Int.not_lt.2 hn)]

/-- **A batch fails by its number of threads** exactly if the number is negative and there is
something to extract. -/
theorem records_eq_threads_iff {items : List Value}
    {rules : Except Rule.PayloadError (List Rule)} :
    (runWith E d items rules).records = .error .threads ↔
      d.threads < 0 ∧ items ≠ [] ∧ ∃ parsed, rules = .ok parsed := by
  cases items with
  | nil => simp [runWith]
  | cons v vs =>
    simp only [runWith, List.isEmpty_cons, Bool.false_eq_true, if_false, ne_eq, reduceCtorEq,
      not_false_eq_true, true_and]
    cases rules with
    | error e =>
      simp only [runRefused, reduceCtorEq, exists_false, and_false, iff_false]
      split <;> simp
    | ok parsed =>
      have hrecords : allRecords E d parsed 0 (v :: vs) ≠ .error .threads := by
        intro h
        cases itemFails_of_allRecords h
      by_cases hneg : d.threads < 0
      · simp [runRules, hneg]
      · simp only [runRules, hneg, if_false, false_and, iff_false]
        cases hall : allRecords E d parsed 0 (v :: vs) with
        | error e =>
          rintro ⟨⟩
          exact hrecords hall
        | ok records => simp

end Batch

/-! ### What is loaded -/

namespace Command

open Extraction (Engine)
open Log (Told errorLines)

variable {E : Engine} {s : Store} {o : Options}

/-- What a run loads. -/
structure Loaded where
  /-- The configuration. -/
  config : Config
  /-- The rules. -/
  rules : List Rule
  /-- The items. -/
  items : List Value

/-- What is to be extracted where this was loaded. -/
def Loaded.job (loaded : Loaded) (o : Options) : Job :=
  ⟨loaded.config.strategy, override loaded.config.defaults o, loaded.rules, loaded.items⟩

/-- A run loads what it works on, whatever number of threads is asked for. -/
def loadAll (s : Store) (o : Options) : Told Error Loaded := do
  let config ← loadConfig s o.config
  let rules ← chooseRules s o config
  let items ← readInputs s o.inputs o.items
  return ⟨config, rules, items⟩

/-- **Everything is loaded before the command line overrides the settings.** -/
theorem prepare_eq (s : Store) (o : Options) :
    prepare s o = (loadAll s o).bind fun loaded => Told.of (.ok (loaded.job o)) := by
  unfold prepare loadAll
  change Told.bind _ _ = Told.bind (Told.bind _ _) _
  rw [Told.bind_assoc]
  congr 1
  funext config
  change Told.bind _ _ = Told.bind (Told.bind _ _) _
  rw [Told.bind_assoc]
  congr 1
  funext rules
  change Told.bind _ _ = Told.bind (Told.bind _ _) _
  rw [Told.bind_assoc]
  rfl

theorem outcome_prepare_eq_ok_iff {job : Job} :
    (prepare s o).outcome = .ok job ↔
      ∃ loaded, (loadAll s o).outcome = .ok loaded ∧ job = loaded.job o := by
  rw [prepare_eq]
  cases loadAll s o with
  | mk log outcome => cases outcome <;> simp [Told.bind, Told.of, eq_comm]

theorem one_le_threads_of_loadConfig {path : String} {config : Config}
    (h : (loadConfig s path).outcome = .ok config) : 1 ≤ config.defaults.threads :=
  one_le_threads_of_readConfig (outcome_loadConfig h)

theorem one_le_threads_of_loadAll {loaded : Loaded} (h : (loadAll s o).outcome = .ok loaded) :
    1 ≤ loaded.config.defaults.threads := by
  obtain ⟨config, hconfig, h⟩ := Told.outcome_bind_eq_ok_iff.1 h
  obtain ⟨rules, -, h⟩ := Told.outcome_bind_eq_ok_iff.1 h
  obtain ⟨items, -, h⟩ := Told.outcome_bind_eq_ok_iff.1 h
  cases h
  exact one_le_threads_of_loadConfig hconfig

/-! ### Runs -/

namespace Options

/-- A negative number of threads is asked for. -/
def AsksNegative (o : Options) : Prop :=
  ∃ n, o.threads = some n ∧ n < 0

/-- The options with no number of threads. -/
def withoutThreads (o : Options) : Options :=
  { o with threads := none }

end Options

/-- The number of threads that is in force is legal, unless a negative one is asked for. -/
theorem one_le_threads_override_iff {d : Defaults} (h : 1 ≤ d.threads) :
    1 ≤ (override d o).threads ↔ ¬ o.AsksNegative := by
  obtain ⟨hneg, hasked⟩ | ⟨hlegal, hnot⟩ := threads_override_cases h o
  · exact iff_of_false (by omega) (not_not_intro hasked)
  · exact iff_of_true hlegal hnot

theorem threads_override_neg_iff {d : Defaults} (h : 1 ≤ d.threads) :
    (override d o).threads < 0 ↔ o.AsksNegative := by
  obtain ⟨hneg, hasked⟩ | ⟨hlegal, hnot⟩ := threads_override_cases h o
  · exact iff_of_true hneg hasked
  · exact iff_of_false (by omega) hnot

/-- A batch over items yields the same without a number of threads, unless the number is negative. -/
theorem runWith_withoutThreads {d : Defaults} (h : 1 ≤ d.threads) (hnot : ¬ o.AsksNegative)
    (items : List Value) (rules : Except Rule.PayloadError (List Rule)) :
    Batch.runWith E (override d o) items rules =
      Batch.runWith E (override d o.withoutThreads) items rules := by
  have hasked : 0 ≤ (override d o).threads := by
    have := (one_le_threads_override_iff h).2 hnot
    omega
  have hnone : 0 ≤ (override d o.withoutThreads).threads := by
    change 0 ≤ d.threads
    omega
  exact Batch.runWith_threads hnone hasked items rules

/-- A run comes to a batch with something to extract. -/
structure ReachesBatch (s : Store) (o : Options) : Prop where
  not_dry : o.dryRun = false
  opened : ∃ job sink, (prepare s o).outcome = .ok job ∧ (openSink s o job).2 = .ok sink ∧
    job.items ≠ []

/-- A job is performed alike without a number of threads, unless the number is negative and there is
something to extract behind a new sink. -/
theorem perform_withoutThreads {loaded : Loaded} (h : 1 ≤ loaded.config.defaults.threads)
    (hsafe : ∀ sink, (openSink s o (loaded.job o)).2 = .ok sink → loaded.items ≠ [] →
      ¬ o.AsksNegative) :
    perform E s o (loaded.job o) = perform E s o.withoutThreads (loaded.job o.withoutThreads) := by
  have hopen : openSink s o.withoutThreads (loaded.job o.withoutThreads) =
      openSink s o (loaded.job o) := rfl
  unfold perform
  rw [hopen]
  cases hsink : openSink s o (loaded.job o) with
  | mk s₁ created =>
    cases created with
    | error e => rfl
    | ok sink =>
      have hbatch :
          Batch.runWith E (override loaded.config.defaults o) loaded.items (.ok loaded.rules) =
            Batch.runWith E (override loaded.config.defaults o.withoutThreads) loaded.items
              (.ok loaded.rules) := by
        by_cases hitems : loaded.items = []
        · rw [hitems]
          rfl
        · exact runWith_withoutThreads h (hsafe sink (by rw [hsink]) hitems) _ _
      exact congrArg (writeRecords s₁ sink) hbatch

/-- **A run does the same without its number of threads**, unless the number is negative and the run
comes to a batch. -/
theorem extract_withoutThreads (h : ¬ (o.AsksNegative ∧ ReachesBatch s o)) :
    extract E s o = extract E s o.withoutThreads := by
  have hload : loadAll s o.withoutThreads = loadAll s o := rfl
  have hdry : o.withoutThreads.dryRun = o.dryRun := rfl
  unfold extract
  rw [prepare_eq, prepare_eq, hload, hdry]
  cases hall : loadAll s o with
  | mk log outcome =>
    cases outcome with
    | error e => rfl
    | ok loaded =>
      have hloaded : (loadAll s o).outcome = .ok loaded := by rw [hall]
      simp only [Told.bind, Told.of]
      split
      · rfl
      next hreal =>
        have hjob := outcome_prepare_eq_ok_iff.2 ⟨loaded, hloaded, rfl⟩
        have hsafe (sink : Output.Sink) (hsink : (openSink s o (loaded.job o)).2 = .ok sink)
            (hitems : loaded.items ≠ []) : ¬ o.AsksNegative := fun hneg =>
          h ⟨hneg, by simpa using hreal, loaded.job o, sink, hjob, hsink, hitems⟩
        rw [perform_withoutThreads (one_le_threads_of_loadAll hloaded) hsafe]

/-- **A run that comes to a batch fails by a negative number of threads**, and its batch tells no other
error. -/
theorem extract_of_asksNegative (hneg : o.AsksNegative) (h : ReachesBatch s o) :
    (extract E s o).result = .error (.batch .threads) ∧ errorLines (extract E s o).log = [] := by
  obtain ⟨job, sink, hjob, hsink, hitems⟩ := h.opened
  obtain ⟨loaded, hloaded, rfl⟩ := outcome_prepare_eq_ok_iff.1 hjob
  have hthreads : (override loaded.config.defaults o).threads < 0 :=
    (threads_override_neg_iff (one_le_threads_of_loadAll hloaded)).2 hneg
  have hrecords : (Batch.runWith E (loaded.job o).defaults (loaded.job o).items
      (.ok (loaded.job o).rules)).records = .error .threads :=
    Batch.records_eq_threads_iff.2 ⟨hthreads, hitems, _, rfl⟩
  rw [result_extract hjob, errorLines_extract, hjob]
  simp only [h.not_dry, Bool.false_eq_true, if_false]
  unfold perform
  cases hopen : openSink s o (loaded.job o) with
  | mk s₁ created =>
    rw [hopen] at hsink
    cases hsink
    rw [errorLines_writeRecords]
    refine ⟨?_, Batch.errorLines_runWith_of_threads hthreads⟩
    simp only [writeRecords, hrecords]

theorem run_withoutThreads (h : ¬ (o.AsksNegative ∧ ReachesBatch s o)) :
    run E s o = run E s o.withoutThreads := by
  unfold run
  rw [extract_withoutThreads h]
  rfl

/-- **When the number of threads is legal, and what comes of it.**  Behind a command line any integer
can be asked for.  The batch is handed a number that is at least one, unless a negative number was
asked for; then a batch over items with rules that were parsed fails.  Otherwise no batch fails by the
number, which makes no difference to it, and none is stuck for lack of a thread.  So a run does what
it does without the number, unless the number is negative and the run comes to a batch with something
to extract.  Such a run fails. -/
theorem run_of_threads (E : Engine) (s : Store) {args : List String} {o : Options}
    (hp : Options.parse args = .ok (some o)) :
    (Word.separatorText ∉ args → ∀ n : Int,
      (Nat.toDigits 10 n.natAbs).length ≤ Text.Numeral.maxDigits →
      Options.parse (args ++ [threadsText, Text.intText n]) =
        .ok (some { o with threads := some n })) ∧
    (∀ config, (loadConfig s o.config).outcome = .ok config →
      let d := override config.defaults o
      (1 ≤ d.threads ↔ ¬ o.AsksNegative) ∧
      (∀ items payload, (Batch.run E d items payload).records = .error .threads ↔
        o.AsksNegative ∧ items ≠ [] ∧ ∃ rules, Rule.parse payload = .ok rules) ∧
      (¬ o.AsksNegative → ∀ items,
        (∀ payload, Batch.run E d items payload =
          Batch.run E (override config.defaults o.withoutThreads) items payload) ∧
        ∀ rules slots, Batch.Reachable E d rules items slots →
          ∃ done, Relation.ReflTransGen (Batch.Step E d rules items) slots done ∧
            Batch.Finished done)) ∧
    (¬ (o.AsksNegative ∧ ReachesBatch s o) → execute E s args = run E s o.withoutThreads) ∧
    (o.AsksNegative → ReachesBatch s o →
      (execute E s args).exit = 1 ∧
        errorLines (execute E s args).log = [failureLine (.batch .threads)]) := by
  refine ⟨fun hargs n hn => parse_append_threads hargs hp hn, fun config hconfig => ?_,
    fun h => ?_, fun hneg h => ?_⟩
  · have hread := one_le_threads_of_loadConfig hconfig
    refine ⟨one_le_threads_override_iff hread, fun items payload => ?_, fun hnot items =>
      ⟨fun payload => runWith_withoutThreads hread hnot items _, fun rules slots hslots => ?_⟩⟩
    · rw [Batch.run, Batch.records_eq_threads_iff, threads_override_neg_iff hread]
    · have hlegal := (one_le_threads_override_iff hread).2 hnot
      exact (hslots.sound (by omega)).exists_finished hlegal
  · rw [execute_of_parse hp, run_withoutThreads h]
  · obtain ⟨hresult, hlines⟩ := extract_of_asksNegative (E := E) hneg h
    rw [execute_of_parse hp, exit_run, errorLines_run, hresult, hlines]
    exact ⟨rfl, rfl⟩

/-- In `shelf` a run with three threads does what it does without the number, and a run with a
negative number fails. -/
theorem run_of_threads_page :
    let o : Options := { config := "c.json", inputs := ["p.html"], output := some "out.jsonl" }
    Options.parse (pageArgs []) = .ok (some o) ∧
    execute Engine.html shelf (pageArgs ["--threads", "3"]) = execute Engine.html shelf (pageArgs []) ∧
    (execute Engine.html shelf (pageArgs ["--threads", "-1"])).exit = 1 ∧
      errorLines (execute Engine.html shelf (pageArgs ["--threads", "-1"])).log =
        [failureLine (.batch .threads)] := by
  intro o
  have hp : Options.parse (pageArgs []) = .ok (some o) := eq_ok_of_toOption (by decide +kernel)
  have hnone : ¬ o.AsksNegative := by
    rintro ⟨n, hn, -⟩
    cases hn
  obtain ⟨hasked, -, hplain, -⟩ := run_of_threads Engine.html shelf hp
  have hsame : execute Engine.html shelf (pageArgs []) = run Engine.html shelf o :=
    hplain fun h => hnone h.1
  have hthree : Options.parse (pageArgs ["--threads", "3"]) =
      .ok (some { o with threads := some 3 }) := hasked (by decide) 3 (by decide)
  have hminus : Options.parse (pageArgs ["--threads", "-1"]) =
      .ok (some { o with threads := some (-1) }) := by
    have htext : Text.intText (-1) = "-1" := by decide
    rw [← htext]
    exact hasked (by decide) (-1) (by decide)
  refine ⟨hp, ?_, ?_⟩
  · obtain ⟨-, -, hwithout, -⟩ := run_of_threads Engine.html shelf hthree
    refine (hwithout ?_).trans hsame.symm
    rintro ⟨⟨n, hn, hneg⟩, -⟩
    cases hn
    omega
  · obtain ⟨-, -, hwithout, hfails⟩ := run_of_threads Engine.html shelf hminus
    refine hfails ⟨-1, rfl, by decide⟩ (by_contra fun hnot => ?_)
    -- the exit codes show that the number does make a difference
    have hexits : (execute Engine.html shelf (pageArgs ["--threads", "-1"])).exit = 1 ∧
        (execute Engine.html shelf (pageArgs [])).exit = 0 := by decide +kernel
    rw [hwithout fun h => hnot h.2, hsame] at hexits
    cases hexits.1.symm.trans hexits.2

/-- A batch can be handed a number of threads that is not legal: in `shelf` the command line asks for
minus one, and the run fails by that. -/
theorem threads_of_negative_number :
    let args := pageArgs ["--threads", "-1"]
    (∃ o config, Options.parse args = .ok (some o) ∧
      (loadConfig shelf o.config).outcome = .ok config ∧
      (override config.defaults o).threads = -1) ∧
    (execute Engine.html shelf (pageArgs [])).exit = 0 ∧ (execute Engine.html shelf args).exit = 1 ∧
      errorLines (execute Engine.html shelf args).log =
        [told .error "Extraction failed: Semaphore initial value must be >= 0"] := by
  intro args
  have hparsed : Options.parse args = .ok (some
      { config := "c.json", inputs := ["p.html"], output := some "out.jsonl",
        threads := some (-1) }) := eq_ok_of_toOption (by decide +kernel)
  have hloads : (loadConfig shelf "c.json").outcome.isOk = true := by decide +kernel
  refine ⟨?_, by decide +kernel⟩
  cases hconfig : (loadConfig shelf "c.json").outcome with
  | error e =>
    rw [hconfig] at hloads
    cases hloads
  | ok config => exact ⟨_, config, hparsed, hconfig, rfl⟩

end Command

end Harvest
