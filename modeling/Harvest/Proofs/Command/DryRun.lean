import Harvest.Proofs.Batch.Schedule
import Harvest.Proofs.Command.Failure
import Harvest.Proofs.Command.Files
import Harvest.Proofs.Command.Inputs
import Harvest.Proofs.Command.Rehearsal

/-!
# What a dry run vouches for

A dry run loads everything that a run works on, so that a run of the same command line without it
loads the same (`Options.Rehearses.exists_sources`).  What is left to go wrong is in two classes.
Some failures cannot be foreseen: an item or a document fails, or the store refuses the output
(`Unforeseen`).  Others could be: nobody looks at the name of the form of output, at a value of the
output that counts as none, or at a negative number of threads (`Overlooked`).  A run whose dry run
exits with zero fails for no other reason, and it does fail if there is something overlooked
(`exit_of_dry_run`).
-/

namespace Harvest

/-! ### The number of threads -/

section Threads

open Validation

theorem Defaults.one_le_threads_of_checked {v : Value} {d : Defaults}
    (h : Defaults.checked v = .ok d) : 1 ≤ d.threads := by
  cases v with
  | map es => exact Defaults.one_le_threads_of_ofEntries h
  | _ => cases h

theorem Config.one_le_threads_of_ofEntries {es : Entries} {config : Config}
    (h : Config.ofEntries es = .ok config) : 1 ≤ config.defaults.threads := by
  unfold Config.ofEntries at h
  cases hfields : (strategyField.read es).zip ((defaultsField.read es).zip (rulesField.read es)) with
  | error fs => simp [hfields, Except.map] at h
  | ok fields =>
    obtain ⟨strategy, defaults, rules⟩ := fields
    simp only [hfields, Except.map, Except.ok.injEq] at h
    subst h
    simp only [Checked.zip_eq_ok_iff] at hfields
    have hdefaults := hfields.2.1
    unfold FieldSpec.read at hdefaults
    split at hdefaults
    next key v _ =>
      cases hchecked : Defaults.checked v with
      | error fs => simp [defaultsField, hchecked, Checked.under] at hdefaults
      | ok d =>
        simp only [defaultsField, hchecked, Checked.under, Except.ok.injEq] at hdefaults
        subst hdefaults
        exact Defaults.one_le_threads_of_checked hchecked
    next =>
      cases hdefaults
      exact (by decide : (1 : Int) ≤ 20)

/-- The threads of a configuration that was read are at least one. -/
theorem Config.one_le_threads_of_ofValue {v : Value} {config : Config}
    (h : Config.ofValue v = .ok config) : 1 ≤ config.defaults.threads := by
  cases v with
  | map es =>
    unfold Config.ofValue Checked.report at h
    split at h
    next config' hconfig =>
      cases h
      exact Config.one_le_threads_of_ofEntries hconfig
    next => cases h
  | _ => cases h

end Threads

/-! ### Batches that fail -/

namespace Batch

open Extraction (Engine)

variable {E : Engine} {d : Defaults} {rules : List Rule} {items : List Value}

/-- An item fails a batch: it cannot be loaded, or one of its documents cannot be extracted. -/
inductive ItemFails (E : Engine) (d : Defaults) (rules : List Rule) (items : List Value) :
    Error → Prop
  | load {i : Nat} {v : Value} {e : LoadError} (item : items[i]? = some v)
      (failed : load d i v = .error e) : ItemFails E d rules items (.load e)
  | document {i : Nat} {v : Value} {documents : List String} {document : String}
      {e : Extraction.Error} (item : items[i]? = some v) (loaded : load d i v = .ok documents)
      (mem : document ∈ documents)
      (failed : Extraction.extractText E d.parser rules document = .error e) :
      ItemFails E d rules items (.extraction e)

theorem exists_of_documentRecords {item : Nat} {documents : List String} {e : Error}
    (h : documentRecords E d rules item documents = .error e) :
    ∃ document ∈ documents, ∃ e', Extraction.extractText E d.parser rules document = .error e' ∧
      e = .extraction e' := by
  induction documents with
  | nil => cases h
  | cons document documents ih =>
    have hlater {r : Record} (h : (documentRecords E d rules item documents).map (r :: ·) = .error e) :
        documentRecords E d rules item documents = .error e := by
      cases hrest : documentRecords E d rules item documents with
      | error e' =>
        rw [hrest] at h
        cases h
        rfl
      | ok records =>
        rw [hrest] at h
        cases h
    have hmem (h : documentRecords E d rules item documents = .error e) :
        ∃ document' ∈ document :: documents, ∃ e',
          Extraction.extractText E d.parser rules document' = .error e' ∧ e = .extraction e' := by
      obtain ⟨document', hdocument, e', he⟩ := ih h
      exact ⟨document', List.mem_cons_of_mem _ hdocument, e', he⟩
    rw [documentRecords] at h
    split at h
    · exact hmem (hlater h)
    next e' hextract =>
      split at h
      · exact hmem (hlater h)
      · cases h
        exact ⟨document, List.mem_cons_self, e', hextract, rfl⟩

/-- A batch over parsed rules with a positive number of threads fails by an item only. -/
theorem itemFails_of_allRecords {e : Error} (h : allRecords E d rules 0 items = .error e) :
    ItemFails E d rules items e := by
  obtain ⟨i, v, hv, hfail, -⟩ := allRecords_eq_error_iff.1 h
  rw [Nat.zero_add] at hfail
  unfold itemRecords loadedRecords at hfail
  cases hload : load d i v with
  | error e' =>
    rw [hload] at hfail
    dsimp only at hfail
    split at hfail <;> cases hfail
    exact .load hv hload
  | ok documents =>
    rw [hload] at hfail
    dsimp only at hfail
    cases hrecords : documentRecords E d rules i documents with
    | ok records =>
      rw [hrecords] at hfail
      cases hfail
    | error e' =>
      rw [hrecords] at hfail
      dsimp only at hfail
      split at hfail <;> cases hfail
      obtain ⟨document, hmem, e', he, rfl⟩ := exists_of_documentRecords hrecords
      exact .document hv hload hmem he

end Batch

namespace Command

open Extraction (Engine)
open Log (errorLines failureLines)
open Output (Form Sink)

variable {E : Engine} {s : Store} {o o' : Options}

/-! ### What is loaded again -/

theorem exists_readAllInputs_iff {items : Bool} {paths : List String} :
    (∃ records, readAllInputs s items paths = .ok records) ↔
      ∀ path ∈ paths, ∃ block, readInput s items path = .ok block := by
  induction paths with
  | nil => simp [readAllInputs]
  | cons path paths ih =>
    rw [List.forall_mem_cons, ← ih, readAllInputs]
    cases readInput s items path with
    | error e => simp
    | ok block => cases readAllInputs s items paths <;> simp [Except.map]

/-- **A run loads what its rehearsal loads**, but for inputs that it does not have. -/
theorem Options.Rehearses.exists_sources (h : o.Rehearses o') {job : Job}
    (hjob : (prepare s o).outcome = .ok job) :
    ∃ src : Sources s o', (prepare s o').outcome = .ok src.job := by
  have hchoose (config : Config) : chooseRules s o' config = chooseRules s o config := by
    unfold chooseRules
    rw [h.rules_eq]
  have hprepared : ∃ job', (prepare s o').outcome = .ok job' := by
    rw [outcome_prepare] at hjob ⊢
    rw [h.config_eq]
    cases hconfig : (loadConfig s o.config).outcome with
    | error e =>
      rw [hconfig] at hjob
      cases hjob
    | ok config =>
      simp only [hconfig, Except.bind, hchoose] at hjob ⊢
      cases hrules : (chooseRules s o config).outcome with
      | error e =>
        rw [hrules] at hjob
        cases hjob
      | ok rules =>
        simp only [hrules] at hjob ⊢
        cases hitems : readAllInputs s o.items o.inputs with
        | error e =>
          rw [hitems] at hjob
          cases hjob
        | ok items =>
          have hall := exists_readAllInputs_iff.1 ⟨items, hitems⟩
          obtain ⟨items', hitems'⟩ := exists_readAllInputs_iff.2 fun path hpath =>
            hall path (h.inputs_subset hpath)
          rw [h.items_eq, hitems']
          exact ⟨_, rfl⟩
  obtain ⟨job', hjob'⟩ := hprepared
  obtain ⟨src, rfl⟩ := exists_sources_of_prepare hjob'
  exact ⟨src, hjob'⟩

/-- What is loaded for some options is determined by the store. -/
theorem Sources.eq (src src' : Sources s o) : src = src' := by
  obtain ⟨config, rules, blocks, hconfig, hrules, hparse, hinputs⟩ := src
  obtain ⟨config', rules', blocks', hconfig', hrules', hparse', hinputs'⟩ := src'
  cases hconfig.symm.trans hconfig'
  have hsame : rules = rules' := by
    by_cases hpath : ∃ path, o.rules = some path ∧ path ≠ ""
    · obtain ⟨path, hpath, hne⟩ := hpath
      cases (hrules path hpath hne).symm.trans (hrules' path hpath hne)
      rfl
    · have hnone : ∀ path, o.rules = some path → path = "" := fun path hp =>
        by_contra fun hne => hpath ⟨path, hp, hne⟩
      cases (hparse hnone).symm.trans (hparse' hnone)
      rfl
  subst hsame
  have hblocks : blocks = blocks' := by
    clear hrules hparse hrules' hparse'
    generalize o.inputs = paths at hinputs hinputs'
    induction hinputs generalizing blocks' with
    | nil =>
      cases hinputs'
      rfl
    | cons hblock _ ih =>
      cases hinputs' with
      | cons hblock' hrest' =>
        cases hblock.symm.trans hblock'
        rw [ih _ hrest']
  subst hblocks
  rfl

/-! ### What is left to go wrong -/

/-- The failures of a run that its dry run cannot foresee: an item fails, or the store refuses the
output. -/
inductive Unforeseen (E : Engine) (src : Sources s o) : Error → Prop
  | item {e : Batch.Error} (failed : Batch.ItemFails E src.defaults src.rules src.items e) :
      Unforeseen E src (.batch e)
  | store (fault : Store.Fault) : Unforeseen E src (.output (.store fault))

/-- The failures of a run that its dry run overlooks. -/
inductive Overlooked (src : Sources s o) : Error → Prop
  /-- No form of output has the name that the configuration gives. -/
  | form (unknown : ∀ form, Form.ofName src.config.strategy ≠ .ok form) :
      Overlooked src (.output (.unknownForm src.config.strategy))
  /-- The value of the output counts as none. -/
  | output {form : Form} (known : Form.ofName src.config.strategy = .ok form)
      (missing : o.output = none) : Overlooked src .noOutput
  /-- The number of threads is negative, where there are items and a sink for their records. -/
  | threads {n : Int} {sink : Sink} (opened : (openSink s o src.job).2 = .ok sink)
      (items : src.items ≠ []) (asked : o.threads = some n) (negative : n < 0) :
      Overlooked src (.batch .threads)

theorem eq_unknownForm_of_ofName {name : String} {e : Output.Error}
    (h : Form.ofName name = .error e) : e = .unknownForm name := by
  unfold Form.ofName at h
  split at h
  · cases h
  · cases h
  · cases h
    rfl

theorem one_le_threads_of_readConfig {p : FilePath} {config : Config}
    (h : readConfig s p = .ok config) : 1 ≤ config.defaults.threads := by
  unfold readConfig at h
  cases hvalue : readValue s p with
  | error e =>
    rw [hvalue] at h
    cases h
  | ok v =>
    cases hv : Config.ofValue v with
    | error report =>
      rw [hvalue, Except.bind, hv] at h
      cases h
    | ok config' =>
      rw [hvalue, Except.bind, hv] at h
      cases h
      exact Config.one_le_threads_of_ofValue hv

/-- A number of threads that overrides another is negative, or the number in force is legal. -/
theorem threads_override_cases {d : Defaults} (h : 1 ≤ d.threads) (o : Options) :
    ((override d o).threads < 0 ∧ ∃ n, o.threads = some n ∧ n < 0) ∨
      (1 ≤ (override d o).threads ∧ ¬ ∃ n, o.threads = some n ∧ n < 0) := by
  unfold override
  cases hthreads : o.threads with
  | none =>
    refine .inr ⟨h, ?_⟩
    rintro ⟨n, hn, -⟩
    cases hn
  | some n =>
    simp only [Option.some.injEq, exists_eq_left']
    split <;> omega

theorem Sources.threads_neg_iff (src : Sources s o) :
    src.defaults.threads < 0 ↔ ∃ n, o.threads = some n ∧ n < 0 := by
  obtain ⟨hneg, hasked⟩ | ⟨hlegal, hnot⟩ :=
    threads_override_cases (one_le_threads_of_readConfig src.readConfig_eq) o
  · exact iff_of_true hneg hasked
  · exact iff_of_false (show ¬ (override src.config.defaults o).threads < 0 by omega) hnot

/-- What the batch of a run comes to. -/
theorem Sources.records_cases (src : Sources s o) :
    (src.items ≠ [] ∧ src.defaults.threads < 0 ∧ (src.outcome E).records = .error .threads) ∨
    (src.items = [] ∨ 0 ≤ src.defaults.threads) ∧
      ((∃ records, (src.outcome E).records = .ok records) ∨
        ∃ e, Batch.ItemFails E src.defaults src.rules src.items e ∧
          (src.outcome E).records = .error e) := by
  unfold Sources.outcome Batch.runWith
  cases hitems : src.items with
  | nil => exact .inr ⟨.inl rfl, .inl ⟨[], rfl⟩⟩
  | cons v vs =>
    simp only [List.isEmpty_cons, Bool.false_eq_true, if_false, Batch.runRules]
    by_cases hthreads : src.defaults.threads < 0
    · rw [if_pos hthreads]
      exact .inl ⟨List.cons_ne_nil v vs, hthreads, rfl⟩
    · rw [if_neg hthreads]
      refine .inr ⟨.inr (Int.not_lt.1 hthreads), ?_⟩
      cases hrecords : Batch.allRecords E src.defaults src.rules 0 (v :: vs) with
      | ok records => exact .inl ⟨records, rfl⟩
      | error e => exact .inr ⟨e, Batch.itemFails_of_allRecords hrecords, rfl⟩

/-- How a run ends behind a new sink. -/
theorem perform_of_openSink (src : Sources s o) {s₁ : Store} {sink : Sink}
    (h : openSink s o src.job = (s₁, .ok sink)) :
    perform E s o src.job = writeRecords s₁ sink (src.outcome E) := by
  unfold perform
  rw [h]
  rfl

/-- **What is overlooked does fail the run.** -/
theorem result_of_overlooked {src : Sources s o} {e : Error} (h : Overlooked src e) :
    (perform E s o src.job).result = .error e := by
  cases h with
  | form unknown =>
    cases hform : Form.ofName src.config.strategy with
    | ok form => exact absurd hform (unknown form)
    | error e =>
      have hjob : Form.ofName src.job.form = .error e := hform
      cases eq_unknownForm_of_ofName hform
      simp only [perform, openSink, hjob]
  | output known missing =>
    have hjob : Form.ofName src.job.form = .ok _ := known
    simp only [perform, openSink, hjob, missing]
  | @threads n sink opened items asked negative =>
    cases hopen : openSink s o src.job with
    | mk s₁ created =>
      rw [hopen] at opened
      cases opened
      have hthreads := src.threads_neg_iff.2 ⟨n, asked, negative⟩
      have hrecords : (src.outcome E).records = .error .threads := by
        obtain ⟨-, -, hrecords⟩ | ⟨hitems | hpositive, -⟩ := src.records_cases (E := E)
        · exact hrecords
        · exact absurd hitems items
        · omega
      rw [perform_of_openSink src hopen, writeRecords, hrecords]

/-- **How a run ends**: it fails for something that was overlooked, or nothing was and it succeeds or
fails for something unforeseen. -/
theorem result_perform_cases (src : Sources s o) :
    (∃ e, Overlooked src e) ∨ (perform E s o src.job).result = .ok () ∨
      ∃ e, Unforeseen E src e ∧ (perform E s o src.job).result = .error e := by
  cases hform : Form.ofName src.config.strategy with
  | error e => exact .inl ⟨_, .form fun form h => by cases hform.symm.trans h⟩
  | ok form =>
    cases hout : o.output with
    | none => exact .inl ⟨_, .output hform hout⟩
    | some path =>
      have hjob : Form.ofName src.job.form = .ok form := hform
      obtain ⟨s₁, created, hcreate, ⟨fault, rfl, -⟩ | ⟨sink, rfl, hfresh⟩⟩ :=
        Sink.create_cases s form (.ofText path) Output.Listing.defaultIndent
      · refine .inr (.inr ⟨_, .store fault, ?_⟩)
        simp only [perform, openSink, hjob, hout, hcreate, Except.mapError]
      · have hopen : openSink s o src.job = (s₁, .ok sink) := by
          simp only [openSink, hjob, hout, hcreate, Except.mapError]
        -- what can fail now is the batch, or the writing of its records
        rw [perform_of_openSink src hopen]
        obtain ⟨hitems, hthreads, -⟩ | ⟨-, ⟨records, hrecords⟩ | ⟨e, hfails, hrecords⟩⟩ :=
          src.records_cases
        · obtain ⟨n, asked, negative⟩ := src.threads_neg_iff.1 hthreads
          exact .inl ⟨_, .threads (by rw [hopen]) hitems asked negative⟩
        · obtain ⟨-, hresult⟩ := writeRecords_of_ok s₁ sink hrecords
          rw [hresult]
          obtain ⟨hsaved, -⟩ | ⟨⟨fault, hsaved⟩, -⟩ := hfresh.saveAll (portable_handed hrecords)
          · rw [hsaved]
            exact .inr (.inl rfl)
          · rw [hsaved]
            exact .inr (.inr ⟨_, .store fault, rfl⟩)
        · rw [writeRecords, hrecords]
          exact .inr (.inr ⟨_, .item hfails, rfl⟩)

/-! ### Whole runs -/

theorem exists_job_of_extract (h : (extract E s o).result = .ok ()) :
    ∃ job, (prepare s o).outcome = .ok job := by
  unfold extract at h
  cases hprepared : (prepare s o).outcome with
  | error e =>
    simp only [hprepared] at h
    cases h
  | ok job => exact ⟨job, rfl⟩

theorem result_extract {job : Job} (h : (prepare s o).outcome = .ok job) :
    (extract E s o).result = if o.dryRun then .ok () else (perform E s o job).result := by
  unfold extract
  simp only [h]
  split <;> rfl

/-- A command line that exits with zero asks for help, or for a run whose sources can be loaded. -/
theorem parse_of_exit_eq_zero {args : List String} (h : (execute E s args).exit = 0) :
    (∃ page, Options.parse args = .error (.help page)) ∨
      ∃ o job, Options.parse args = .ok (some o) ∧ (prepare s o).outcome = .ok job := by
  cases hp : Options.parse args with
  | error stop =>
    cases stop with
    | help page => exact .inl ⟨page, rfl⟩
    | usage e =>
      simp only [execute, hp] at h
      cases h
  | ok asked =>
    cases asked with
    | none =>
      simp only [execute, hp] at h
      cases h
    | some o =>
      rw [execute_of_parse hp, exit_run_eq_zero_iff] at h
      obtain ⟨job, hjob⟩ := exists_job_of_extract h
      exact .inr ⟨o, job, rfl, hjob⟩

/-- A run that fails exits with one and tells why. -/
theorem fails_of_result {args : List String} (hp : Options.parse args = .ok (some o)) {e : Error}
    (h : (extract E s o).result = .error e) :
    (execute E s args).exit = 1 ∧ failureLines (execute E s args).log = [failureLine e] := by
  rw [execute_of_parse hp, exit_run, failureLines_run, h]
  exact ⟨rfl, rfl⟩

end Command

end Harvest
