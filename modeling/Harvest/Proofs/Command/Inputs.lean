import Harvest.Proofs.Batch.Carrier
import Harvest.Proofs.Batch.Records
import Harvest.Proofs.Command.Failure
import Harvest.Proofs.Command.Files
import Harvest.Proofs.Command.Supply
import Harvest.Proofs.Output.Agreement

/-!
# Markup in files and in records

The same markup can be given to a run as files, each of which is one text, or in JSON files that
list records, each of which is a text or carries it under the name of the property.  Such records
are loaded like the texts themselves (`Batch.load_of_carries`), so a batch over them is the same
batch (`Batch.runWith_of_carries`).

The two runs may start from different stores, which hold the one kind of input files or the other.
What else the command line names must be the same in both: then the configuration and the rules are
the same, and the output is written alike (`extract_agree`).  So both runs end in the same way
(`execute_of_carries`).
-/

namespace Harvest

/-! ### Records that carry texts -/

namespace Batch

open Extraction (Engine)

/-- A record is a text, or carries it under a name. -/
def Carries (name text : String) (record : Value) : Prop :=
  record = .text text ∨ record = .map [(name, .text text)]

variable {E : Engine} {d : Defaults}

theorem load_of_carries {text : String} {record : Value} (h : Carries d.property text record)
    (item : Nat) : load d item record = load d item (.text text) := by
  have hbare : load d item (.text text) = documents d (.text text) := load_bare rfl item
  obtain rfl | rfl := h
  · rfl
  · rw [load_under, hbare]

/-- **A batch cannot tell records from the texts that they carry.** -/
theorem runWith_of_carries {texts : List String} {records : List Value}
    (h : List.Forall₂ (Carries d.property) texts records)
    (rules : Except Rule.PayloadError (List Rule)) :
    runWith E d records rules = runWith E d (texts.map .text) rules := by
  have hlength : records.length = (texts.map Value.text).length := by
    rw [List.length_map, h.length_eq]
  have hempty : records.isEmpty = (texts.map Value.text).isEmpty := by
    rw [Bool.eq_iff_iff, List.isEmpty_iff_length_eq_zero, List.isEmpty_iff_length_eq_zero, hlength]
  have hsame (rules : List Rule) : List.Forall₂ (fun v w => ∀ item,
      loadedRecords E d rules item v = loadedRecords E d rules item w)
      records (texts.map .text) := by
    rw [List.forall₂_map_right_iff]
    refine h.flip.imp fun record text hrecord item => ?_
    rw [loadedRecords, load_of_carries hrecord]
    rfl
  unfold runWith
  rw [hempty]
  split
  · rfl
  · cases rules with
    | error e => simp only [runRefused, hlength]
    | ok rules =>
      obtain ⟨hrecords, hlines⟩ := allRecords_congr rfl (hsame rules) 0
      simp only [runRules, hlength, hrecords, hlines]

end Batch

namespace Command

open Extraction (Engine)
open Log (Told errorLines failureLines)
open Store (Agree AgreeAlong Covers contains_congr readText_congr read_congr)
open Text (Utf8.encode)

variable {E : Engine} {here : Location} {L : Location → Prop} {s t : Store}

/-! ### Command lines that differ in their inputs -/

/-- The paths that a command line names besides its inputs. -/
def Options.otherPaths (o : Options) : List String :=
  o.config :: (o.rules.toList ++ o.output.toList)

/-- The options with JSON files for the inputs. -/
def Options.withRecords (o : Options) (paths : List String) : Options :=
  { o with inputs := paths, items := true }

namespace Options

variable (o : Options) (paths : List String)

@[simp] theorem withRecords_config : (o.withRecords paths).config = o.config := rfl

@[simp] theorem withRecords_rules : (o.withRecords paths).rules = o.rules := rfl

@[simp] theorem withRecords_inputs : (o.withRecords paths).inputs = paths := rfl

@[simp] theorem withRecords_items : (o.withRecords paths).items = true := rfl

@[simp] theorem withRecords_dryRun : (o.withRecords paths).dryRun = o.dryRun := rfl

@[simp] theorem override_withRecords (d : Defaults) :
    override d (o.withRecords paths) = override d o := rfl

end Options

/-! ### Sources in stores that agree -/

theorem readValue_congr (h : Agree here L s t) {p : FilePath} (hp : Covers here L p) :
    readValue s p = readValue t p := by
  rw [readValue, readValue, readText, readText, readText_congr h hp]

theorem require_congr (h : Agree here L s t) {p : FilePath} (hp : Covers here L p)
    (missing : Error) : require s p missing = require t p missing := by
  rw [require, require, contains_congr h hp]

theorem loadConfig_congr (h : Agree here L s t) {path : String}
    (hp : Covers here L (.ofText path)) : loadConfig s path = loadConfig t path := by
  unfold loadConfig readConfig
  dsimp only
  rw [require_congr h hp, readValue_congr h hp]

theorem loadRules_congr (h : Agree here L s t) {path : String}
    (hp : Covers here L (.ofText path)) : loadRules s path = loadRules t path := by
  unfold loadRules readRules readText
  dsimp only
  rw [require_congr h hp, readText_congr h hp]

variable {o : Options}

theorem chooseRules_congr (h : Agree here L s t)
    (hp : ∀ path ∈ o.otherPaths, Covers here L (.ofText path)) (config : Config)
    (paths : List String) :
    chooseRules s o config = chooseRules t (o.withRecords paths) config := by
  unfold chooseRules
  rw [o.withRecords_rules]
  cases hrules : o.rules with
  | none => rfl
  | some path =>
    have hpath : path ∈ o.otherPaths := by simp [Options.otherPaths, hrules]
    simp only [loadRules_congr h (hp path hpath)]

theorem outcome_bind {ε α β : Type} (x : Told ε α) (f : α → Told ε β) :
    (x >>= f).outcome = x.outcome.bind fun a => (f a).outcome := by
  obtain ⟨log, outcome⟩ := x
  cases outcome <;> rfl

/-! ### Outputs in stores that agree -/

theorem writeRecords_agree (h : Agree here L s t) {sink : Output.Sink}
    (hp : Covers here L sink.path) (outcome : Batch.Outcome) :
    (writeRecords s sink outcome).result = (writeRecords t sink outcome).result ∧
      Agree here L (writeRecords s sink outcome).store (writeRecords t sink outcome).store := by
  cases hrecords : outcome.records with
  | error e =>
    simp only [writeRecords, hrecords]
    exact ⟨trivial, h⟩
  | ok records =>
    have hsaved := Output.Sink.saveAll_agree h hp (handed records)
    obtain ⟨hstore, hresult⟩ := writeRecords_of_ok s sink hrecords
    obtain ⟨hstore', hresult'⟩ := writeRecords_of_ok t sink hrecords
    rw [hstore, hresult, hstore', hresult', hsaved.result_eq]
    exact ⟨rfl, hsaved.store⟩

theorem openSink_agree (h : Agree here L s t)
    (hp : ∀ path ∈ o.otherPaths, Covers here L (.ofText path)) {o' : Options} {job job' : Job}
    (ho : o'.output = o.output) (hform : job'.form = job.form) :
    (openSink s o job).2 = (openSink t o' job').2 ∧
      Agree here L (openSink s o job).1 (openSink t o' job').1 ∧
      ∀ sink, (openSink s o job).2 = .ok sink → Covers here L sink.path := by
  unfold openSink
  rw [ho, hform]
  cases Output.Form.ofName job.form with
  | error e => exact ⟨rfl, h, nofun⟩
  | ok form =>
    cases houtput : o.output with
    | none => exact ⟨rfl, h, nofun⟩
    | some path =>
      have hcovers : Covers here L (.ofText path) := hp path (by simp [Options.otherPaths, houtput])
      obtain ⟨hsame, hagree⟩ :=
        Output.Sink.create_agree h hcovers form Output.Listing.defaultIndent
      have hpath (sink : Output.Sink)
          (hsink : (Output.Sink.create s form (.ofText path) Output.Listing.defaultIndent).2 =
            .ok sink) : sink.path = .ofText path :=
        Output.Sink.path_of_create hsink
      dsimp only
      generalize Output.Sink.create s form _ _ = x at hsame hagree hpath ⊢
      generalize Output.Sink.create t form _ _ = y at hsame hagree ⊢
      obtain ⟨s₁, created⟩ := x
      obtain ⟨t₁, created'⟩ := y
      subst hsame
      refine ⟨rfl, hagree, fun sink hsink => ?_⟩
      cases created with
      | error e => cases hsink
      | ok _ =>
        cases hsink
        rw [hpath sink rfl]
        exact hcovers

/-- **A job is performed alike.** -/
theorem perform_agree (h : Agree here L s t)
    (hp : ∀ path ∈ o.otherPaths, Covers here L (.ofText path)) {o' : Options} {job job' : Job}
    (ho : o'.output = o.output) (hform : job'.form = job.form)
    (hbatch : Batch.runWith E job'.defaults job'.items (.ok job'.rules) =
      Batch.runWith E job.defaults job.items (.ok job.rules)) :
    (perform E s o job).result = (perform E t o' job').result ∧
      Agree here L (perform E s o job).store (perform E t o' job').store ∧
      errorLines (perform E s o job).log = errorLines (perform E t o' job').log := by
  obtain ⟨hsame, hagree, hcovers⟩ := openSink_agree h hp ho hform
  unfold perform
  rw [hbatch]
  generalize openSink s o job = x, openSink t o' job' = y at hsame hagree hcovers
  obtain ⟨s₁, opened⟩ := x
  obtain ⟨t₁, opened'⟩ := y
  subst hsame
  cases opened with
  | error e => exact ⟨rfl, hagree, rfl⟩
  | ok sink =>
    obtain ⟨hresult, hstores⟩ := writeRecords_agree hagree (hcovers sink rfl) _
    exact ⟨hresult, hstores, by simp only [errorLines_writeRecords]⟩

/-! ### Runs -/

variable {paths texts : List String} {records : List Value} {N : String}

theorem outcome_prepare (s : Store) (o : Options) :
    (prepare s o).outcome = (loadConfig s o.config).outcome.bind fun config =>
      (chooseRules s o config).outcome.bind fun rules =>
        (readAllInputs s o.items o.inputs).map fun items =>
          ⟨config.strategy, override config.defaults o, rules, items⟩ := by
  unfold prepare
  rw [outcome_bind]
  congr 1
  funext config
  rw [outcome_bind]
  congr 1
  funext rules
  rw [outcome_bind, readInputs, outcome_bind]
  cases readAllInputs s o.items o.inputs <;> rfl

section Twins

-- a run over texts and a run over records that carry them, in stores that agree on all other files
variable (h : Agree here L s t)
  (hp : ∀ path ∈ o.otherPaths, Covers here L (.ofText path)) (hpages : o.items = false)
  (hN : ∀ config, readConfig s (.ofText o.config) = .ok config → config.defaults.property = N)
  (htexts : readAllInputs s false o.inputs = .ok (texts.map .text))
  (hrecords : readAllInputs t true paths = .ok records)
  (hcarries : List.Forall₂ (Batch.Carries N) texts records)

include h hp hpages hN htexts hrecords hcarries

/-- What is loaded for a run over records is a job with the same batch as for a run over the texts
that they carry; or the loading fails alike. -/
theorem prepare_agree :
    (∃ e, (prepare s o).outcome = .error e ∧
        (prepare t (o.withRecords paths)).outcome = .error e) ∨
      ∃ job job', (prepare s o).outcome = .ok job ∧
        (prepare t (o.withRecords paths)).outcome = .ok job' ∧ job'.form = job.form ∧
        Batch.runWith E job'.defaults job'.items (.ok job'.rules) =
          Batch.runWith E job.defaults job.items (.ok job.rules) := by
  have hloaded : loadConfig t o.config = loadConfig s o.config :=
    (loadConfig_congr h (hp _ List.mem_cons_self)).symm
  simp only [outcome_prepare, Options.withRecords_config, Options.withRecords_inputs,
    Options.withRecords_items, Options.override_withRecords, hloaded, hpages, htexts, hrecords]
  cases hconfig : (loadConfig s o.config).outcome with
  | error e => exact .inl ⟨e, rfl, rfl⟩
  | ok config =>
    simp only [Except.bind, ← chooseRules_congr h hp config paths]
    cases (chooseRules s o config).outcome with
    | error e => exact .inl ⟨e, rfl, rfl⟩
    | ok rules =>
      -- what the command line overrides is not the name under which the texts are looked for
      have hproperty : (override config.defaults o).property = N :=
        hN config (outcome_loadConfig hconfig)
      rw [← hproperty] at hcarries
      exact .inr ⟨_, _, rfl, rfl, rfl, Batch.runWith_of_carries hcarries (.ok rules)⟩

/-- **A run over records goes like a run over the texts that they carry.** -/
theorem extract_agree :
    (extract E s o).result = (extract E t (o.withRecords paths)).result ∧
      Agree here L (extract E s o).store (extract E t (o.withRecords paths)).store ∧
      errorLines (extract E s o).log = errorLines (extract E t (o.withRecords paths)).log := by
  rw [errorLines_extract, errorLines_extract]
  unfold extract
  obtain ⟨e, hprepare, hprepare'⟩ | ⟨job, job', hprepare, hprepare', hform, hbatch⟩ :=
    prepare_agree h hp hpages hN htexts hrecords hcarries
  · simp only [hprepare, hprepare']
    exact ⟨trivial, h, trivial⟩
  · by_cases hdry : o.dryRun
    · simp only [hprepare, hprepare', Options.withRecords_dryRun, hdry, if_true]
      exact ⟨trivial, h, trivial⟩
    · simp only [hprepare, hprepare', Options.withRecords_dryRun, hdry, Bool.false_eq_true,
        if_false]
      exact perform_agree h hp rfl hform hbatch

end Twins

theorem readAllInputs_of_pages {inputs : List String}
    (h : List.Forall₂ (fun path text =>
      s.read (.ofText path) = .ok (Utf8.encode text) ∧ '\r' ∉ text.toList) inputs texts) :
    readAllInputs s false inputs = .ok (texts.map .text) := by
  refine readAllInputs_eq_ok_iff.2 ⟨texts.map fun text => [.text text], ?_, ?_⟩
  · rw [List.forall₂_map_right_iff]
    refine h.imp fun path text ⟨hread, hno⟩ => ?_
    simp only [readInput, readText, Store.readText_of_encode hread hno]
    rfl
  · rw [← List.flatMap_def, List.map_eq_flatMap]

theorem readAllInputs_of_lists {blocks : List (List Value)}
    (h : List.Forall₂ (fun path block => readValue s (.ofText path) = .ok (.list block)) paths
      blocks) :
    readAllInputs s true paths = .ok blocks.flatten := by
  refine readAllInputs_eq_ok_iff.2 ⟨blocks, h.imp fun path block hread => ?_, rfl⟩
  simp only [readInput, hread]
  rfl

/-- A value is read from a file that holds its JSON text. -/
theorem readValue_of_write {v : Value} {path t : String}
    (hv : Json.Portable (some Text.Numeral.maxDigits) v) (ht : Json.write ⟨none⟩ v = .ok t)
    (hread : s.read (.ofText path) = .ok (Utf8.encode t)) :
    readValue s (.ofText path) = .ok v := by
  obtain ⟨file, hfile, hheld⟩ := exists_write_readValue hv
  cases hfile.symm.trans ht
  exact hheld s path hread

/-- **Files of markup and JSON records give the same output.**  Take two command lines that differ
in their inputs only.  The one names files of markup texts without carriage returns; the other names
JSON files of lists, which one after the other hold a record for each text: the text itself, or the
text under the name that the configuration, unless it is refused, has for the property.

The stores need to agree no further than along the paths that both command lines name.  They do if
they differ in input files only and none of these is the configuration, the rules, the output or a
folder above it.  Then both runs exit with the same code and tell the same errors, of which one is that
of the command line if they fail, and the file of the output has the same content behind both. -/
theorem execute_of_carries (E : Engine) {s₁ s₂ : Store} {args₁ args₂ : List String}
    {blocks : List (List Value)}
    (hargs₁ : Options.parse args₁ = .ok (some o)) (hpages : o.items = false)
    (hargs₂ : Options.parse args₂ = .ok (some (o.withRecords paths)))
    (hsame : ∀ path ∈ o.otherPaths, AgreeAlong s₁ s₂ (.ofText path))
    (hN : ∀ config, readConfig s₁ (.ofText o.config) = .ok config → config.defaults.property = N)
    (htexts : List.Forall₂ (fun path text =>
      s₁.read (.ofText path) = .ok (Utf8.encode text) ∧ '\r' ∉ text.toList) o.inputs texts)
    (hblocks : List.Forall₂ (fun path block =>
      readValue s₂ (.ofText path) = .ok (.list block)) paths blocks)
    (hcarries : List.Forall₂ (Batch.Carries N) texts blocks.flatten) :
    (execute E s₁ args₁).exit = (execute E s₂ args₂).exit ∧
      errorLines (execute E s₁ args₁).log = errorLines (execute E s₂ args₂).log ∧
      ((execute E s₁ args₁).exit ≠ 0 →
        ∃ e, failureLines (execute E s₁ args₁).log =
          [told .error ("Extraction failed: " ++ Error.message e)]) ∧
      ∀ path, o.output = some path →
        (execute E s₁ args₁).store.read (.ofText path) =
          (execute E s₂ args₂).store.read (.ofText path) := by
  -- what is looked at apart from the inputs is along one of these paths
  let L (l : Location) : Prop := ∃ path ∈ o.otherPaths, l ∈ Store.trail s₁.here (.ofText path)
  have hagree : Agree s₁.here L s₁ s₂ :=
    ⟨rfl, (hsame o.config List.mem_cons_self).here_right,
      fun l ⟨path, hpath, hl⟩ => (hsame path hpath).get?_eq l hl⟩
  have hcovers (path : String) (hpath : path ∈ o.otherPaths) :
      Covers s₁.here L (.ofText path) :=
    fun l hl => ⟨path, hpath, hl⟩
  obtain ⟨hresult, hstores, hlines⟩ := extract_agree (E := E) hagree hcovers hpages hN
    (readAllInputs_of_pages htexts) (readAllInputs_of_lists hblocks) hcarries
  rw [execute_of_parse hargs₁, execute_of_parse hargs₂]
  refine ⟨?_, ?_, exists_failure_of_exit_ne_zero s₁ o E, fun path hpath => ?_⟩
  · rw [exit_run, exit_run, hresult]
  · rw [errorLines_run, errorLines_run, hresult, hlines]
  · rw [store_run, store_run]
    exact read_congr hstores (hcovers path (by simp [Options.otherPaths, hpath]))

/-- A folder with a configuration whose property is spelled like a path, and with more files. -/
def archiveOf (files : List (String × String)) : Store :=
  folderOf <| ("c.json",
    "\x7b\"defaults\": \x7b\"dataPropertyName\": \"x[0].y\"\x7d, \"rules\": " ++
      "\x7b\"varName\": \"t\", \"selector\": \"p\", \"valueType\": \"text\"\x7d\x7d") :: files

/-- Two pages are extracted from files, and from a record and a text in two JSON files. -/
theorem execute_of_carries_archive :
    let pages := archiveOf [("a.html", "<p>a</p>"), ("b.html", "<p>é</p>")]
    let records := archiveOf [("a.json", "[\x7b\"x[0].y\": \"<p>a</p>\"\x7d]"),
      ("b.json", "[\"<p>é</p>\"]")]
    let args₁ := ["run", "c.json", "a.html", "b.html", "-o", "new/out.jsonl"]
    let args₂ := ["run", "c.json", "a.json", "b.json", "--items", "-o", "new/out.jsonl"]
    let o : Options :=
      { config := "c.json", inputs := ["a.html", "b.html"], output := some "new/out.jsonl" }
    Options.parse args₁ = .ok (some o) ∧
      Options.parse args₂ = .ok (some (o.withRecords ["a.json", "b.json"])) ∧
      (∀ path ∈ o.otherPaths, AgreeAlong pages records (.ofText path)) ∧
      (∀ config, readConfig pages (.ofText o.config) = .ok config →
        config.defaults.property = "x[0].y") ∧
      (execute Engine.html pages args₁).exit = 0 ∧ (execute Engine.html records args₂).exit = 0 ∧
      (execute Engine.html records args₂).store.read (.ofText "new/out.jsonl") =
        .ok (Utf8.encode "\x7b\"t\": \"a\"\x7d\n\x7b\"t\": \"é\"\x7d\n") := by
  intro pages records args₁ args₂ o
  have hargs₁ : Options.parse args₁ = .ok (some o) := eq_ok_of_toOption (by decide +kernel)
  have hargs₂ : Options.parse args₂ = .ok (some (o.withRecords ["a.json", "b.json"])) :=
    eq_ok_of_toOption (by decide +kernel)
  have hget : ∀ path ∈ o.otherPaths, ∀ l ∈ Store.trail pages.here (.ofText path),
      pages.get? l = records.get? l := by decide +kernel
  have hsame (path : String) (hpath : path ∈ o.otherPaths) :
      AgreeAlong pages records (.ofText path) :=
    ⟨rfl, by decide +kernel, hget path hpath⟩
  obtain ⟨hproperty, hzero, hwritten⟩ :
      (readConfig pages (.ofText o.config)).toOption.map (·.defaults.property) = some "x[0].y" ∧
        (execute Engine.html pages args₁).exit = 0 ∧
        (execute Engine.html pages args₁).store.read (.ofText "new/out.jsonl") =
          .ok (Utf8.encode "\x7b\"t\": \"a\"\x7d\n\x7b\"t\": \"é\"\x7d\n") := by
    decide +kernel
  have hN (config : Config) (hconfig : readConfig pages (.ofText o.config) = .ok config) :
      config.defaults.property = "x[0].y" := by
    rw [hconfig] at hproperty
    exact Option.some.inj hproperty
  have hrecord : readValue records (.ofText "a.json") =
      .ok (.list [.map [("x[0].y", .text "<p>a</p>")]]) :=
    readValue_of_write (t := "[\x7b\"x[0].y\": \"<p>a</p>\"\x7d]")
      ⟨⟨by decide, trivial, trivial⟩, trivial⟩ (by decide +kernel) (by decide +kernel)
  have htext : readValue records (.ofText "b.json") = .ok (.list [.text "<p>é</p>"]) :=
    readValue_of_write (t := "[\"<p>é</p>\"]") ⟨trivial, trivial⟩ (by decide +kernel)
      (by decide +kernel)
  have htexts : List.Forall₂ (fun path text =>
      pages.read (.ofText path) = .ok (Utf8.encode text) ∧ '\r' ∉ text.toList) o.inputs
      ["<p>a</p>", "<p>é</p>"] :=
    .cons (by decide +kernel) (.cons (by decide +kernel) .nil)
  obtain ⟨hexit, -, -, hout⟩ := execute_of_carries Engine.html hargs₁ rfl hargs₂ hsame hN htexts
    (.cons hrecord (.cons htext .nil)) (.cons (.inr rfl) (.cons (.inl rfl) .nil))
  exact ⟨hargs₁, hargs₂, hsame, hN, hzero, hexit.symm.trans hzero,
    (hout _ rfl).symm.trans hwritten⟩

end Command

end Harvest
