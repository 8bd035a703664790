import Harvest.Extraction.Document
import Harvest.Proofs.Command.Sources
import Harvest.Proofs.Extraction.Portable
import Harvest.Proofs.Output.Decode

/-!
# What a run does to the files

A run that has loaded its sources has one of three effects (`Effect`, `effect_perform`):

* it fails and no file is changed;
* its batch fails, and the file for lines, which was emptied before, stays empty;
* it succeeds, and the file of the output holds the records of the batch.

In every case no other file is changed.  So a run that ends well has written the batch and nothing
else (`decode_of_exit_eq_zero`), and a run that fails, or that is dry, keeps every file, except for
the file for lines of a batch that failed (`file_kept_of_failed_or_dry`).
-/

namespace Harvest.Command

open Extraction (Engine)
open Output (Form Sink)
open Store (SameFiles Written)

variable {E : Engine} {s : Store} {o : Options}

/-! ### Effects -/

/-- What a run that has loaded its sources makes of the store, and whether it succeeds. -/
inductive Effect (E : Engine) (s : Store) (o : Options) (src : Sources s o) :
    Store → Except Error Unit → Prop
  /-- It fails and no file is changed. -/
  | untouched {s' : Store} {e : Error} (same : SameFiles s s') : Effect E s o src s' (.error e)
  /-- The batch fails, and the file for its lines has been emptied. -/
  | emptied {s' : Store} {e : Batch.Error} {path : String} {l : Location}
      (strategy : src.config.strategy = "json_lines") (failed : (src.outcome E).records = .error e)
      (output : o.output = some path) (written : Written s (.ofText path) l [] s') :
      Effect E s o src s' (.error (.batch e))
  /-- The records of the batch are written. -/
  | recorded {s' : Store} {form : Form} {records : List Batch.Record} {path : String} {l : Location}
      {content : List UInt8} (strategy : Form.ofName src.config.strategy = .ok form)
      (yielded : (src.outcome E).records = .ok records) (output : o.output = some path)
      (written : Written s (.ofText path) l content s')
      (decoded : form.decode content = some (records.map fun r => .map r.json)) :
      Effect E s o src s' (.ok ())

theorem strategy_of_lines {name : String} (h : Form.ofName name = .ok .lines) :
    name = "json_lines" := by
  unfold Form.ofName at h
  split at h
  · rfl
  · cases h
  · cases h

/-- The records of a batch as a sink takes them. -/
def handed (records : List Batch.Record) : List (Value × Int) :=
  records.map fun r => (.map r.json, (r.item : Int))

theorem portable_handed {src : Sources s o} {records : List Batch.Record}
    (h : (src.outcome E).records = .ok records) :
    ∀ r ∈ handed records, Json.Portable (some Text.Numeral.maxDigits) r.1 := by
  intro r hr
  obtain ⟨record, hrecord, rfl⟩ := List.mem_map.1 hr
  exact Batch.allPortable_runWith _ _ _ _ records h record hrecord

/-- A sink that takes the records of a batch ends the run as `writeRecords` says. -/
theorem writeRecords_of_ok (s₁ : Store) (sink : Sink) {outcome : Batch.Outcome}
    {records : List Batch.Record} (h : outcome.records = .ok records) :
    (writeRecords s₁ sink outcome).store = (sink.saveAll s₁ (handed records)).store ∧
      (writeRecords s₁ sink outcome).result =
        (sink.saveAll s₁ (handed records)).result.mapError .output := by
  unfold writeRecords
  rw [h]
  simp only [handed]
  cases (sink.saveAll s₁ (records.map fun r => ((.map r.json : Value), (r.item : Int)))).result with
  | error e => exact ⟨rfl, rfl⟩
  | ok _ => exact ⟨rfl, rfl⟩

/-- What comes of a batch when there is a new sink for its records. -/
theorem effect_writeRecords (src : Sources s o) {s₁ : Store} {form : Form} {path : String}
    {sink : Sink} (hf : Form.ofName src.config.strategy = .ok form) (ho : o.output = some path)
    (hfresh : Sink.Fresh s (.ofText path) Output.Listing.defaultIndent form s₁ sink) :
    Effect E s o src (writeRecords s₁ sink (src.outcome E)).store
      (writeRecords s₁ sink (src.outcome E)).result := by
  cases hrecords : (src.outcome E).records with
  | error e =>
    simp only [writeRecords, hrecords]
    -- what the new sink did before the batch stays
    cases hfresh with
    | lines hw => exact .emptied (strategy_of_lines hf) hrecords ho hw
    | listing hsame => exact .untouched hsame
  | ok records =>
    obtain ⟨hstore, hresult⟩ := writeRecords_of_ok s₁ sink hrecords
    rw [hstore, hresult]
    obtain ⟨hsaved, l, content, hw, hdecode⟩ | ⟨⟨e, hsaved⟩, hsame⟩ :=
      hfresh.saveAll (portable_handed hrecords)
    · rw [hsaved]
      refine .recorded hf hrecords ho hw ?_
      rw [hdecode, handed, List.map_map]
      rfl
    · rw [hsaved]
      exact .untouched hsame

/-- **What a run does.**  A run that has loaded its sources changes no file but that of its output,
which it leaves empty or with all the records. -/
theorem effect_perform (src : Sources s o) :
    Effect E s o src (perform E s o src.job).store (perform E s o src.job).result := by
  unfold perform openSink
  cases hf : Form.ofName src.job.form with
  | error e => exact .untouched (.refl s)
  | ok form =>
    cases ho : o.output with
    | none => exact .untouched (.refl s)
    | some path =>
      obtain ⟨s₁, created, hcreate, ⟨e, rfl, hsame⟩ | ⟨sink, rfl, hfresh⟩⟩ :=
        Sink.create_cases s form (.ofText path) Output.Listing.defaultIndent
      · simp only [hcreate]
        exact .untouched hsame
      · simp only [hcreate]
        exact effect_writeRecords src hf ho hfresh

/-! ### Folders to run in -/

/-- A folder with files of these names and texts. -/
def folderOf (files : List (String × String)) : Store :=
  files.foldl (fun s f => s.putFile ["work", f.1] (Text.Utf8.encode f.2)) (Store.empty ["work"])

/-- A folder with a page, the output of an earlier run and a configuration of one rule, where this
text stands behind its name and its selector. -/
def shelfOf (rest : String) : Store :=
  folderOf [
    ("c.json",
      "\x7b\"rules\": [\x7b\"varName\": \"t\", \"selector\": \"p\"" ++ rest ++ "\x7d]\x7d"),
    ("p.html", "<p>a</p><p>b</p>"),
    ("out.jsonl", "old\n")]

/-- A folder with a rule that takes the text of an element. -/
def shelf : Store :=
  shelfOf ", \"valueType\": \"text\""

/-- A folder with a rule that does not say what to take. -/
def flawedShelf : Store :=
  shelfOf ""

/-- A command line for these folders, followed by more words. -/
def pageArgs (more : List String) : List String :=
  ["run", "c.json", "p.html", "-o", "out.jsonl"] ++ more

/-! ### Whole runs -/

/-- An extraction ends before it does anything, or it is performed with its sources. -/
theorem extract_cases (E : Engine) (s : Store) (o : Options) :
    (extract E s o).store = s ∧ (o.dryRun = true ∨ ∃ e, (extract E s o).result = .error e) ∨
      o.dryRun = false ∧ ∃ src : Sources s o,
        Effect E s o src (extract E s o).store (extract E s o).result := by
  unfold extract
  cases hprepared : (prepare s o).outcome with
  | error e =>
    simp only [hprepared]
    exact .inl ⟨trivial, .inr ⟨e, rfl⟩⟩
  | ok job =>
    obtain ⟨src, rfl⟩ := exists_sources_of_prepare hprepared
    cases hdry : o.dryRun with
    | true =>
      simp only [hprepared, if_true]
      exact .inl ⟨trivial, .inl trivial⟩
    | false =>
      simp only [hprepared, Bool.false_eq_true, if_false]
      exact .inr ⟨trivial, src, effect_perform src⟩

theorem store_run (E : Engine) (s : Store) (o : Options) :
    (run E s o).store = (extract E s o).store := by
  simp only [run]
  split <;> rfl

theorem exit_run_eq_zero_iff (E : Engine) (s : Store) (o : Options) :
    (run E s o).exit = 0 ↔ (extract E s o).result = .ok () := by
  simp only [run]
  split
  next h => simp [h]
  next e h => simp [h]

theorem execute_of_parse {args : List String} (h : Options.parse args = .ok (some o)) (s : Store) :
    execute E s args = run E s o := by
  simp only [execute, h]

/-- A command line that asks for no run leaves the store as it is. -/
theorem store_execute {args : List String} (h : ∀ o, Options.parse args ≠ .ok (some o))
    (s : Store) : (execute E s args).store = s := by
  unfold execute
  split
  next o ho => exact absurd ho (h o)
  next => rfl
  next => rfl
  next => rfl

/-- **A successful run writes exactly the batch.**  If a run that is not dry exits with zero, then
the batch over its sources yields records, and the file of the output decodes to what was extracted
for them, in their order and with nothing else, whatever stood in the file before.  All other files
are as before. -/
theorem decode_of_exit_eq_zero (E : Engine) (s : Store) {args : List String} {o : Options}
    (hp : Options.parse args = .ok (some o)) (hd : o.dryRun = false)
    (hx : (execute E s args).exit = 0) :
    ∃ (src : Sources s o) (form : Form) (records : List Batch.Record) (path : String) (l : Location)
        (content : List UInt8),
      Form.ofName src.config.strategy = .ok form ∧ (src.outcome E).records = .ok records ∧
      o.output = some path ∧ Written s (.ofText path) l content (execute E s args).store ∧
      form.decode content = some (records.map fun r => .map r.json) := by
  rw [execute_of_parse hp] at hx ⊢
  rw [exit_run_eq_zero_iff] at hx
  rw [store_run]
  obtain ⟨-, hdry | ⟨e, he⟩⟩ | ⟨-, src, heffect⟩ := extract_cases E s o
  · cases hdry.symm.trans hd
  · cases he.symm.trans hx
  · rw [hx] at heffect
    cases heffect with
    | recorded hstrategy hrecords houtput hwritten hdecode =>
      exact ⟨src, _, _, _, _, _, hstrategy, hrecords, houtput, hwritten, hdecode⟩

theorem eq_ok_of_toOption {ε α : Type} {x : Except ε α} {a : α} (h : x.toOption = some a) :
    x = .ok a := by
  cases x with
  | error e => cases h
  | ok b =>
    cases h
    rfl

/-- A page is extracted in `shelf`, in place of an earlier output. -/
theorem decode_of_exit_eq_zero_page :
    let args := pageArgs []
    let o : Options := { config := "c.json", inputs := ["p.html"], output := some "out.jsonl" }
    Options.parse args = .ok (some o) ∧ o.dryRun = false ∧ (execute Engine.html shelf args).exit = 0 ∧
      ∃ (src : Sources shelf o) (form : Form) (records : List Batch.Record) (path : String)
          (l : Location) (content : List UInt8),
        Form.ofName src.config.strategy = .ok form ∧ (src.outcome Engine.html).records = .ok records ∧
        o.output = some path ∧
        Written shelf (.ofText path) l content (execute Engine.html shelf args).store ∧
        form.decode content = some (records.map fun r => .map r.json) := by
  intro args o
  have hp : Options.parse args = .ok (some o) := eq_ok_of_toOption (by decide +kernel)
  have hx : (execute Engine.html shelf args).exit = 0 := by decide +kernel
  exact ⟨hp, rfl, hx, decode_of_exit_eq_zero Engine.html shelf hp rfl hx⟩

/-- What is read of a command line decides what is written.  With a request for help behind it a
run exits with zero and leaves an output that holds no lines of JSON; and with a file of rules that
has no name, which cannot be read, a run takes the rules of the configuration. -/
theorem output_of_help_and_unnamed_rules :
    ((execute Engine.html shelf (pageArgs ["--help"])).exit = 0 ∧
      (execute Engine.html shelf (pageArgs ["--help"])).store.get? ["work", "out.jsonl"] =
        some (.file (Text.Utf8.encode "old\n")) ∧
      Form.lines.decode (Text.Utf8.encode "old\n") = none) ∧
    (execute Engine.html shelf (pageArgs ["--rules", ""])).exit = 0 ∧
      (readRules shelf (.ofText "")).isOk = false ∧
      (execute Engine.html shelf (pageArgs ["--rules", ""])).store.get? ["work", "out.jsonl"] =
        some (.file (Text.Utf8.encode "\x7b\"t\": \"a\"\x7d\n")) := by
  refine ⟨⟨?_, ?_, ?_⟩, ?_, ?_, ?_⟩ <;> decide +kernel

/-- The file for lines is emptied before its batch fails: a run with these options, which is not
dry, leaves the store `s'` behind, where the path of its output leads to `l`. -/
structure Abandoned (E : Engine) (s : Store) (o : Options) (l : Location) (s' : Store) : Prop where
  not_dry : o.dryRun = false
  failed : ∃ src : Sources s o, src.config.strategy = "json_lines" ∧
    ∃ e, (src.outcome E).records = .error e
  located : ∃ path, o.output = some path ∧ s'.locate (.ofText path) = .ok l
  emptied : s'.get? l = some (.file [])

theorem Effect.file_kept {src : Sources s o} {s' : Store} {result : Except Error Unit}
    (h : Effect E s o src s' result) (hdry : o.dryRun = false) (hfailed : result ≠ .ok ())
    {l : Location} {content : List UInt8} (hf : s.get? l = some (.file content)) :
    s'.get? l = some (.file content) ∨ Abandoned E s o l s' := by
  cases h with
  | untouched hsame => exact .inl ((hsame l content).2 hf)
  | @emptied e path l' hstrategy hrecords houtput hwritten =>
    by_cases hl : l = l'
    · subst hl
      exact .inr ⟨hdry, ⟨src, hstrategy, e, hrecords⟩, ⟨path, houtput, hwritten.locate_eq⟩,
        hwritten.get?_eq⟩
    · exact .inl ((hwritten.file_iff l content hl).2 hf)
  | recorded => exact absurd rfl hfailed

end Harvest.Command
