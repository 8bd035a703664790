import Harvest.Command.Load
import Harvest.Proofs.Output.History

/-!
# A list is read back

Records are handed to a new list, which is finished any number of times in between.  To save a record
leaves every file alone, and what a list is finished with are the records that were handed to it so
far (`Keeps`); each call keeps this (`Keeps.call`), so it holds behind any calls (`Keeps.reached`).

If the indent is white space, a finished list is read back as input: the reader unifies the line
breaks of the file, which respaces the text and no more, and takes the elements of the list for its
items.  These are the records, as they are what a file for lines holds behind the same calls
(`finished_list_reads_back`).
-/

namespace Harvest

theorem Store.Written.read_eq {s s₁ : Store} {p : FilePath} {l : Location} {content : List UInt8}
    (h : Store.Written s p l content s₁) : s₁.read p = .ok content := by
  rw [Store.read, h.locate_eq]
  simp only [h.get?_eq]

namespace Output

open Json (Portable)
open Store (Written)
open Text

variable {s s₁ : Store} {path : FilePath} {indent : Value} {o : Listing} {records : List Value}

/-! ### Calls in a row -/

namespace Sink

/-- The store and the sink behind some calls. -/
def reached (s : Store) (o : Sink) : List Call → Store × Sink
  | [] => (s, o)
  | c :: cs => (o.call s c).sink.reached (o.call s c).store cs

theorem calls_append (s : Store) (o : Sink) (cs ds : List Call) :
    let seen := (o.reached s cs).2.calls (o.reached s cs).1 ds
    o.calls s (cs ++ ds) = { seen with results := (o.calls s cs).results ++ seen.results } := by
  induction cs generalizing s o with
  | nil => rfl
  | cons c cs ih =>
    have hrest := ih (o.call s c).store (o.call s c).sink
    simp only [List.cons_append, calls, reached] at hrest ⊢
    rw [hrest]

end Sink

/-! ### What a list keeps -/

/-- The record that is handed over in a call, if one is. -/
def Call.record? : Call → Option Value
  | .save record _ => some record
  | .finish => none

/-- The records that are handed over in some calls. -/
def submitted (cs : List Call) : List Value :=
  cs.filterMap Call.record?

/-- A list for a file, with an indent, has these records to finish with. -/
structure Keeps (path : FilePath) (indent : Value) (records : List Value) (o : Listing) :
    Prop where
  path_eq : o.path = path
  indent_eq : o.indent = indent
  buffer_eq : o.buffer = records

theorem sink_finish_listing (s : Store) (o : Listing) :
    ((Sink.listing o).finish s).sink = .listing o ∧
      ((Sink.listing o).finish s).store = (o.finish s).1 := by
  simp only [Sink.finish]
  cases o.finish s with
  | mk s₁ result => cases result <;> exact ⟨rfl, rfl⟩

/-- **A call keeps the records**, and the one that it hands over joins them. -/
theorem Keeps.call (h : Keeps path indent records o) (s : Store) (c : Call) :
    ∃ o', ((Sink.listing o).call s c).sink = .listing o' ∧
      Keeps path indent (records ++ submitted [c]) o' := by
  obtain ⟨rfl, rfl, rfl⟩ := h
  cases c with
  | finish => exact ⟨o, (sink_finish_listing s o).1, rfl, rfl, (List.append_nil _).symm⟩
  | save record item =>
    simp only [Sink.call, Sink.save, Listing.save]
    cases line record with
    | error e => exact ⟨_, rfl, rfl, rfl, rfl⟩
    | ok text => exact ⟨_, rfl, rfl, rfl, rfl⟩

/-- **So they are kept behind any calls.** -/
theorem Keeps.reached (h : Keeps path indent records o) (s : Store) (cs : List Call) :
    ∃ s' o', (Sink.listing o).reached s cs = (s', .listing o') ∧
      Keeps path indent (records ++ submitted cs) o' := by
  induction cs generalizing s o records with
  | nil => exact ⟨s, o, rfl, by rwa [show submitted [] = [] from rfl, List.append_nil]⟩
  | cons c cs ih =>
    obtain ⟨o₁, hsink, h₁⟩ := h.call s c
    obtain ⟨s', o', hreached, h'⟩ := ih h₁ ((Sink.listing o).call s c).store
    have hcons : submitted [c] ++ submitted cs = submitted (c :: cs) :=
      (List.filterMap_append ..).symm
    rw [List.append_assoc, hcons] at h'
    rw [Sink.reached, hsink]
    exact ⟨s', o', hreached, h'⟩

theorem keeps_of_create (h : Listing.create s path indent = (s₁, .ok o)) :
    Keeps path indent [] o := by
  unfold Listing.create at h
  split at h
  · cases h
  · cases h
    exact ⟨rfl, rfl, rfl⟩

/-! ### Indents of white space -/

/-- The indents that are white space: none, a number of spaces, where a truth value is a number too,
and a text of white space. -/
inductive BlankIndent : Value → Prop
  | absent : BlankIndent .null
  | spaces (n : Int) : BlankIndent (.int n)
  | flag (b : Bool) : BlankIndent (.bool b)
  | text {s : String} (h : ∀ c ∈ s.toList, Json.isSpace c = true) : BlankIndent (.text s)

theorem blank_of_spaces {n : Int} {l : Json.Layout} (h : Listing.spaces n = .ok l) : l.Blank := by
  unfold Listing.spaces at h
  split at h
  · cases h
    intro indent hindent c hc
    cases hindent
    rw [String.toList_ofList] at hc
    rw [List.eq_of_mem_replicate hc]
    rfl
  · cases h

theorem BlankIndent.blank (h : BlankIndent indent) {l : Json.Layout}
    (hl : Listing.layout indent = .ok l) : l.Blank := by
  cases h with
  | absent =>
    cases hl
    exact Json.blank_none
  | spaces n => exact blank_of_spaces hl
  | flag b => exact blank_of_spaces hl
  | text h =>
    cases hl
    intro indent hindent
    cases hindent
    exact h

/-- Such an indent is refused only if it is a number of spaces that is too large. -/
theorem BlankIndent.exists_layout_iff (h : BlankIndent indent) :
    (∃ l, Listing.layout indent = .ok l) ↔
      ∀ n, indent = .int n → Numeral.isWord n = true := by
  have hspaces (n : Int) : (∃ l, Listing.spaces n = .ok l) ↔ Numeral.isWord n = true := by
    unfold Listing.spaces
    split
    next hn => simp [hn]
    next hn => simp [hn]
  cases h with
  | absent => exact iff_of_true ⟨_, rfl⟩ (by simp)
  | spaces n => exact (hspaces n).trans (by simp)
  | flag b => exact iff_of_true ((hspaces _).2 (by cases b <;> decide)) (by simp)
  | text h => exact iff_of_true ⟨_, rfl⟩ (by simp)

/-! ### Finished lists -/

/-- The text of a list of portable records is read as the list, with its line breaks unified or not.
-/
theorem exists_render (hindent : BlankIndent o.indent)
    (hb : ∀ record ∈ o.buffer, Portable (some Numeral.maxDigits) record) {l : Json.Layout}
    (hl : Listing.layout o.indent = .ok l) :
    ∃ text, o.render = (text, .ok ()) ∧ Json.read text = .ok (.list o.buffer) ∧
      Json.read (String.ofList (unifyBreaks text.toList)) = .ok (.list o.buffer) := by
  have hlist : Portable (some Numeral.maxDigits) (.list o.buffer) := Json.portableAll_iff.2 hb
  obtain ⟨text, htext, hread⟩ := Json.read_write (hindent.blank hl) hlist
  obtain ⟨text', htext', hread'⟩ :=
    Json.read_respaced Json.respaces_unifyBreaks (hindent.blank hl) hlist
  cases htext.symm.trans htext'
  exact ⟨text, by simp only [Listing.render, hl, htext], hread, hread'⟩

/-- To finish a list again ends like the first time, and the file stays as it is. -/
theorem finish_again (s : Store) (o : Listing) :
    (o.finish (o.finish s).1).2 = (o.finish s).2 ∧
      (o.finish (o.finish s).1).1.read o.path = (o.finish s).1.read o.path := by
  cases hwrite : s.write o.path (Utf8.encode o.render.1) with
  | error fault =>
    have hfinish : o.finish s = (s, .error (.store fault)) := by
      simp only [Listing.finish, hwrite]
    simp only [hfinish, and_self]
  | ok s₁ =>
    obtain ⟨l, -, hw⟩ := Store.exists_written_of_change hwrite
    obtain ⟨s₂, hwrite₂, hw₂⟩ := hw.change fun _ => Utf8.encode o.render.1
    have hfinish : o.finish s = (s₁, o.render.2) := by simp only [Listing.finish, hwrite]
    have hfinish₂ : o.finish s₁ = (s₂, o.render.2) := by
      rw [Listing.finish, Store.write, hwrite₂]
    rw [hfinish, hfinish₂, hw.read_eq, hw₂.read_eq]
    exact ⟨rfl, rfl⟩

/-- **When a list can be finished, and what its file holds then.** -/
theorem finish_eq_ok_iff (s : Store) (hindent : BlankIndent o.indent)
    (hb : ∀ record ∈ o.buffer, Portable (some Numeral.maxDigits) record) :
    ((o.finish s).2 = .ok () ↔ (∀ n, o.indent = .int n → Numeral.isWord n = true) ∧
      ∃ s', s.write o.path [] = .ok s') ∧
    ((o.finish s).2 = .ok () → ∃ text, (o.finish s).1.read o.path = .ok (Utf8.encode text) ∧
      Json.read text = .ok (.list o.buffer) ∧
      Json.read (String.ofList (unifyBreaks text.toList)) = .ok (.list o.buffer)) := by
  rw [← hindent.exists_layout_iff]
  cases hwrite : s.write o.path (Utf8.encode o.render.1) with
  | error fault =>
    -- the store refuses the file whatever is to stand in it
    have hempty : s.write o.path [] = .error fault := Store.change_eq_error hwrite _
    simp [Listing.finish, hwrite, hempty]
  | ok s₁ =>
    obtain ⟨l, -, hw⟩ := Store.exists_written_of_change hwrite
    have hempty : ∃ s', s.write o.path [] = .ok s' := by
      cases hempty : s.write o.path [] with
      | error fault => cases (Store.change_eq_error hempty _).symm.trans hwrite
      | ok s' => exact ⟨s', rfl⟩
    have hfinish : o.finish s = (s₁, o.render.2) := by simp only [Listing.finish, hwrite]
    rw [hfinish, hw.read_eq]
    cases hl : Listing.layout o.indent with
    | error e =>
      have hrender : o.render.2 = .error e := by simp only [Listing.render, hl]
      simp [hrender]
    | ok l =>
      obtain ⟨text, hrender, hread, hread'⟩ := exists_render hindent hb hl
      rw [hrender]
      exact ⟨iff_of_true rfl ⟨⟨l, rfl⟩, hempty⟩, fun _ => ⟨text, rfl, hread, hread'⟩⟩

/-! ### Lines of the same records -/

theorem kept_of_portable {cs : List Call}
    (h : ∀ record ∈ submitted cs, Portable (some Numeral.maxDigits) record) :
    AreLines (submitted cs) ((kept cs).map Kept.text) := by
  induction cs with
  | nil => exact .nil
  | cons c cs ih =>
    cases c with
    | finish => exact ih h
    | save record item =>
      obtain ⟨hrecord, hrest⟩ := List.forall_mem_cons.1 h
      obtain ⟨text, htext, -⟩ := exists_line hrecord
      have hkept : kept (.save record item :: cs) = ⟨record, item, text⟩ :: kept cs := by
        simp [kept, Call.kept?, htext, Except.toOption]
      rw [hkept]
      exact .cons htext (ih hrest)

/-- A file for lines holds the records that were handed over. -/
theorem exists_decode_lines {t t₁ : Store} {lines : Lines}
    (h : Lines.create t path = (t₁, .ok lines)) {cs : List Call}
    (hcs : ∀ record ∈ submitted cs, Portable (some Numeral.maxDigits) record) :
    ∃ content, ((Sink.lines lines).calls t₁ cs).store.read path = .ok content ∧
      Form.lines.decode content = some (submitted cs) := by
  obtain ⟨l, hnew⟩ := holds_of_create h
  obtain ⟨o', -, -, hholds⟩ := hnew.calls cs
  refine ⟨_, hholds.written.read_eq, ?_⟩
  rw [decode_encode, List.nil_append]
  exact decodeLines_textOfLines (kept_of_portable hcs) hcs

/-! ### Reading it back -/

/-- The items of a file are the elements of the list that its text is, with its line breaks unified.
-/
theorem outcome_readInputs_of_read {path text : String} {vs : List Value}
    (hread : s.read (.ofText path) = .ok (Utf8.encode text))
    (hlist : Json.read (String.ofList (unifyBreaks text.toList)) = .ok (.list vs)) :
    (Command.readInputs s [path] true).outcome = .ok vs := by
  have htext : Command.readText s (.ofText path) =
      .ok (String.ofList (unifyBreaks text.toList)) := by
    simp only [Command.readText, Store.readText, hread, Store.textOf, Utf8.decode_encode,
      Except.mapError]
  have hvalue : Command.readValue s (.ofText path) = .ok (.list vs) := by
    rw [Command.readValue, htext, Except.bind, hlist, Except.mapError]
  have hall : Command.readAllInputs s true [path] = .ok vs := by
    simp only [Command.readAllInputs, Command.readInput, hvalue, if_pos, Except.map,
      Command.recordsOf, List.append_nil]
  rw [Command.readInputs, hall]
  rfl

/-- **A finished list is read back.**  Take a new list with an indent that is white space and any
calls of it that hand over portable records.  A record that is saved leaves every file alone.  To
finish the list succeeds exactly if the indent is no number that is too large and the store takes
the file; to finish it once more ends the same way and leaves the file as it is.  If it succeeds,
the file is read as input, item by item, as the records that were handed over so far, in order;
and they are what the list decodes to, as do the lines of a new file for lines behind the same
calls. -/
theorem finished_list_reads_back {path : String} (hindent : BlankIndent indent)
    (h : Listing.create s (.ofText path) indent = (s₁, .ok o)) {cs : List Call}
    (hcs : ∀ record ∈ submitted cs, Portable (some Numeral.maxDigits) record) :
    let file := FilePath.ofText path
    let seen (ds : List Call) := (Sink.listing o).calls s₁ (cs ++ ds)
    (∀ record item, Portable (some Numeral.maxDigits) record →
      (seen [.save record item]).results = (seen []).results ++ [.ok ()] ∧
        (seen [.save record item]).store = (seen []).store) ∧
    ∃ result,
      (seen [.finish]).results = (seen []).results ++ [result] ∧
      (seen [.finish, .finish]).results = (seen []).results ++ [result, result] ∧
      (seen [.finish, .finish]).store.read file = (seen [.finish]).store.read file ∧
      (result = .ok () ↔ (∀ n, indent = .int n → Numeral.isWord n = true) ∧
        ∃ s', (seen []).store.write file [] = .ok s') ∧
      (result = .ok () →
        (Command.readInputs (seen [.finish]).store [path] true).outcome = .ok (submitted cs) ∧
        ∃ content, (seen [.finish]).store.read file = .ok content ∧
          Form.listing.decode content = some (submitted cs) ∧
          ∀ t t₁ file' lines, Lines.create t file' = (t₁, .ok lines) →
            ∃ content', ((Sink.lines lines).calls t₁ cs).store.read file' = .ok content' ∧
              Form.lines.decode content' = Form.listing.decode content) := by
  intro file seen
  obtain ⟨s', o', hreached, hkeeps⟩ := (keeps_of_create h).reached s₁ cs
  have hseen (ds : List Call) : seen ds =
      { (Sink.listing o').calls s' ds with
        results := ((Sink.listing o).calls s₁ cs).results ++
          ((Sink.listing o').calls s' ds).results } := by
    simpa only [hreached] using Sink.calls_append s₁ (.listing o) cs ds
  have hpath : o'.path = file := hkeeps.path_eq
  obtain rfl : o'.indent = indent := hkeeps.indent_eq
  have hbuffer : o'.buffer = submitted cs := hkeeps.buffer_eq
  rw [← hbuffer] at hcs
  obtain ⟨hagain, hsame⟩ := finish_again s' o'
  obtain ⟨hiff, hread⟩ := finish_eq_ok_iff s' hindent hcs
  rw [hpath] at hsame hiff hread
  rw [hbuffer] at hread
  refine ⟨fun record item hrecord => ?_, (o'.finish s').2, ?_, ?_, ?_, ?_, fun hok => ?_⟩
  · obtain ⟨text, htext, -⟩ := exists_line hrecord
    simp only [hseen, Sink.calls, Sink.call, Sink.save, Listing.save, htext, List.append_nil,
      and_self]
  · simp only [hseen, Sink.calls, Sink.call, result_finish_listing, List.append_nil]
  · simp only [hseen, Sink.calls, Sink.call, result_finish_listing, sink_finish_listing, hagain,
      List.append_nil]
  · simpa only [hseen, Sink.calls, Sink.call, sink_finish_listing] using hsame
  · simpa only [hseen, Sink.calls] using hiff
  · obtain ⟨text, htext, hlist, hlist'⟩ := hread hok
    have hfile : (seen [.finish]).store.read file = .ok (Utf8.encode text) := by
      simpa only [hseen, Sink.calls, Sink.call, sink_finish_listing] using htext
    have hdecode : Form.listing.decode (Utf8.encode text) = some (submitted cs) := by
      simp only [decode_encode, decodeList, hlist]
    refine ⟨outcome_readInputs_of_read hfile hlist', _, hfile, hdecode, ?_⟩
    intro t t₁ file' lines hlines
    rw [hbuffer] at hcs
    rw [hdecode]
    exact exists_decode_lines hlines hcs

/-- A list with a line break for its indent, which is finished between two records. -/
theorem finished_list_reads_back_breaks :
    let s := Store.empty ["work"]
    let path := "out.json"
    let first := Value.map [("a\n", .list [.int (-7), .null]), ("b", .list [])]
    let cs : List Call := [.save first 3, .finish, .save (.map []) 0]
    ∃ s₁ o, Listing.create s (.ofText path) (.text "\r\n") = (s₁, .ok o) ∧
      let seen := (Sink.listing o).calls s₁ (cs ++ [.finish])
      seen.results.map Except.isOk = [true, true, true, true] ∧
        (Command.readInputs seen.store [path] true).outcome = .ok [first, .map []] := by
  intro s path first cs
  have hindent : BlankIndent (.text "\r\n") := .text (by simp [Json.isSpace])
  have hcs : ∀ record ∈ submitted cs, Portable (some Numeral.maxDigits) record := by
    refine List.forall_mem_cons.2 ⟨⟨by decide, ⟨?_, trivial, trivial⟩, trivial, trivial⟩,
      List.forall_mem_singleton.2 ⟨List.nodup_nil, trivial⟩⟩
    exact ⟨by decide +kernel, by decide +kernel⟩
  have hcreated : (Listing.create s (.ofText path) (.text "\r\n")).2.toOption.map (fun o =>
      let seen := (Sink.listing o).calls (Listing.create s (.ofText path) (.text "\r\n")).1 cs
      (seen.results.map Except.isOk, (seen.store.write (.ofText path) []).isOk)) =
      some ([true, true, true], true) := by
    decide +kernel
  cases hpair : Listing.create s (.ofText path) (.text "\r\n") with
  | mk s₁ created =>
    rw [hpair] at hcreated
    cases created with
    | error e => cases hcreated
    | ok o =>
      obtain ⟨hsaves, hwrite⟩ := Prod.mk.inj (Option.some.inj hcreated)
      obtain ⟨-, result, hresults, -, -, hiff, hread⟩ := finished_list_reads_back hindent hpair hcs
      simp only [List.append_nil] at hresults hiff
      have hok : result = .ok () := by
        refine hiff.2 ⟨fun n hn => (by cases hn), ?_⟩
        cases hpair' : ((Sink.listing o).calls s₁ cs).store.write (.ofText path) [] with
        | error e =>
          rw [hpair'] at hwrite
          cases hwrite
        | ok s' => exact ⟨s', rfl⟩
      refine ⟨s₁, o, rfl, ?_, (hread hok).1⟩
      rw [hresults, hok, List.map_append, hsaves]
      rfl

end Output

end Harvest
