import Harvest.Proofs.Output.Calls
import Harvest.Proofs.Output.Decode

/-!
# What a file for lines holds after any calls

Records are handed to a new file for lines, some of them without a JSON form, and the file is
finished any number of times in between.  A record that has a JSON form is kept (`kept`).  One
invariant says that the file holds the lines of the records that were kept, in order, and that they
are what counts as saved (`Holds`); each call keeps it (`Holds.call`), so it holds behind any calls
(`Holds.calls`).

No line has a line break in it, so the lines are found again by cutting at line feeds, and a record
of plain values, which is kept only if none of its integers is too long, is read from its line
(`file_of_calls`).
-/

namespace Harvest

/-! ### Plain values -/

namespace Json

mutual
/-- Values of null, booleans, integers of any size, texts, lists and maps, where no key of a map
occurs twice. -/
def Plain : Value → Prop
  | .null => True
  | .bool _ => True
  | .int _ => True
  | .text _ => True
  | .list vs => PlainAll vs
  | .map es => (Entries.keys es).Nodup ∧ PlainEntries es
  | _ => False

/-- Lists of plain values. -/
def PlainAll : List Value → Prop
  | [] => True
  | v :: vs => Plain v ∧ PlainAll vs

/-- Entries with plain values. -/
def PlainEntries : List (String × Value) → Prop
  | [] => True
  | (_, v) :: es => Plain v ∧ PlainEntries es
end

mutual
/-- Plain values with a JSON form are portable: only an integer can be in the way. -/
theorem portable_of_plain : (v : Value) → Plain v → misfit? v = none →
    Portable (some Text.Numeral.maxDigits) v
  | .null, _, _ => trivial
  | .bool _, _, _ => trivial
  | .text _, _, _ => trivial
  | .int n, _, h => by
    have hshort : Text.Numeral.isLong n = false := by
      rw [misfit?] at h
      by_contra hlong
      rw [Bool.not_eq_false] at hlong
      rw [if_pos hlong] at h
      cases h
    exact ⟨hshort, by simpa [Text.Numeral.isLong] using hshort⟩
  | .list vs, hv, h => portableAll_of_plain vs hv h
  | .map es, hv, h => ⟨hv.1, portableEntries_of_plain es hv.2 h⟩
  | .float _, hv, _ => hv.elim
  | .bytes _, hv, _ => hv.elim
  | .buffer _, hv, _ => hv.elim
  | .tuple _, hv, _ => hv.elim
  | .rule .., hv, _ => hv.elim

theorem portableAll_of_plain : (vs : List Value) → PlainAll vs → misfitAll? vs = none →
    PortableAll (some Text.Numeral.maxDigits) vs
  | [], _, _ => trivial
  | v :: vs, hv, h => by
    rw [misfitAll?, Option.or_eq_none_iff] at h
    exact ⟨portable_of_plain v hv.1 h.1, portableAll_of_plain vs hv.2 h.2⟩

theorem portableEntries_of_plain : (es : List (String × Value)) → PlainEntries es →
    misfitEntries? es = none → PortableEntries (some Text.Numeral.maxDigits) es
  | [], _, _ => trivial
  | (_, v) :: es, hv, h => by
    rw [misfitEntries?, Option.or_eq_none_iff] at h
    exact ⟨portable_of_plain v hv.1 h.1, portableEntries_of_plain es hv.2 h.2⟩
end

end Json

namespace Output

open Store (Written)
open Text

/-! ### Records that are kept -/

/-- A plain record is read from its line. -/
theorem read_line {record : Value} {text : String} (h : line record = .ok text)
    (hr : Json.Plain record) : Json.read text = .ok record := by
  have hmisfit : Json.misfit? record = none := Json.exists_write_iff.1 ⟨text, write_of_line h⟩
  have hportable := Json.portable_of_plain record hr hmisfit
  obtain ⟨text', htext', hread⟩ := exists_line hportable
  cases h.symm.trans htext'
  exact hread

/-- A record that was kept. -/
structure Kept where
  /-- The record. -/
  record : Value
  /-- The item that it belongs to. -/
  item : Int
  /-- Its line. -/
  text : String

/-- The record that is kept of a call, if it is one. -/
def Call.kept? : Call → Option Kept
  | .save record item => (line record).toOption.map fun text => ⟨record, item, text⟩
  | .finish => none

/-- The records that are kept of some calls. -/
def kept (cs : List Call) : List Kept :=
  cs.filterMap Call.kept?

/-- Whether a call succeeds as long as nobody else has a hand in the file. -/
def Call.result : Call → Except Error Unit
  | .save record _ => (line record).map fun _ => ()
  | .finish => .ok ()

/-- What is remembered of a record that was kept in the file of a path. -/
def Kept.saved (path : FilePath) (k : Kept) : Saved :=
  ⟨k.item, path, k.text.length⟩

theorem line_of_mem_kept {cs : List Call} {k : Kept} (h : k ∈ kept cs) :
    line k.record = .ok k.text := by
  obtain ⟨c, -, hc⟩ := List.mem_filterMap.1 h
  cases c with
  | finish => cases hc
  | save record item =>
    cases hline : line record with
    | error e =>
      rw [Call.kept?, hline] at hc
      cases hc
    | ok text =>
      rw [Call.kept?, hline] at hc
      cases hc
      exact hline

/-! ### The invariant -/

variable {s s₁ : Store} {path : FilePath} {l : Location} {o : Lines} {ks : List Kept}

/-- A file for lines holds the records that were kept: the bytes of the file are their lines, and
they are what counts as saved. -/
structure Holds (s : Store) (path : FilePath) (l : Location) (ks : List Kept) (s₁ : Store)
    (o : Lines) : Prop where
  written : Written s path l (Utf8.encode (textOfLines (ks.map Kept.text))) s₁
  path_eq : o.path = path
  saved_eq : o.saved = ks.map (Kept.saved path)

theorem encode_textOfLines_concat (texts : List String) (text : String) :
    Utf8.encode (textOfLines texts) ++ Utf8.encode (text ++ "\n") =
      Utf8.encode (textOfLines (texts ++ [text])) := by
  simp [textOfLines, Utf8.encode_append]

/-- **A call keeps the invariant.**  A record with a JSON form joins those that were kept, and any
other call leaves them as they are. -/
theorem Holds.call (h : Holds s path l ks s₁ o) (c : Call) :
    ∃ o', (Sink.call s₁ (.lines o) c).sink = .lines o' ∧
      (Sink.call s₁ (.lines o) c).result = c.result ∧
      Holds s path l (ks ++ kept [c]) (Sink.call s₁ (.lines o) c).store o' := by
  obtain ⟨hwritten, rfl, hsaved⟩ := h
  cases c with
  | finish =>
    refine ⟨o, rfl, rfl, ?_⟩
    rw [show kept [.finish] = [] from rfl, List.append_nil]
    exact ⟨hwritten, rfl, hsaved⟩
  | save record item =>
    cases hline : line record with
    | error e =>
      have hnone : kept [.save record item] = [] := by
        simp [kept, Call.kept?, hline, Except.toOption]
      have hcall : Sink.call s₁ (.lines o) (.save record item) = ⟨s₁, .lines o, [], .error e⟩ := by
        simp only [Sink.call, Sink.save, Lines.save, hline]
      rw [hcall, hnone, List.append_nil, Call.result, hline]
      exact ⟨o, rfl, rfl, hwritten, rfl, hsaved⟩
    | ok text =>
      have hone : kept [.save record item] = [⟨record, item, text⟩] := by
        simp [kept, Call.kept?, hline, Except.toOption]
      obtain ⟨s₂, hsave, hw⟩ := Sink.save_lines hwritten hline item
      have hcall : Sink.call s₁ (.lines o) (.save record item) = _ := hsave
      rw [encode_textOfLines_concat] at hw
      rw [hcall, hone, Call.result, hline]
      refine ⟨_, rfl, rfl, ?_, rfl, ?_⟩
      · rwa [List.map_append, List.map_singleton]
      · simp only [hsaved, List.map_append, List.map_singleton, Kept.saved]

/-- **So it holds behind any calls.** -/
theorem Holds.calls (h : Holds s path l ks s₁ o) (cs : List Call) :
    ∃ o', ((Sink.lines o).calls s₁ cs).results = cs.map Call.result ∧
      ((Sink.lines o).calls s₁ cs).saved = o'.saved ∧
      Holds s path l (ks ++ kept cs) ((Sink.lines o).calls s₁ cs).store o' := by
  induction cs generalizing s₁ o ks with
  | nil =>
    refine ⟨o, rfl, rfl, ?_⟩
    rw [show kept [] = [] from rfl, List.append_nil]
    exact h
  | cons c cs ih =>
    obtain ⟨o₁, hsink, hresult, h₁⟩ := h.call c
    obtain ⟨o', hresults, hsaved, h'⟩ := ih h₁
    have hkept : kept [c] ++ kept cs = kept (c :: cs) := (List.filterMap_append ..).symm
    rw [List.append_assoc, hkept] at h'
    simp only [Sink.calls, hsink, List.map_cons]
    exact ⟨o', by rw [hresult, hresults], hsaved, h'⟩

theorem holds_of_create (h : Lines.create s path = (s₁, .ok o)) :
    ∃ l, Holds s path l [] s₁ o := by
  obtain ⟨s₂, created, hcreate, ⟨e, rfl, -⟩ | ⟨sink, rfl, hfresh⟩⟩ :=
    Sink.create_cases s .lines path .null
  · simp only [Sink.create, h] at hcreate
    cases hcreate
  · simp only [Sink.create, h] at hcreate
    cases hcreate
    cases hfresh with
    | lines hwritten => exact ⟨_, hwritten, rfl, rfl⟩

/-! ### Whole runs -/

/-- **What a file for lines holds.**  Take a new file for lines and any calls of it.  A save fails
exactly if its record has no JSON form, and to finish never fails.  The file holds the lines of the
records that were saved, in order, each with a line feed behind it, and nothing else.  No line has a
line feed or a carriage return in it, so to cut the file at its line feeds gives back the lines, and
a record of plain values is read from its line.  What counts as saved are these records, in order,
each with its item and the length of its line. -/
theorem file_of_calls (h : Lines.create s path = (s₁, .ok o)) (cs : List Call) :
    let seen := (Sink.lines o).calls s₁ cs
    let texts := (kept cs).map Kept.text
    seen.results = cs.map Call.result ∧
      seen.store.read path = .ok (Utf8.encode (String.join (texts.map (· ++ "\n")))) ∧
      (∀ text ∈ texts, '\n' ∉ text.toList ∧ '\r' ∉ text.toList) ∧
      splitLines [] (String.join (texts.map (· ++ "\n"))).toList = (texts.map String.toList, []) ∧
      (∀ k ∈ kept cs, Json.write ⟨none⟩ k.record = .ok k.text ∧
        (Json.Plain k.record → Json.read k.text = .ok k.record)) ∧
      seen.saved = (kept cs).map fun k => ⟨k.item, path, k.text.length⟩ := by
  intro seen texts
  obtain ⟨l, hnew⟩ := holds_of_create h
  obtain ⟨o', hresults, hsaved, hholds⟩ := hnew.calls cs
  rw [List.nil_append] at hholds
  -- JSON text without an indent escapes every control character, so its lines stay whole
  have hcalm (text : String) (htext : text ∈ texts) : Json.Calm text.toList := by
    obtain ⟨k, hk, rfl⟩ := List.mem_map.1 htext
    exact Json.calm_write (write_of_line (line_of_mem_kept hk))
  refine ⟨hresults, ?_, fun text htext => ?_, ?_, fun k hk => ?_, ?_⟩
  · have hwritten := hholds.written
    change ((Sink.lines o).calls s₁ cs).store.read path = _
    rw [Store.read, hwritten.locate_eq]
    simp only [hwritten.get?_eq]
    rfl
  · exact ⟨(hcalm text htext).not_mem (by decide), (hcalm text htext).not_mem (by decide)⟩
  · exact splitLines_textOfLines fun text htext => (hcalm text htext).not_mem (by decide)
  · have hline := line_of_mem_kept hk
    exact ⟨write_of_line hline, read_line hline⟩
  · exact hsaved.trans hholds.saved_eq

/-- Two records are saved around one that is refused, and the file is finished in between. -/
theorem file_of_calls_refused :
    let s := Store.empty ["work"]
    let path := FilePath.ofText "out.jsonl"
    let cs : List Call := [.save (.map [("a\n", .text "\r\"")]) 3, .save binaryRecord 0, .finish,
      .save (.map [("n", .int (-7))]) 4]
    ∃ s₁ o, Lines.create s path = (s₁, .ok o) ∧
      let seen := (Sink.lines o).calls s₁ cs
      seen.results = [.ok (), .error (.unwritable "bytes"), .ok (), .ok ()] ∧
        seen.store.read path =
          .ok (Utf8.encode "\x7b\"a\\n\": \"\\r\\\"\"\x7d\n\x7b\"n\": -7\x7d\n") ∧
        seen.saved = [⟨3, path, 15⟩, ⟨4, path, 9⟩] := by
  intro s path cs
  have hcreated : (Lines.create s path).2.isOk = true := by decide +kernel
  cases hpair : Lines.create s path with
  | mk s₁ created =>
    rw [hpair] at hcreated
    cases created with
    | error e => cases hcreated
    | ok o =>
      obtain ⟨hresults, hread, -, -, -, hsaved⟩ := file_of_calls hpair cs
      have htexts : (kept cs).map Kept.text =
          ["\x7b\"a\\n\": \"\\r\\\"\"\x7d", "\x7b\"n\": -7\x7d"] := by decide +kernel
      refine ⟨s₁, o, rfl, hresults.trans rfl, ?_, hsaved.trans (by decide +kernel)⟩
      rw [htexts] at hread
      exact hread

end Output

end Harvest
