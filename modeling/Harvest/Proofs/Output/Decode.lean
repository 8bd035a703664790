import Harvest.Output.Sink
import Harvest.Proofs.Json.Line
import Harvest.Proofs.Json.RoundTrip
import Harvest.Proofs.Store.Frame
import Harvest.Proofs.Text.Utf8

/-!
# What a finished file holds

A file in a form of output is decoded by `Form.decode`: either it holds one JSON value on each line,
or all of it is one JSON list.  When portable records are handed to a new sink and the sink is
finished, the file decodes to these records in order, whatever stood in it before, and no other file
is changed; if the sink fails, no file is changed at all (`Sink.Fresh.saveAll`).

Portable records can always be saved.  So lines are never given up halfway (`Sink.saveAll_lines`),
and a list is either written as a whole or the store refuses it and is left as it was
(`Sink.saveAll_listing`).
-/

namespace Harvest.Output

open Json (Portable)
open Store (SameFiles Written)
open Text

/-! ### Decoding -/

/-- The lines of a text, each without its line feed, and what stands behind the last of them; `line`
is the start of the first. -/
def splitLines (line : List Char) : List Char → List (List Char) × List Char
  | [] => ([], line)
  | c :: cs =>
    if c = '\n' then
      let (lines, rest) := splitLines [] cs
      (line :: lines, rest)
    else splitLines (line ++ [c]) cs

/-- The values of a text with one value on each line, where every line ends with a line feed. -/
def decodeLines (text : String) : Option (List Value) :=
  match splitLines [] text.toList with
  | (lines, []) => lines.mapM fun line => (Json.read (String.ofList line)).toOption
  | (_, _ :: _) => none

/-- The values of a text that is one list. -/
def decodeList (text : String) : Option (List Value) :=
  match Json.read text with
  | .ok (.list vs) => some vs
  | _ => none

/-- The values that a file in a form of output holds. -/
def Form.decode (form : Form) (content : List UInt8) : Option (List Value) :=
  match Utf8.decode content with
  | .error _ => none
  | .ok text =>
    match form with
    | .lines => decodeLines text
    | .listing => decodeList text

theorem decode_encode (form : Form) (text : String) :
    form.decode (Utf8.encode text) =
      match form with
      | .lines => decodeLines text
      | .listing => decodeList text := by
  rw [Form.decode, Utf8.decode_encode]

/-! ### Lines -/

/-- The text with these lines. -/
def textOfLines (lines : List String) : String :=
  String.join (lines.map (· ++ "\n"))

theorem splitLines_append {line cs : List Char} (h : '\n' ∉ cs) (rest : List Char) :
    splitLines line (cs ++ rest) = splitLines (line ++ cs) rest := by
  induction cs generalizing line with
  | nil => simp
  | cons c cs ih =>
    simp only [List.mem_cons, not_or] at h
    rw [List.cons_append, splitLines, if_neg (Ne.symm h.1), ih h.2, List.append_assoc,
      List.singleton_append]

theorem splitLines_textOfLines {lines : List String} (h : ∀ line ∈ lines, '\n' ∉ line.toList) :
    splitLines [] (textOfLines lines).toList = (lines.map String.toList, []) := by
  induction lines with
  | nil => rfl
  | cons line lines ih =>
    have htext : (textOfLines (line :: lines)).toList =
        line.toList ++ '\n' :: (textOfLines lines).toList := by
      simp [textOfLines, String.toList_join]
    rw [htext, splitLines_append (h line List.mem_cons_self), splitLines, if_pos rfl,
      ih fun line hline => h line (List.mem_cons_of_mem _ hline)]
    simp

theorem write_of_line {record : Value} {text : String} (h : line record = .ok text) :
    Json.write ⟨none⟩ record = .ok text := by
  unfold line at h
  split at h
  next s hs =>
    cases h
    exact hs
  · cases h

theorem not_mem_line {record : Value} {text : String} (h : line record = .ok text) :
    '\n' ∉ text.toList :=
  (Json.calm_write (write_of_line h)).not_mem (by decide)

theorem exists_line {record : Value} (h : Portable (some Numeral.maxDigits) record) :
    ∃ text, line record = .ok text ∧ Json.read text = .ok record := by
  obtain ⟨text, htext, hread⟩ := Json.read_write Json.blank_none h
  exact ⟨text, by rw [line, htext], hread⟩

/-- These are the lines of these records. -/
def AreLines (records : List Value) (lines : List String) : Prop :=
  List.Forall₂ (fun record text => line record = .ok text) records lines

theorem AreLines.not_mem {records : List Value} {lines : List String} (h : AreLines records lines) :
    ∀ text ∈ lines, '\n' ∉ text.toList := by
  induction h with
  | nil => simp
  | cons hline _ ih => exact List.forall_mem_cons.2 ⟨not_mem_line hline, ih⟩

/-- Lines that were written for portable records are decoded to these records. -/
theorem decodeLines_textOfLines {records : List Value} {lines : List String}
    (h : AreLines records lines)
    (hr : ∀ record ∈ records, Portable (some Numeral.maxDigits) record) :
    decodeLines (textOfLines lines) = some records := by
  rw [decodeLines, splitLines_textOfLines h.not_mem]
  induction h with
  | nil => rfl
  | @cons record text records lines hline _ ih =>
    obtain ⟨text', htext', hread⟩ := exists_line (hr record List.mem_cons_self)
    cases hline.symm.trans htext'
    have hrest := ih fun record hrecord => hr record (List.mem_cons_of_mem _ hrecord)
    simp only at hrest ⊢
    rw [List.map_cons, List.mapM_cons, String.ofList_toList, hread, hrest]
    rfl

/-! ### Saving into lines -/

namespace Sink

variable {s s₁ s₂ : Store} {path : FilePath} {l : Location} {content : List UInt8}

theorem save_lines {o : Lines} (hw : Written s o.path l content s₁) {record : Value} {text : String}
    (h : line record = .ok text) (item : Int) :
    ∃ s₂, save s₁ (.lines o) record item =
        ⟨s₂, .lines { o with saved := o.saved ++ [⟨item, o.path, text.length⟩] },
          [o.saveLog item], .ok ()⟩ ∧
      Written s o.path l (content ++ Utf8.encode (text ++ "\n")) s₂ := by
  obtain ⟨s₂, hs₂, hw₂⟩ := hw.change (· ++ Utf8.encode (text ++ "\n"))
  refine ⟨s₂, ?_, hw₂⟩
  have happend : s₁.append o.path (Utf8.encode (text ++ "\n")) = .ok s₂ := hs₂
  simp only [save, Lines.save, h, happend]

/-- **Portable records are written line by line.**  None of them is refused, and the file holds
their lines behind those that it held before. -/
theorem saveAll_lines {o : Lines} {before : List String}
    (hw : Written s o.path l (Utf8.encode (textOfLines before)) s₁) {records : List (Value × Int)}
    (hr : ∀ r ∈ records, Portable (some Numeral.maxDigits) r.1) :
    ∃ lines, AreLines (records.map Prod.fst) lines ∧
      ((Sink.lines o).saveAll s₁ records).result = .ok () ∧
      Written s o.path l (Utf8.encode (textOfLines (before ++ lines)))
        ((Sink.lines o).saveAll s₁ records).store := by
  -- what the file holds is known from the lines written so far, and one save adds one line
  induction records generalizing s₁ o before with
  | nil => exact ⟨[], .nil, rfl, by simpa [saveAll, finish] using hw⟩
  | cons r records ih =>
    obtain ⟨record, item⟩ := r
    obtain ⟨hrecord, hrecords⟩ := List.forall_mem_cons.1 hr
    obtain ⟨text, htext, -⟩ := exists_line hrecord
    obtain ⟨s₂, hsave, hw₂⟩ := save_lines hw htext item
    have hcontent : Utf8.encode (textOfLines before) ++ Utf8.encode (text ++ "\n") =
        Utf8.encode (textOfLines (before ++ [text])) := by
      simp [textOfLines, Utf8.encode_append]
    rw [hcontent] at hw₂
    obtain ⟨lines, hlines, hresult, hw₃⟩ :=
      ih (o := { o with saved := o.saved ++ [⟨item, o.path, text.length⟩] }) hw₂ hrecords
    rw [List.append_assoc, List.singleton_append] at hw₃
    refine ⟨text :: lines, .cons htext hlines, ?_, ?_⟩
    · simp only [saveAll, hsave, hresult]
    · simpa only [saveAll, hsave] using hw₃

/-! ### Saving into a list -/

theorem save_listing (s : Store) (o : Listing) {record : Value} {text : String}
    (h : line record = .ok text) (item : Int) :
    save s (.listing o) record item =
      ⟨s, .listing { o with
          buffer := o.buffer ++ [record]
          saved := o.saved ++ [⟨item, o.path, text.length⟩] },
        [Listing.saveLog item], .ok ()⟩ := by
  simp only [save, Listing.save, h]

theorem finish_listing (s : Store) {o : Listing} {layout : Json.Layout}
    (hl : Listing.layout o.indent = .ok layout) (hblank : layout.Blank)
    (hb : ∀ record ∈ o.buffer, Portable (some Numeral.maxDigits) record) :
    ∃ text, Json.read text = .ok (.list o.buffer) ∧
      match s.write o.path (Utf8.encode text) with
      | .error fault => (finish s (.listing o)).result = .error (.store fault) ∧
          (finish s (.listing o)).store = s
      | .ok s' => (finish s (.listing o)).result = .ok () ∧ (finish s (.listing o)).store = s' := by
  have hlist : Portable (some Numeral.maxDigits) (.list o.buffer) := Json.portableAll_iff.2 hb
  obtain ⟨text, htext, hread⟩ := Json.read_write hblank hlist
  have hrender : o.render = (text, .ok ()) := by simp only [Listing.render, hl, htext]
  refine ⟨text, hread, ?_⟩
  cases hs : s.write o.path (Utf8.encode text) with
  | error fault => simp only [finish, Listing.finish, hrender, hs, and_self]
  | ok s' => simp only [finish, Listing.finish, hrender, hs, and_self]

/-- **Portable records are written as one list.**  None of them is refused; at the end the store
takes the whole list, or refuses it and is left as it was. -/
theorem saveAll_listing (s : Store) {o : Listing} {layout : Json.Layout}
    (hl : Listing.layout o.indent = .ok layout) (hblank : layout.Blank)
    (hb : ∀ record ∈ o.buffer, Portable (some Numeral.maxDigits) record)
    {records : List (Value × Int)} (hr : ∀ r ∈ records, Portable (some Numeral.maxDigits) r.1) :
    ∃ text, Json.read text = .ok (.list (o.buffer ++ records.map Prod.fst)) ∧
      match s.write o.path (Utf8.encode text) with
      | .error fault => ((Sink.listing o).saveAll s records).result = .error (.store fault) ∧
          ((Sink.listing o).saveAll s records).store = s
      | .ok s' => ((Sink.listing o).saveAll s records).result = .ok () ∧
          ((Sink.listing o).saveAll s records).store = s' := by
  induction records generalizing o with
  | nil => simpa [saveAll] using finish_listing s hl hblank hb
  | cons r records ih =>
    obtain ⟨record, item⟩ := r
    obtain ⟨hrecord, hrecords⟩ := List.forall_mem_cons.1 hr
    obtain ⟨text, htext, -⟩ := exists_line hrecord
    have hsave := save_listing s o htext item
    have hb' : ∀ r ∈ o.buffer ++ [record], Portable (some Numeral.maxDigits) r := by
      simpa [or_imp, forall_and] using And.intro hb hrecord
    have hrest := ih (o := { o with
      buffer := o.buffer ++ [record]
      saved := o.saved ++ [⟨item, o.path, text.length⟩] }) hl hb' hrecords
    simpa [saveAll, hsave, List.append_assoc] using hrest

/-! ### New sinks -/

theorem sameFiles_makeParent (s : Store) (path : FilePath) : SameFiles s (makeParent s path).1 := by
  have hfolders := Store.sameFiles_makeFolders s path.parent
  unfold makeParent
  split
  next s' hs => simpa only [hs] using hfolders
  next s' fault hs => simpa only [hs] using hfolders

/-- A new sink: a file for lines is there and empty, and for a list no file was changed. -/
inductive Fresh (s : Store) (path : FilePath) (indent : Value) : Form → Store → Sink → Prop
  | lines {s₁ : Store} {l : Location} (written : Written s path l [] s₁) :
      Fresh s path indent .lines s₁ (.lines { path })
  | listing {s₁ : Store} (same : SameFiles s s₁) :
      Fresh s path indent .listing s₁ (.listing { path, indent })

theorem exists_fault_of_makeParent {e : Error} (h : makeParent s path = (s₁, .error e)) :
    ∃ fault, e = .store fault := by
  unfold makeParent at h
  split at h
  · cases h
  · cases h
    exact ⟨_, rfl⟩

/-- **What it is to make a sink**: either there is a new one, or the store refuses it and no file was
changed. -/
theorem create_cases (s : Store) (form : Form) (path : FilePath) (indent : Value) :
    ∃ s₁ created, create s form path indent = (s₁, created) ∧
      ((∃ fault, created = .error (.store fault) ∧ SameFiles s s₁) ∨
        ∃ sink, created = .ok sink ∧ Fresh s path indent form s₁ sink) := by
  simp only [create, Lines.create, Listing.create]
  cases hmade : makeParent s path with
  | mk s₁ made =>
    have hparent : SameFiles s s₁ := by simpa only [hmade] using sameFiles_makeParent s path
    cases form with
    | lines =>
      cases made with
      | error e =>
        obtain ⟨fault, rfl⟩ := exists_fault_of_makeParent hmade
        exact ⟨s₁, _, rfl, .inl ⟨fault, rfl, hparent⟩⟩
      | ok _ =>
        cases hwrite : s₁.write path [] with
        | error fault =>
          simp only [hwrite]
          exact ⟨s₁, _, rfl, .inl ⟨fault, rfl, hparent⟩⟩
        | ok s₂ =>
          simp only [hwrite]
          obtain ⟨l, -, hw⟩ := Store.exists_written_of_change hwrite
          exact ⟨s₂, _, rfl, .inr ⟨_, rfl, .lines (.of_sameFiles hparent hw)⟩⟩
    | listing =>
      cases made with
      | error e =>
        obtain ⟨fault, rfl⟩ := exists_fault_of_makeParent hmade
        exact ⟨s₁, _, rfl, .inl ⟨fault, rfl, hparent⟩⟩
      | ok _ => exact ⟨s₁, _, rfl, .inr ⟨_, rfl, .listing hparent⟩⟩

/-! ### Whole runs of a sink -/

theorem layout_defaultIndent : Listing.layout Listing.defaultIndent = .ok ⟨some "  "⟩ :=
  rfl

theorem blank_spaces : Json.Layout.Blank ⟨some "  "⟩ := by
  intro indent h
  cases h
  simp [Json.isSpace]

/-- **A finished file holds the records.**  If portable records are handed to a new sink and it is
finished, then the file decodes to the records in their order, and nothing else, and all other files
are as before; or the store refuses it, and no file was changed. -/
theorem Fresh.saveAll {form : Form} {sink : Sink}
    (h : Fresh s path Listing.defaultIndent form s₁ sink) {records : List (Value × Int)}
    (hr : ∀ r ∈ records, Portable (some Numeral.maxDigits) r.1) :
    ((sink.saveAll s₁ records).result = .ok () ∧
      ∃ l content, Written s path l content (sink.saveAll s₁ records).store ∧
        form.decode content = some (records.map Prod.fst)) ∨
    (∃ fault, (sink.saveAll s₁ records).result = .error (.store fault)) ∧
      SameFiles s (sink.saveAll s₁ records).store := by
  cases h with
  | lines hw =>
    -- no bytes are the text of no lines
    have hempty : Written s path _ (Utf8.encode (textOfLines [])) s₁ := hw
    obtain ⟨lines, hlines, hresult, hw'⟩ := saveAll_lines (o := { path }) hempty hr
    refine .inl ⟨hresult, _, _, hw', ?_⟩
    rw [decode_encode]
    exact decodeLines_textOfLines hlines (by simpa using hr)
  | listing hsame =>
    let o : Listing := { path, indent := Listing.defaultIndent }
    obtain ⟨text, hread, hwrite⟩ :=
      saveAll_listing s₁ (o := o) layout_defaultIndent blank_spaces (by simp [o]) hr
    cases hs : s₁.write path (Utf8.encode text) with
    | error fault =>
      rw [hs] at hwrite
      obtain ⟨hresult, hstore⟩ := hwrite
      refine .inr ⟨⟨_, hresult⟩, ?_⟩
      rw [hstore]
      exact hsame
    | ok s₂ =>
      rw [hs] at hwrite
      obtain ⟨hresult, hstore⟩ := hwrite
      obtain ⟨l, -, hw⟩ := Store.exists_written_of_change hs
      refine .inl ⟨hresult, l, Utf8.encode text, ?_, ?_⟩
      · rw [hstore]
        exact .of_sameFiles hsame hw
      · rw [List.nil_append] at hread
        rw [decode_encode]
        simp only [decodeList, hread]

end Sink

end Harvest.Output
