import Harvest.Batch.Document
import Harvest.Proofs.Path.Lookup
import Harvest.Proofs.Text.Sextets
import Harvest.Proofs.Text.Utf8

/-!
# How records are loaded

`load` asks two questions.  Which value of a record should hold the markup: the record itself, if it
is text or binary data, and otherwise what lies at the path of the property (`Finds`).  And which
documents this value holds: that depends on the source type (`Offers`), and so does what a value must
be to hold any (`Fits`).

So a record is loaded, or nothing lies at the path, or what lies there does not fit; under a path that
can be split nothing else happens (`load_outcomes`).

Text from a binary source is decoded if it is base64 of UTF-8 text and kept otherwise.  That holds but
for one kind of text, which is not base64 and is decoded all the same (`decodeBinary_text`,
`decodeBinary_of_extra_pad`).
-/

namespace Harvest.Batch

variable {d : Defaults} {record v : Value} {e : LoadError}

/-! ### The value that is found -/

/-- A value is text or binary data. -/
inductive IsData : Value → Prop where
  /-- Text. -/
  | text (s : String) : IsData (.text s)
  /-- Binary data. -/
  | bytes (bs : List UInt8) : IsData (.bytes bs)
  /-- Binary data in a buffer. -/
  | buffer (bs : List UInt8) : IsData (.buffer bs)

/-- The value of a record that should hold the markup. -/
inductive Finds (d : Defaults) (record : Value) : Value → Prop where
  /-- A record that is text or binary data is it itself. -/
  | itself (h : IsData record) : Finds d record record
  /-- In any other record it lies at the path of the property, whatever it is. -/
  | inside {v : Value} (h : ¬ IsData record) (hhas : Path.has record d.property = .ok true)
      (hget : Path.get record d.property .null = .ok v) : Finds d record v

theorem isMarkup_iff : isMarkup v = true ↔ IsData v := by
  constructor
  · intro h
    cases v with
    | text s => exact .text s
    | bytes bs => exact .bytes bs
    | buffer bs => exact .buffer bs
    | _ => cases h
  · intro h
    cases h <;> rfl

theorem found_iff {property : String} :
    Path.has record property = .ok true ∧ Path.get record property .null = .ok v ↔
      Path.lookup record property = .ok (some v) := by
  constructor
  · rintro ⟨hhas, hget⟩
    obtain ⟨w, hw⟩ := Path.has_eq_true_iff.1 hhas
    rw [Path.get, hw] at hget
    cases hget
    exact hw
  · intro h
    exact ⟨Path.has_eq_true_iff.2 ⟨v, h⟩, by rw [Path.get, h]; rfl⟩

theorem markup_of_not_isData (h : ¬ IsData record) (index : Nat) :
    markup d index record =
      match Path.lookup record d.property with
      | .error e => .error (.path e.digits)
      | .ok none => .error (.missing d.property index)
      | .ok (some v) => .ok v :=
  if_neg (mt isMarkup_iff.1 h)

theorem markup_eq_ok_iff (index : Nat) : markup d index record = .ok v ↔ Finds d record v := by
  by_cases h : IsData record
  · rw [markup, if_pos (isMarkup_iff.2 h)]
    constructor
    · rintro ⟨⟩
      exact .itself h
    · rintro (_ | ⟨hno, -, -⟩)
      · rfl
      · exact absurd h hno
  · rw [markup_of_not_isData h]
    constructor
    · intro hv
      cases hfound : Path.lookup record d.property with
      | error e =>
        rw [hfound] at hv
        cases hv
      | ok found =>
        rw [hfound] at hv
        cases found with
        | none => cases hv
        | some w =>
          cases hv
          obtain ⟨hhas, hget⟩ := found_iff.2 hfound
          exact .inside h hhas hget
    · rintro (hdata | ⟨-, hhas, hget⟩)
      · exact absurd hdata h
      · rw [found_iff.1 ⟨hhas, hget⟩]

theorem Finds.unique {w : Value} (h : Finds d record v) (h' : Finds d record w) : v = w :=
  Except.ok.inj (((markup_eq_ok_iff 0).2 h).symm.trans ((markup_eq_ok_iff 0).2 h'))

/-- Under a path that can be split nothing goes wrong but that the path leads nowhere. -/
theorem markup_eq_error_iff (hname : ∃ ss, Path.split d.property = .ok ss) {index : Nat} :
    markup d index record = .error e ↔ e = .missing d.property index ∧ ¬ IsData record ∧
      Path.has record d.property = .ok false := by
  by_cases h : IsData record
  · rw [markup, if_pos (isMarkup_iff.2 h)]
    simp [h]
  · obtain ⟨found, hfound⟩ := Path.exists_lookup_of_split hname record
    rw [markup_of_not_isData h, Path.has_eq_false_iff, hfound]
    cases found <;> simp [h, eq_comm]

/-! ### The documents of a value -/

/-- The documents that a value holds for a source type. -/
inductive Offers : SourceType → Value → List String → Prop where
  /-- Binary data, or a text that may encode it, is one document. -/
  | binary {v : Value} {s : String} (h : decodeBinary v = some s) : Offers .binary v [s]
  /-- A text is one document. -/
  | text (s : String) : Offers .json (.text s) [s]
  /-- Binary data is one document. -/
  | bytes {v : Value} {bs : List UInt8} (h : v.binary? = some bs) :
      Offers .json v [Text.Utf8.decodeLossy bs]
  /-- Each text of a list is a document. -/
  | list (ss : List String) : Offers .json (.list (ss.map .text)) ss
  /-- Each text of a tuple is a document. -/
  | tuple (ss : List String) : Offers .json (.tuple (ss.map .text)) ss

/-- A value that a source type can take documents from. -/
def Fits : SourceType → Value → Prop
  | .binary, v => IsData v
  | .json, v => IsData v ∨ ∃ ss : List String, v = .list (ss.map .text) ∨ v = .tuple (ss.map .text)

/-- A value that a source type can take no documents from, and the error that says why. -/
inductive Refuses (property : String) : SourceType → Value → LoadError → Prop where
  /-- Neither text nor binary data. -/
  | notBinary {v : Value} (h : ¬ IsData v) : Refuses property .binary v (.notBinary property)
  /-- Neither that nor a list or a tuple of texts: the first that is no text is blamed. -/
  | notText {v u : Value} {ss : List String} {rest : List Value} (h : ¬ IsData v)
      (hv : v.toList = ss.map .text ++ u :: rest) (hu : u.text? = none) :
      Refuses property .json v (.notText property u.typeName)

/-- An error says that what was found does not fit. -/
def LoadError.IsMisfit : LoadError → Prop
  | .notBinary _ => True
  | .notText _ _ => True
  | _ => False

theorem texts_map_text (property : String) (ss : List String) :
    texts property (ss.map .text) = .ok ss := by
  induction ss with
  | nil => rfl
  | cons s ss ih =>
    rw [List.map_cons, texts, ih]
    rfl

theorem texts_of_text?_eq_none {property : String} {u : Value} (hu : u.text? = none)
    (ss : List String) (rest : List Value) :
    texts property (ss.map .text ++ u :: rest) = .error (.notText property u.typeName) := by
  induction ss with
  | nil =>
    cases u with
    | text s => cases hu
    | _ => rfl
  | cons s ss ih =>
    rw [List.map_cons, List.cons_append, texts, ih]
    rfl

/-- Values are all texts, or one of them is the first that is not. -/
theorem texts_cases (vs : List Value) :
    (∃ ss : List String, vs = ss.map .text) ∨
      ∃ (ss : List String) (u : Value) (rest : List Value),
        vs = ss.map .text ++ u :: rest ∧ u.text? = none := by
  induction vs with
  | nil => exact .inl ⟨[], rfl⟩
  | cons v vs ih =>
    cases hv : v.text? with
    | none => exact .inr ⟨[], v, vs, rfl, hv⟩
    | some s =>
      obtain rfl : v = .text s := by
        cases v with
        | text s' =>
          cases hv
          rfl
        | _ => cases hv
      obtain ⟨ss, rfl⟩ | ⟨ss, u, rest, rfl, hu⟩ := ih
      · exact .inl ⟨s :: ss, rfl⟩
      · exact .inr ⟨s :: ss, u, rest, rfl, hu⟩

theorem exists_decodeBinary_iff : (∃ s, decodeBinary v = some s) ↔ IsData v := by
  constructor
  · rintro ⟨s, hs⟩
    cases v with
    | text s => exact .text s
    | bytes bs => exact .bytes bs
    | buffer bs => exact .buffer bs
    | _ => cases hs
  · rintro (s | bs | bs)
    · simp only [decodeBinary]
      split <;> exact ⟨_, rfl⟩
    · exact ⟨_, rfl⟩
    · exact ⟨_, rfl⟩

/-- A value that is not data itself is all texts only as a list or a tuple of them. -/
theorem toList_eq_texts_iff (h : ¬ IsData v) {ss : List String} :
    v.toList = ss.map .text ↔ v = .list (ss.map .text) ∨ v = .tuple (ss.map .text) := by
  constructor
  · intro hv
    cases v with
    | list vs => exact .inl (congrArg Value.list hv)
    | tuple vs => exact .inr (congrArg Value.tuple hv)
    | text s => exact absurd (.text s) h
    | _ => cases ss <;> simp [Value.toList] at hv
  · rintro (rfl | rfl) <;> rfl

theorem isData_of_binary? {bs : List UInt8} (h : v.binary? = some bs) : IsData v := by
  cases v with
  | bytes bs => exact .bytes bs
  | buffer bs => exact .buffer bs
  | _ => cases h

theorem Offers.fits {t : SourceType} {ds : List String} (h : Offers t v ds) : Fits t v := by
  cases h with
  | binary h => exact exists_decodeBinary_iff.1 ⟨_, h⟩
  | text s => exact .inl (.text s)
  | bytes h => exact .inl (isData_of_binary? h)
  | list => exact .inr ⟨ds, .inl rfl⟩
  | tuple => exact .inr ⟨ds, .inr rfl⟩

theorem Refuses.not_fits {property : String} {t : SourceType} (h : Refuses property t v e) :
    ¬ Fits t v := by
  cases h with
  | notBinary h => exact h
  | @notText v u ss rest h hv hu =>
    rintro (hdata | ⟨ss', hv'⟩)
    · exact h hdata
    · -- the value that is no text would be among texts
      have hmem : u ∈ ss'.map Value.text := by
        rw [← (toList_eq_texts_iff h).2 hv', hv]
        simp
      obtain ⟨s, -, rfl⟩ := List.mem_map.1 hmem
      cases hu

/-- **A value has documents or is refused.** -/
theorem offers_or_refuses (property : String) (t : SourceType) (v : Value) :
    (∃ ds, Offers t v ds) ∨ ∃ e, Refuses property t v e := by
  by_cases h : IsData v
  · refine .inl ?_
    cases t with
    | binary =>
      obtain ⟨s, hs⟩ := exists_decodeBinary_iff.2 h
      exact ⟨_, .binary hs⟩
    | json =>
      cases h with
      | text s => exact ⟨_, .text s⟩
      | bytes bs => exact ⟨_, .bytes rfl⟩
      | buffer bs => exact ⟨_, .bytes rfl⟩
  · cases t with
    | binary => exact .inr ⟨_, .notBinary h⟩
    | json =>
      obtain ⟨ss, hv⟩ | ⟨ss, u, rest, hv, hu⟩ := texts_cases v.toList
      · obtain rfl | rfl := (toList_eq_texts_iff h).1 hv
        · exact .inl ⟨_, .list ss⟩
        · exact .inl ⟨_, .tuple ss⟩
      · exact .inr ⟨_, .notText h hv hu⟩

theorem exists_refuses_iff {property : String} {t : SourceType} :
    (∃ e, Refuses property t v e) ↔ ¬ Fits t v := by
  constructor
  · rintro ⟨e, he⟩
    exact he.not_fits
  · intro hno
    exact (offers_or_refuses property t v).resolve_left fun ⟨ds, hds⟩ => hno hds.fits

theorem documents_of_offers {ds : List String} (h : Offers d.sourceType v ds) :
    documents d v = .ok ds := by
  revert h
  generalize ht : d.sourceType = t
  intro h
  cases h with
  | binary h => simp only [documents, ht, h]
  | text s =>
    simp only [documents, ht]
    exact texts_map_text d.property [s]
  | bytes h => simp only [documents, ht, h]
  | list =>
    simp only [documents, ht]
    exact texts_map_text d.property ds
  | tuple =>
    simp only [documents, ht]
    exact texts_map_text d.property ds

theorem documents_of_refuses (h : Refuses d.property d.sourceType v e) :
    documents d v = .error e := by
  revert h
  generalize ht : d.sourceType = t
  intro h
  cases h with
  | notBinary h =>
    have hnone : decodeBinary v = none :=
      Option.eq_none_iff_forall_ne_some.2 fun s hs => h (exists_decodeBinary_iff.1 ⟨s, hs⟩)
    simp only [documents, ht, hnone]
  | notText h hv hu =>
    have hbinary : v.binary? = none :=
      Option.eq_none_iff_forall_ne_some.2 fun bs hbs => h (isData_of_binary? hbs)
    simp only [documents, ht, hbinary, hv]
    exact texts_of_text?_eq_none hu _ _

theorem documents_eq_ok_iff {ds : List String} :
    documents d v = .ok ds ↔ Offers d.sourceType v ds := by
  refine ⟨fun h => ?_, documents_of_offers⟩
  obtain ⟨ds', hds⟩ | ⟨e, he⟩ := offers_or_refuses d.property d.sourceType v
  · cases h.symm.trans (documents_of_offers hds)
    exact hds
  · cases h.symm.trans (documents_of_refuses he)

theorem documents_eq_error_iff :
    documents d v = .error e ↔ Refuses d.property d.sourceType v e := by
  refine ⟨fun h => ?_, documents_of_refuses⟩
  obtain ⟨ds, hds⟩ | ⟨e', he⟩ := offers_or_refuses d.property d.sourceType v
  · cases h.symm.trans (documents_of_offers hds)
  · cases h.symm.trans (documents_of_refuses he)
    exact he

/-! ### Records -/

theorem load_eq_ok_iff (index : Nat) {ds : List String} :
    load d index record = .ok ds ↔ ∃ v, Finds d record v ∧ Offers d.sourceType v ds := by
  simp only [← markup_eq_ok_iff index, ← documents_eq_ok_iff, load]
  cases markup d index record <;> simp [Except.bind]

theorem load_eq_error_iff (hname : ∃ ss, Path.split d.property = .ok ss) (index : Nat) :
    load d index record = .error e ↔
      (e = .missing d.property index ∧ ¬ IsData record ∧
        Path.has record d.property = .ok false) ∨
      ∃ v, Finds d record v ∧ Refuses d.property d.sourceType v e := by
  simp only [← markup_eq_error_iff hname, ← markup_eq_ok_iff index, ← documents_eq_error_iff,
    load]
  cases markup d index record <;> simp [Except.bind]

theorem Refuses.isMisfit {property : String} {t : SourceType} (h : Refuses property t v e) :
    e.IsMisfit := by
  cases h <;> trivial

/-- **Loading a record has three outcomes.**  Take settings with a path that can be split, and any
record.  It is loaded if the value that is found fits the source type, as the documents that this
value holds: one from a binary source, and the elements of a list or a tuple, all of them and in
order, from another.  The error tells that something is missing, with its property and its index,
exactly if the record is neither text nor binary data and nothing lies at the path; and it tells what
does not fit exactly if the value that is found does not.  There is no other error. -/
theorem load_outcomes {d : Defaults} (hname : ∃ ss, Path.split d.property = .ok ss) (index : Nat)
    (record : Value) :
    let outcome := load d index record
    (∀ ds, outcome = .ok ds ↔ ∃ v, Finds d record v ∧ Offers d.sourceType v ds) ∧
    (outcome = .error (.missing d.property index) ↔
      ¬ IsData record ∧ Path.has record d.property = .ok false) ∧
    ((∃ e, e.IsMisfit ∧ outcome = .error e) ↔ ∃ v, Finds d record v ∧ ¬ Fits d.sourceType v) ∧
    (∀ e, outcome = .error e → e = .missing d.property index ∨
      ∃ v, Finds d record v ∧ Refuses d.property d.sourceType v e) ∧
    (d.sourceType = .binary → ∀ ds, outcome = .ok ds → ds.length = 1) ∧
    (d.sourceType = .json → ∀ vs, Finds d record (.list vs) ∨ Finds d record (.tuple vs) →
      ∀ ds, outcome = .ok ds → vs = ds.map .text) := by
  intro outcome
  have hok {ds : List String} : outcome = .ok ds ↔ _ := load_eq_ok_iff index
  have herror {e : LoadError} : outcome = .error e ↔ _ := load_eq_error_iff hname index
  refine ⟨fun ds => hok, ⟨fun h => ?_, fun h => herror.2 (.inl ⟨rfl, h⟩)⟩, ⟨?_, ?_⟩,
    fun e he => (herror.1 he).imp_left And.left, fun ht ds hds => ?_, fun ht vs hvs ds hds => ?_⟩
  · obtain ⟨-, hmissing⟩ | ⟨v, -, hrefuses⟩ := herror.1 h
    · exact hmissing
    · cases hrefuses.isMisfit
  · rintro ⟨e, hmisfit, he⟩
    obtain ⟨rfl, -⟩ | ⟨v, hv, hrefuses⟩ := herror.1 he
    · cases hmisfit
    · exact ⟨v, hv, exists_refuses_iff.1 ⟨e, hrefuses⟩⟩
  · rintro ⟨v, hv, hno⟩
    obtain ⟨e, he⟩ := exists_refuses_iff.2 hno
    exact ⟨e, he.isMisfit, herror.2 (.inr ⟨v, hv, he⟩)⟩
  · obtain ⟨v, -, hoffers⟩ := hok.1 hds
    rw [ht] at hoffers
    cases hoffers
    rfl
  · obtain ⟨v, hv, hoffers⟩ := hok.1 hds
    rw [ht] at hoffers
    obtain hvs | hvs := hvs
    · obtain rfl := hv.unique hvs
      cases hoffers with
      | bytes h => cases h
      | list => rfl
    · obtain rfl := hv.unique hvs
      cases hoffers with
      | bytes h => cases h
      | tuple => rfl

/-- A record of a document with pages. -/
def book (pages : List Value) : Value :=
  .map [("doc", .map [("pages", .list pages)])]

/-- The address of the second page. -/
def secondPage : List Path.Segment :=
  [.key "doc", .key "pages", .index 1]

theorem split_secondPage : Path.split "doc.pages[1]" = .ok secondPage := by
  have hpath : Path.render secondPage = "doc.pages[1]" := by decide +kernel
  rw [← hpath, Path.split_render (by decide)]

theorem lookup_book (pages : List Value) :
    Path.lookup (book pages) "doc.pages[1]" = .ok pages[1]? := by
  have hnames : ¬ Path.Names (book pages) "doc.pages[1]" := by
    rintro ⟨es, hes, hmem⟩
    cases hes
    have hkey : "doc.pages[1]" = "doc" := List.mem_singleton.1 hmem
    revert hkey
    decide
  have hfollow : Path.follow? (book pages) secondPage = pages[1]? := by
    rcases pages with _ | ⟨_, _ | ⟨_, _⟩⟩ <;> rfl
  rw [Path.lookup_of_not_names hnames, split_secondPage, Except.map, hfollow]

/-- Records whose second page holds texts, is missing, or holds a number among texts. -/
theorem load_outcomes_pages :
    let d : Defaults := { property := "doc.pages[1]" }
    (∃ ss, Path.split d.property = .ok ss) ∧
      load d 4 (book [.null, .tuple [.text "<p>", .text ""]]) = .ok ["<p>", ""] ∧
      load d 4 (book [.null]) = .error (.missing "doc.pages[1]" 4) ∧
      ∃ e, e.IsMisfit ∧ load d 4 (book [.null, .list [.text "<p>", .int 5]]) = .error e := by
  intro d
  have hname : ∃ ss, Path.split d.property = .ok ss := ⟨_, split_secondPage⟩
  have hbook (pages : List Value) : ¬ IsData (book pages) := by rintro ⟨⟩
  have hfinds {pages : List Value} {v : Value} (hv : pages[1]? = some v) :
      Finds d (book pages) v := by
    obtain ⟨hhas, hget⟩ := found_iff.2 ((lookup_book pages).trans (congrArg Except.ok hv))
    exact .inside (hbook pages) hhas hget
  have hload := load_outcomes hname 4
  refine ⟨hname, ?_, ?_, ?_⟩
  · exact ((hload _).1 ["<p>", ""]).2 ⟨_, hfinds rfl, .tuple ["<p>", ""]⟩
  · exact (hload _).2.1.2 ⟨hbook _, Path.has_eq_false_iff.2 (lookup_book _)⟩
  · have hrefuses : Refuses d.property .json (.list [.text "<p>", .int 5]) _ :=
      .notText (by rintro ⟨⟩) (show _ = ["<p>"].map Value.text ++ [.int 5] from rfl) rfl
    exact (hload _).2.2.1.2 ⟨_, hfinds rfl, hrefuses.not_fits⟩

/-! ### Text from a binary source -/

open Text.Base64 (IsBase64 Overpadded Spells)

theorem decodeBinary_of_decode {s : String} {bs : List UInt8}
    (h : Text.Base64.decode s.toList = some bs) :
    (∀ t, bs = Text.Utf8.encode t → decodeBinary (.text s) = some t) ∧
      ((∀ t, bs ≠ Text.Utf8.encode t) → decodeBinary (.text s) = some s) := by
  simp only [decodeBinary, h, Option.map_some]
  constructor
  · rintro t rfl
    rw [Text.Utf8.decode_encode]
  · intro hno
    cases hdecode : Text.Utf8.decode bs with
    | error e => rfl
    | ok t => exact absurd (Text.Utf8.decode_eq_ok_iff.1 hdecode) (hno t)

/-- **Only base64 is decoded, but for one kind of text.**  A text that is base64 spells the bytes of
its letters, and becomes the text of which these are the UTF-8 encoding; without such a text it is
kept, as is every text that is no base64.  The exception are texts that are not base64 since padding
signs follow groups that are complete without them: they are decoded as if the signs were not there. -/
theorem decodeBinary_text (s : String) :
    (IsBase64 s.toList ∨ Overpadded s.toList → ∃ bs, (∀ bs', Spells s.toList bs' ↔ bs' = bs) ∧
      (∀ t, bs = Text.Utf8.encode t → decodeBinary (.text s) = some t) ∧
      ((∀ t, bs ≠ Text.Utf8.encode t) → decodeBinary (.text s) = some s)) ∧
    (¬ IsBase64 s.toList → ¬ Overpadded s.toList → decodeBinary (.text s) = some s) ∧
    (Overpadded s.toList → ¬ IsBase64 s.toList) := by
  refine ⟨fun h => ?_, fun hno hno' => ?_, Text.Base64.Overpadded.not_isBase64⟩
  · obtain ⟨bs, hdecode, hspells⟩ := Text.Base64.exists_decode h
    exact ⟨bs, hspells, decodeBinary_of_decode hdecode⟩
  · have hnone : Text.Base64.decode s.toList = none :=
      Option.eq_none_iff_forall_ne_some.2 fun bs hbs =>
        (Text.Base64.decode_eq_some_iff.1 hbs).1.elim hno hno'
    simp only [decodeBinary, hnone, Option.map_none]

/-- Base64 of the UTF-8 text "é", base64 of a byte that is no UTF-8, and a text with a sign too few. -/
example :
    decodeBinary (.text "w6k=") = some "é" ∧ decodeBinary (.text "/w==") = some "/w==" ∧
      decodeBinary (.text "w6k") = some "w6k" := by
  decide +kernel

/-- A text with a padding sign behind a complete group is no base64, and is decoded. -/
theorem decodeBinary_of_extra_pad :
    ¬ IsBase64 "YWJj=".toList ∧ decodeBinary (.text "YWJj=") = some "abc" ∧
      ¬ ∀ s, ¬ IsBase64 s.toList → decodeBinary (.text s) = some s := by
  have hno : ¬ IsBase64 "YWJj=".toList := by
    rintro ⟨-, -, -, -, hlength⟩
    cases hlength
  have hdecoded : decodeBinary (.text "YWJj=") = some "abc" := by decide +kernel
  refine ⟨hno, hdecoded, fun hclaim => ?_⟩
  have hkept : "abc" = "YWJj=" := Option.some.inj (hdecoded.symm.trans (hclaim _ hno))
  revert hkept
  decide

end Harvest.Batch
