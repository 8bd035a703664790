import Harvest.Proofs.Json.Limit
import Harvest.Proofs.Rule.Usable
import Harvest.Proofs.Text.Utf8
import Mathlib.Data.List.Forall2

/-!
# Payloads are read all or not at all

`Rule.parse` decodes a payload, takes its entries and reads each of them.  The relations here say the
same without an order of steps: what a payload stands for (`StandsFor`), what a value lists
(`Lists`), which rule an entry is or describes (`Reads`), why it is none (`Rejects`), and why a
payload as a whole is refused (`Refused`).

Each step of the reader decides one of these relations: `decode_eq_ok_iff`, `lists_iff`,
`ofEntry_eq_ok_iff` and `ofEntry_eq_error_iff`.  A list is read if all its entries are
(`ofList_eq_ok_iff`), and otherwise the first that is none is the reason (`ofList_eq_error_iff`).  An
integer that is too long is reported apart from all this, whether it stands in a text that is read
(`parse_eq_read_iff`) or in a payload that would be shown (`parse_eq_written_iff`).

Main statement: a payload is read to one rule for each of its entries, in their order, or it is
refused, as it was supplied, for the first thing that is wrong with it
(`payload_read_all_or_nothing`).
-/

namespace Harvest.Rule

variable {payload v : Value} {reason : Reason}

/-! ### Payloads of text -/

/-- A payload is this text, or its bytes. -/
inductive IsText (text : String) : Value → Prop
  | text : IsText text (.text text)
  | bytes {content : List UInt8} (h : Text.Utf8.decode content = .ok text) :
    IsText text (.bytes content)

/-- No integer in a payload has too many digits, and none in its text if it is one. -/
structure ShortIntegers (payload : Value) : Prop where
  value : payload.isShort = true
  text {text : String} (h : IsText text payload) : ∀ t ∈ Json.tokens text.toList, ∀ n,
    ¬ t.token.Exceeds (some Text.Numeral.maxDigits) n

/-- A payload and the value that it stands for. -/
inductive StandsFor : Value → Value → Prop where
  /-- Text and its bytes stand for what they spell. -/
  | read {payload v : Value} {text : String} (h : IsText text payload)
      (hread : Json.read text = .ok v) : StandsFor payload v
  /-- Everything else stands for itself. -/
  | itself {v : Value} (htext : ∀ text, v ≠ .text text) (hbytes : ∀ content, v ≠ .bytes content) :
      StandsFor v v

/-- A payload and the value that it would stand for if its integers could have any number of
digits. -/
inductive Spells : Value → Value → Prop where
  /-- Text and its bytes, read without a limit. -/
  | read {payload v : Value} {text : String} (h : IsText text payload)
      (hread : Json.readChars none text.toList = .ok v) : Spells payload v
  /-- Everything else. -/
  | itself {v : Value} (htext : ∀ text, v ≠ .text text) (hbytes : ∀ content, v ≠ .bytes content) :
      Spells v v

/-- A payload that stands for nothing, and why. -/
inductive Unreadable : Value → Reason → Prop where
  /-- Bytes of no text. -/
  | encoding {content : List UInt8} {e : Text.Utf8.DecodeError}
      (h : Text.Utf8.decode content = .error e) : Unreadable (.bytes content) (.encoding e)
  /-- A text that spells no value, for a fault at some position. -/
  | json {payload : Value} {text : String} {fault : Json.Fault} {chars : List Char} {position : Nat}
      (h : IsText text payload)
      (hread : Json.read text = .error (.malformed fault chars position)) :
      Unreadable payload (.json (Json.Error.malformed fault chars position).message)

/-! ### Refusals -/

theorem refusal_eq_refused_iff {quoted : Value} {shown : String} {reason' : Reason} :
    refusal payload reason = .refused quoted shown reason' ↔
      quoted = payload ∧ payload.shown? = some shown ∧ reason' = reason := by
  constructor
  · intro h
    rcases refusal_cases payload reason with ⟨shown', hshown, heq⟩ | ⟨-, heq⟩
    · cases heq.symm.trans h
      exact ⟨rfl, hshown, rfl⟩
    · cases heq.symm.trans h
  · rintro ⟨rfl, h, rfl⟩
    exact refusal_of_shown h

theorem refusal_eq_tooLong_iff {e : Text.Numeral.TooLong} :
    refusal payload reason = .tooLong e ↔ payload.isShort = false ∧ e = .written := by
  constructor
  · intro h
    rcases refusal_cases payload reason with ⟨shown, -, heq⟩ | ⟨hlong, heq⟩
    · cases heq.symm.trans h
    · cases heq.symm.trans h
      exact ⟨hlong, rfl⟩
  · rintro ⟨h, rfl⟩
    exact refusal_of_long h

/-! ### Decoding -/

theorem decode_of_isText {text : String} (h : IsText text payload) :
    decode payload =
      match Json.read text with
      | .ok v => .ok v
      | .error (.tooLong digits) => .error (.tooLong (.read digits))
      | .error e => .error (refusal payload (.json e.message)) := by
  cases h with
  | text => rfl
  | bytes h =>
    cases hread : Json.read text with
    | ok v => simp only [decode, h, hread]
    | error e => cases e <;> simp only [decode, h, hread]

theorem isText_text_iff {text text' : String} : IsText text (.text text') ↔ text = text' := by
  constructor
  · intro h
    cases h
    rfl
  · rintro rfl
    exact .text

/-- A payload is text, or bytes of no text, or neither text nor bytes. -/
theorem isText_or (payload : Value) :
    (∃ text, IsText text payload) ∨
      (∃ content e, payload = .bytes content ∧ Text.Utf8.decode content = .error e) ∨
      (∀ text, payload ≠ .text text) ∧ ∀ content, payload ≠ .bytes content := by
  cases payload with
  | text text => exact .inl ⟨text, .text⟩
  | bytes content =>
    cases h : Text.Utf8.decode content with
    | ok text => exact .inl ⟨text, .bytes h⟩
    | error e => exact .inr (.inl ⟨content, e, rfl, h⟩)
  | _ => exact .inr (.inr ⟨nofun, nofun⟩)

theorem decode_of_standsFor (h : StandsFor payload v) : decode payload = .ok v := by
  cases h with
  | read h hread => rw [decode_of_isText h, hread]
  | itself htext hbytes =>
    cases payload with
    | text text => exact absurd rfl (htext text)
    | bytes content => exact absurd rfl (hbytes content)
    | _ => rfl

theorem decode_of_unreadable (h : Unreadable payload reason) :
    decode payload = .error (refusal payload reason) := by
  cases h with
  | encoding h => rw [decode, h]
  | json h hread => rw [decode_of_isText h, hread]

/-- What decoding a payload can come to. -/
theorem decode_cases (payload : Value) :
    (∃ v, StandsFor payload v) ∨ (∃ reason, Unreadable payload reason) ∨
      ∃ text n, IsText text payload ∧ Json.read text = .error (.tooLong n) := by
  rcases isText_or payload with ⟨text, h⟩ | ⟨content, e, rfl, h⟩ | ⟨htext, hbytes⟩
  · cases hread : Json.read text with
    | ok v => exact .inl ⟨v, .read h hread⟩
    | error e =>
      cases e with
      | malformed fault chars position => exact .inr (.inl ⟨_, .json h hread⟩)
      | tooLong n => exact .inr (.inr ⟨text, n, h, hread⟩)
  · exact .inr (.inl ⟨_, .encoding h⟩)
  · exact .inl ⟨payload, .itself htext hbytes⟩

theorem decode_eq_ok_iff : decode payload = .ok v ↔ StandsFor payload v := by
  refine ⟨fun hdecode => ?_, decode_of_standsFor⟩
  rcases decode_cases payload with ⟨w, h⟩ | ⟨reason, h⟩ | ⟨text, n, h, hread⟩
  · cases hdecode.symm.trans (decode_of_standsFor h)
    exact h
  · cases hdecode.symm.trans (decode_of_unreadable h)
  · rw [decode_of_isText h, hread] at hdecode
    cases hdecode

/-- What a payload spells is what it stands for, unless it is a text with an integer that is too
long. -/
theorem decode_of_spells (h : Spells payload v) :
    decode payload = .ok v ∨ ∃ n, decode payload = .error (.tooLong (.read n)) := by
  cases h with
  | read h hread =>
    rw [decode_of_isText h]
    obtain hok | ⟨n, hlong⟩ := Json.read_of_readChars hread
    · rw [hok]
      exact .inl rfl
    · rw [hlong]
      exact .inr ⟨n, rfl⟩
  | itself htext hbytes => exact .inl (decode_of_standsFor (.itself htext hbytes))

/-! ### Entries -/

/-- A value and the entries that it lists: none if it is empty, and itself if it is no list. -/
inductive Lists : Value → List Value → Prop where
  /-- Nothing, in any form. -/
  | none {v : Value} (h : v.isEmpty = true) : Lists v []
  /-- A list. -/
  | list (vs : List Value) : Lists (.list vs) vs
  /-- A value that is no list. -/
  | alone {v : Value} (h : v.isEmpty = false) (hno : ∀ vs, v ≠ .list vs) : Lists v [v]

/-- An entry and the rule that it is or describes. -/
inductive Reads : Value → Rule → Prop where
  /-- A rule is kept. -/
  | kept (r : Rule) : Reads r.toValue r
  /-- A map is read. -/
  | map {es : Entries} {r : Rule} (h : ofEntries es = .ok r) : Reads (.map es) r

/-- An entry that is no rule and describes none, and why. -/
inductive Rejects : Value → Reason → Prop where
  /-- Neither a rule nor a map. -/
  | kind {v : Value} (hrule : ∀ r : Rule, v ≠ r.toValue) (hmap : ∀ es, v ≠ .map es) :
      Rejects v (.entry v.typeName)
  /-- A map whose fields have faults. -/
  | invalid {es : Entries} {faults : List Validation.Fault} (h : ofEntries es = .error faults) :
      Rejects (.map es) (.invalid ⟨"Rule", faults⟩)

theorem lists_iff {entries : List Value} : Lists v entries ↔ entriesOf v = entries := by
  unfold entriesOf
  constructor
  · intro h
    cases h with
    | none h => rw [if_pos h]
    | list => cases entries <;> rfl
    | alone h hno =>
      rw [if_neg (by simp [h])]
      split
      next vs => exact absurd rfl (hno vs)
      next => rfl
  · rintro rfl
    split
    next h => exact .none h
    next h =>
      split
      next vs => exact .list vs
      next hno => exact .alone (Bool.not_eq_true _ ▸ h) hno

theorem ofEntry_of_reads {r : Rule} (h : Reads v r) : ofEntry v = .ok r := by
  cases h with
  | kept => rfl
  | map h =>
    rw [ofEntry, h]
    rfl

theorem ofEntry_of_rejects (h : Rejects v reason) : ofEntry v = .error reason := by
  cases h with
  | kind hrule hmap =>
    cases v with
    | rule name selector declared source multi =>
      exact absurd rfl (hrule ⟨name, selector, declared, source, multi⟩)
    | map es => exact absurd rfl (hmap es)
    | _ => rfl
  | invalid h =>
    rw [ofEntry, h]
    rfl

/-- Every entry is read or rejected. -/
theorem reads_or_rejects (v : Value) : (∃ r, Reads v r) ∨ ∃ reason, Rejects v reason := by
  cases v with
  | rule name selector declared source multi =>
    exact .inl ⟨_, .kept ⟨name, selector, declared, source, multi⟩⟩
  | map es =>
    cases h : ofEntries es with
    | ok r => exact .inl ⟨r, .map h⟩
    | error faults => exact .inr ⟨_, .invalid h⟩
  | _ => exact .inr ⟨_, .kind nofun nofun⟩

theorem ofEntry_eq_ok_iff {r : Rule} : ofEntry v = .ok r ↔ Reads v r := by
  refine ⟨fun hv => ?_, ofEntry_of_reads⟩
  rcases reads_or_rejects v with ⟨r', h⟩ | ⟨reason, h⟩
  · cases hv.symm.trans (ofEntry_of_reads h)
    exact h
  · cases hv.symm.trans (ofEntry_of_rejects h)

theorem ofEntry_eq_error_iff : ofEntry v = .error reason ↔ Rejects v reason := by
  refine ⟨fun hv => ?_, ofEntry_of_rejects⟩
  rcases reads_or_rejects v with ⟨r, h⟩ | ⟨reason', h⟩
  · cases hv.symm.trans (ofEntry_of_reads h)
  · cases hv.symm.trans (ofEntry_of_rejects h)
    exact h

/-! ### Lists of entries -/

/-- A list is read if each of its entries is. -/
theorem ofList_eq_ok_iff {vs : List Value} {rules : List Rule} :
    ofList vs = .ok rules ↔ List.Forall₂ (fun v r => ofEntry v = .ok r) vs rules := by
  induction vs generalizing rules with
  | nil =>
    rw [List.forall₂_nil_left_iff, ofList]
    exact ⟨fun h => (Except.ok.inj h).symm, fun h => by rw [h]⟩
  | cons v vs ih =>
    rw [List.forall₂_cons_left_iff, ofList]
    cases hv : ofEntry v with
    | error reason => simp
    | ok r =>
      cases hvs : ofList vs with
      | error reason =>
        simp only [Except.map, Except.ok.injEq, reduceCtorEq, false_iff, not_exists, not_and]
        rintro r' rules' - h -
        cases hvs.symm.trans (ih.2 h)
      | ok rules' =>
        simp only [Except.map, Except.ok.injEq]
        constructor
        · rintro rfl
          exact ⟨r, rules', rfl, ih.1 hvs, rfl⟩
        · rintro ⟨_, rules'', rfl, h, rfl⟩
          rw [Except.ok.inj (hvs.symm.trans (ih.2 h))]

/-- The first entry that is rejected decides. -/
theorem ofList_of_rejects {before after : List Value} {bad : Value} {rules : List Rule}
    (hbefore : List.Forall₂ (fun v r => ofEntry v = .ok r) before rules)
    (hbad : ofEntry bad = .error reason) : ofList (before ++ bad :: after) = .error reason := by
  induction hbefore with
  | nil => rw [List.nil_append, ofList, hbad]
  | cons hv _ ih =>
    rw [List.cons_append, ofList, hv, ih]
    rfl

/-- A list is refused for the first of its entries that is rejected. -/
theorem ofList_eq_error_iff {vs : List Value} :
    ofList vs = .error reason ↔ ∃ before rules bad after, vs = before ++ bad :: after ∧
      List.Forall₂ (fun v r => ofEntry v = .ok r) before rules ∧ ofEntry bad = .error reason := by
  constructor
  · intro h
    induction vs with
    | nil => cases h
    | cons v vs ih =>
      rw [ofList] at h
      cases hv : ofEntry v with
      | error reason' =>
        rw [hv] at h
        cases h
        exact ⟨[], [], v, vs, rfl, .nil, hv⟩
      | ok r =>
        cases hvs : ofList vs with
        | ok rules =>
          rw [hv, hvs] at h
          cases h
        | error reason' =>
          rw [hv, hvs] at h
          cases h
          obtain ⟨before, rules, bad, after, rfl, hbefore, hbad⟩ := ih hvs
          exact ⟨v :: before, r :: rules, bad, after, rfl, .cons hv hbefore, hbad⟩
  · rintro ⟨before, rules, bad, after, rfl, hbefore, hbad⟩
    exact ofList_of_rejects hbefore hbad

/-! ### Whole payloads -/

/-- A payload that is refused, and why. -/
inductive Refused : Value → Reason → Prop where
  /-- It stands for nothing. -/
  | unreadable {payload : Value} {reason : Reason} (h : Unreadable payload reason) :
      Refused payload reason
  /-- One of its entries is rejected, and all before it are read. -/
  | entry {payload v bad : Value} {before after : List Value} {rules : List Rule} {reason : Reason}
      (hv : StandsFor payload v) (hlists : Lists v (before ++ bad :: after))
      (hbefore : List.Forall₂ Reads before rules) (hbad : Rejects bad reason) :
      Refused payload reason

theorem forall₂_reads_iff {vs : List Value} {rules : List Rule} :
    List.Forall₂ Reads vs rules ↔ List.Forall₂ (fun v r => ofEntry v = .ok r) vs rules := by
  simp only [ofEntry_eq_ok_iff]

theorem parse_of_standsFor {entries : List Value} (hv : StandsFor payload v)
    (hlists : Lists v entries) :
    parse payload = (ofList entries).mapError (refusal payload) := by
  rw [parse, decode_of_standsFor hv]
  simp only [lists_iff.1 hlists]

/-- A payload is read if all its entries are. -/
theorem parse_eq_ok_iff {rules : List Rule} :
    parse payload = .ok rules ↔
      ∃ v entries, StandsFor payload v ∧ Lists v entries ∧ List.Forall₂ Reads entries rules := by
  constructor
  · intro h
    unfold parse at h
    split at h
    · cases h
    next v hv =>
      have hrules : ofList (entriesOf v) = .ok rules := mapError_eq_ok_iff.1 h
      exact ⟨v, _, decode_eq_ok_iff.1 hv, lists_iff.2 rfl,
        forall₂_reads_iff.2 (ofList_eq_ok_iff.1 hrules)⟩
  · rintro ⟨v, entries, hv, hlists, hreads⟩
    rw [parse_of_standsFor hv hlists, mapError_eq_ok_iff]
    exact ofList_eq_ok_iff.2 (forall₂_reads_iff.1 hreads)

/-- A payload that is refused is reported so, if it can be shown. -/
theorem parse_of_refused (h : Refused payload reason) :
    parse payload = .error (refusal payload reason) := by
  cases h with
  | unreadable h => rw [parse, decode_of_unreadable h]
  | entry hv hlists hbefore hbad =>
    rw [parse_of_standsFor hv hlists,
      ofList_of_rejects (forall₂_reads_iff.1 hbefore) (ofEntry_of_rejects hbad)]
    rfl

/-- What reading a payload can come to. -/
theorem parse_cases (payload : Value) :
    (∃ rules, parse payload = .ok rules) ∨ (∃ reason, Refused payload reason) ∨
      ∃ text n, IsText text payload ∧ Json.read text = .error (.tooLong n) ∧
        parse payload = .error (.tooLong (.read n)) := by
  rcases decode_cases payload with ⟨v, hv⟩ | ⟨reason, h⟩ | ⟨text, n, h, hread⟩
  · cases hrules : ofList (entriesOf v) with
    | ok rules => exact .inl ⟨rules, by rw [parse_of_standsFor hv (lists_iff.2 rfl), hrules]; rfl⟩
    | error reason =>
      obtain ⟨before, rules, bad, after, hentries, hbefore, hbad⟩ := ofList_eq_error_iff.1 hrules
      exact .inr (.inl ⟨reason, .entry hv (lists_iff.2 hentries) (forall₂_reads_iff.2 hbefore)
        (ofEntry_eq_error_iff.1 hbad)⟩)
  · exact .inr (.inl ⟨reason, .unreadable h⟩)
  · exact .inr (.inr ⟨text, n, h, hread, by rw [parse, decode_of_isText h, hread]⟩)

/-- A payload that is refused is shown as it is. -/
theorem parse_eq_refused_iff {quoted : Value} {shown : String} :
    parse payload = .error (.refused quoted shown reason) ↔
      quoted = payload ∧ payload.shown? = some shown ∧ Refused payload reason := by
  constructor
  · intro h
    rcases parse_cases payload with ⟨rules, hrules⟩ | ⟨reason', hrefused⟩ | ⟨text, n, -, -, he⟩
    · cases h.symm.trans hrules
    · rw [parse_of_refused hrefused, Except.error.injEq, refusal_eq_refused_iff] at h
      obtain ⟨rfl, hshown, rfl⟩ := h
      exact ⟨rfl, hshown, hrefused⟩
    · cases h.symm.trans he
  · rintro ⟨rfl, hshown, hrefused⟩
    rw [parse_of_refused hrefused, refusal_of_shown hshown]

/-- The integers that are read from a payload are too long only where it is text. -/
theorem parse_eq_read_iff {n : Nat} :
    parse payload = .error (.tooLong (.read n)) ↔
      ∃ text, IsText text payload ∧ Json.read text = .error (.tooLong n) := by
  constructor
  · intro h
    rcases parse_cases payload with ⟨rules, hrules⟩ | ⟨reason, hrefused⟩ | ⟨text, m, htext, hread, he⟩
    · cases h.symm.trans hrules
    · rw [parse_of_refused hrefused, Except.error.injEq, refusal_eq_tooLong_iff] at h
      cases h.2
    · cases h.symm.trans he
      exact ⟨text, htext, hread⟩
  · rintro ⟨text, htext, hread⟩
    rw [parse, decode_of_isText htext, hread]

/-- An integer keeps a payload from being shown exactly if the payload is refused. -/
theorem parse_eq_written_iff :
    parse payload = .error (.tooLong .written) ↔
      payload.isShort = false ∧ ∃ reason, Refused payload reason := by
  constructor
  · intro h
    rcases parse_cases payload with ⟨rules, hrules⟩ | ⟨reason, hrefused⟩ | ⟨text, n, -, -, he⟩
    · cases h.symm.trans hrules
    · rw [parse_of_refused hrefused, Except.error.injEq, refusal_eq_tooLong_iff] at h
      exact ⟨h.1, reason, hrefused⟩
    · cases h.symm.trans he
  · rintro ⟨hlong, reason, hrefused⟩
    rw [parse_of_refused hrefused, refusal_of_long hlong]

/-- A payload whose integers are short is read, or it is refused. -/
theorem refused_of_parse_eq_error {e : PayloadError} (hshort : ShortIntegers payload)
    (h : parse payload = .error e) :
    ∃ reason shown, Refused payload reason ∧ payload.shown? = some shown ∧
      e = .refused payload shown reason := by
  rcases parse_cases payload with ⟨rules, hrules⟩ | ⟨reason, hrefused⟩ | ⟨text, n, htext, hread, -⟩
  · cases h.symm.trans hrules
  · cases h.symm.trans (parse_of_refused hrefused)
    rcases refusal_cases payload reason with ⟨shown, hshown, heq⟩ | ⟨hlong, -⟩
    · exact ⟨reason, shown, hrefused, hshown, heq⟩
    · cases hlong.symm.trans hshort.value
  · obtain ⟨t, ht, hexceeds⟩ := Json.exists_token_of_read hread
    exact absurd hexceeds (hshort.text htext t ht n)

/-- A list with an entry that is rejected is not read. -/
theorem exists_ofList_error {vs : List Value} {bad : Value} (hmem : bad ∈ vs)
    (hbad : Rejects bad reason) : ∃ reason, ofList vs = .error reason := by
  cases hvs : ofList vs with
  | error reason => exact ⟨reason, rfl⟩
  | ok rules =>
    obtain ⟨r, hr⟩ := exists_ofEntry_iff.2 (exists_ofList_iff.1 ⟨rules, hvs⟩ bad hmem)
    cases hr.symm.trans (ofEntry_of_rejects hbad)

/-- A payload is not read exactly if it is bytes of no text, or a text that spells no value, or has
an entry that is rejected. -/
theorem exists_parse_error_iff (hshort : ShortIntegers payload) :
    (∃ e, parse payload = .error e) ↔
      (∃ content, payload = .bytes content ∧ ∀ text, content ≠ Text.Utf8.encode text) ∨
      (∃ text, IsText text payload ∧ ∀ v, Json.read text ≠ .ok v) ∨
      ∃ v entries, StandsFor payload v ∧ Lists v entries ∧
        ∃ bad ∈ entries, ∃ reason, Rejects bad reason := by
  constructor
  · rintro ⟨e, he⟩
    obtain ⟨reason, -, hrefused, -⟩ := refused_of_parse_eq_error hshort he
    cases hrefused with
    | unreadable h =>
      cases h with
      | encoding h =>
        refine .inl ⟨_, rfl, fun text heq => ?_⟩
        cases h.symm.trans (Text.Utf8.decode_eq_ok_iff.2 heq)
      | json htext hread =>
        refine .inr (.inl ⟨_, htext, fun v hv => ?_⟩)
        cases hread.symm.trans hv
    | entry hv hlists hbefore hbad =>
      exact .inr (.inr ⟨_, _, hv, hlists, _, List.mem_append_right _ List.mem_cons_self, _, hbad⟩)
  · rintro (⟨content, rfl, hno⟩ | ⟨text, htext, hno⟩ |
      ⟨v, entries, hv, hlists, bad, hmem, reason, hbad⟩)
    · cases hdecode : Text.Utf8.decode content with
      | ok text => exact absurd (Text.Utf8.decode_eq_ok_iff.1 hdecode) (hno text)
      | error e => exact ⟨_, parse_of_refused (.unreadable (.encoding hdecode))⟩
    · cases hread : Json.read text with
      | ok v => exact absurd hread (hno v)
      | error e =>
        cases e with
        | malformed fault chars position =>
          exact ⟨_, parse_of_refused (.unreadable (.json htext hread))⟩
        | tooLong n => exact ⟨_, parse_eq_read_iff.2 ⟨text, htext, hread⟩⟩
    · obtain ⟨reason', hentries⟩ := exists_ofList_error hmem hbad
      rw [parse_of_standsFor hv hlists, hentries]
      exact ⟨_, rfl⟩

/-- **Payloads are read all or not at all.**  Take any payload whose integers are short.  It is read
exactly if it stands for a value and every entry that this value lists is a rule or describes one,
and the rules are then those of the entries, in their order; a value that is empty lists none, and
one that is no list lists itself.  It is refused exactly if it is bytes of no text, or a text that
spells no value, or has an entry that is neither a rule nor a map or is a map with faults.  The error
is always a refusal of the payload as it was supplied, which its message shows, and its reason is
that of the decoder or of the first entry that is rejected. -/
theorem payload_read_all_or_nothing {payload : Value} (hshort : ShortIntegers payload) :
    (∀ rules, parse payload = .ok rules ↔
      ∃ v entries, StandsFor payload v ∧ Lists v entries ∧ List.Forall₂ Reads entries rules) ∧
    ((∃ e, parse payload = .error e) ↔
      (∃ content, payload = .bytes content ∧ ∀ text, content ≠ Text.Utf8.encode text) ∨
      (∃ text, IsText text payload ∧ ∀ v, Json.read text ≠ .ok v) ∨
      ∃ v entries, StandsFor payload v ∧ Lists v entries ∧
        ∃ bad ∈ entries, ∃ reason, Rejects bad reason) ∧
    ∀ e, parse payload = .error e ↔ ∃ reason shown, Refused payload reason ∧
      payload.shown? = some shown ∧ e = .refused payload shown reason ∧
      e.message = "Rules are invalid. Expected an array or an object, got " ++ shown := by
  refine ⟨fun rules => parse_eq_ok_iff, exists_parse_error_iff hshort, fun e => ⟨fun he => ?_, ?_⟩⟩
  · obtain ⟨reason, shown, hrefused, hshown, rfl⟩ := refused_of_parse_eq_error hshort he
    exact ⟨reason, shown, hrefused, hshown, rfl, rfl⟩
  · rintro ⟨reason, shown, hrefused, hshown, rfl, -⟩
    exact parse_eq_refused_iff.2 ⟨rfl, hshown, hrefused⟩

/-- A text with a number and nothing in place of rules is refused for the number. -/
theorem payload_read_all_or_nothing_numbers :
    let payload : Value := .text "[5, null]"
    ShortIntegers payload ∧ ∃ e, parse payload = .error e ∧
      e = .refused payload "[5, null]" (.entry "int") ∧
      e.message = "Rules are invalid. Expected an array or an object, got [5, null]" := by
  intro payload
  have hread : Json.read "[5, null]" = .ok (.list [.int 5, .null]) := by
    have hwrite : Json.write ⟨none⟩ (.list [.int 5, .null]) = .ok "[5, null]" := by decide +kernel
    obtain ⟨text, htext, hread⟩ :=
      Json.read_write Json.blank_none (v := .list [.int 5, .null])
        ⟨⟨by decide +kernel, by decide +kernel⟩, trivial, trivial⟩
    cases hwrite.symm.trans htext
    exact hread
  have hshort : ShortIntegers payload := by
    have hdigits : (Json.tokens "[5, null]".toList).all (fun t =>
        match t.token with
        | .int _ n => decide (n ≤ Text.Numeral.maxDigits)
        | _ => true) = true := by decide +kernel
    refine ⟨rfl, fun {text} htext t ht n hexceeds => ?_⟩
    rw [isText_text_iff] at htext
    subst htext
    obtain ⟨⟨m, hm⟩, hlong⟩ := hexceeds
    have hn := List.all_eq_true.1 hdigits t ht
    rw [hm] at hn
    simp_all
  obtain ⟨-, -, herror⟩ := payload_read_all_or_nothing hshort
  have hlists : Lists (.list [.int 5, .null]) ([] ++ .int 5 :: [.null]) := .list _
  have hrefused : Refused payload (.entry "int") :=
    .entry (.read .text hread) hlists .nil (.kind nofun nofun)
  exact ⟨hshort, _, (herror _).2 ⟨_, _, hrefused, rfl, rfl, rfl⟩, rfl, rfl⟩

end Harvest.Rule
