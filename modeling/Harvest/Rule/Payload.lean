import Harvest.Json.Read
import Harvest.Rule.Basic

/-!
# Rule payloads

Rules are supplied as a payload: JSON text, its UTF-8 bytes, a map for one rule, or a list of maps
and of rules that have been read before.  An empty payload holds no rules.  `Rule.parse` reads all
rules of a payload or none: the first thing that is wrong is the reason of its refusal, and the
message shows the payload as it was supplied.  A payload that cannot be shown is not refused in these
words; the error is then that of the integer with too many digits (`refusal`).

The payload of nested rules (`Rule.nested`) is the source of a rule.  It is always less deep than
the source it stands in (`depth_lt_of_mem_nested`), so nesting ends.
-/

namespace Harvest

/-! ### Errors told in other words -/

theorem mapError_eq_ok_iff {ε ε' α : Type} {x : Except ε α} {f : ε → ε'} {a : α} :
    x.mapError f = .ok a ↔ x = .ok a := by
  cases x with
  | ok b =>
    constructor
    · rintro ⟨⟩
      rfl
    · rintro ⟨⟩
      rfl
  | error e => exact ⟨nofun, nofun⟩

theorem mapError_eq_error_iff {ε ε' α : Type} {x : Except ε α} {f : ε → ε'} {e' : ε'} :
    x.mapError f = .error e' ↔ ∃ e, x = .error e ∧ f e = e' := by
  cases x with
  | ok a => exact ⟨nofun, nofun⟩
  | error e =>
    constructor
    · rintro ⟨⟩
      exact ⟨e, rfl, rfl⟩
    · rintro ⟨_, ⟨⟩, rfl⟩
      rfl

namespace Rule

open Validation

/-! ### Reading a payload -/

/-- Why a payload is refused. -/
inductive Reason where
  /-- It is binary data that is not UTF-8. -/
  | encoding (error : Text.Utf8.DecodeError)
  /-- It is a text that is not JSON. -/
  | json (message : String)
  /-- It holds something that is neither a map nor a rule, of the kind named here. -/
  | entry (typeName : String)
  /-- It holds a map that is no rule. -/
  | invalid (report : Report)

/-- The wording of a reason. -/
def Reason.message : Reason → String
  | .encoding error => error.message
  | .json message => message
  | .entry typeName => "rule entries must be objects, got " ++ typeName
  | .invalid report => report.message

/-- Why a payload yields no rules. -/
inductive PayloadError where
  /-- The payload, which is shown like this, is refused. -/
  | refused (payload : Value) (shown : String) (reason : Reason)
  /-- An integer in the payload has too many digits: for the text of the payload to be read, or for
  the payload to be shown. -/
  | tooLong (error : Text.Numeral.TooLong)

/-- The message of an error. -/
def PayloadError.message : PayloadError → String
  | .refused _ shown _ => "Rules are invalid. Expected an array or an object, got " ++ shown
  | .tooLong error => error.message

/-- The error of a payload that is refused; its message shows the payload. -/
def refusal (payload : Value) (reason : Reason) : PayloadError :=
  payload.shown?.elim (.tooLong .written) fun shown => .refused payload shown reason

/-- The rule of one entry of a payload. -/
def ofEntry : Value → Except Reason Rule
  | .rule name selector declared source multi => .ok ⟨name, selector, declared, source, multi⟩
  | .map es => (Checked.report "Rule" (ofEntries es)).mapError .invalid
  | v => .error (.entry v.typeName)

/-- The rules of the entries of a payload, in order, up to the first that is none. -/
def ofList : List Value → Except Reason (List Rule)
  | [] => .ok []
  | v :: vs =>
    match ofEntry v with
    | .error reason => .error reason
    | .ok r => (ofList vs).map (r :: ·)

/-- The entries of a payload that has been decoded. -/
def entriesOf (v : Value) : List Value :=
  if v.isEmpty then []
  else
    match v with
    | .list vs => vs
    | v => [v]

/-- The value that a payload stands for: text and bytes are decoded. -/
def decode (payload : Value) : Except PayloadError Value :=
  let json (s : String) : Except PayloadError Value :=
    match Json.read s with
    | .ok v => .ok v
    | .error (.tooLong digits) => .error (.tooLong (.read digits))
    | .error e => .error (refusal payload (.json e.message))
  match payload with
  | .text s => json s
  | .bytes bs =>
    match Text.Utf8.decode bs with
    | .ok s => json s
    | .error e => .error (refusal payload (.encoding e))
  | v => .ok v

/-- The rules of a payload. -/
def parse (payload : Value) : Except PayloadError (List Rule) :=
  match decode payload with
  | .error e => .error e
  | .ok v => (ofList (entriesOf v)).mapError (refusal payload)

/-- The rules nested in a rule, which its source lists. -/
def nested (r : Rule) : Except Flaw (List Rule) :=
  match r.source with
  | .list vs =>
    (ofList vs).mapError fun reason => .showing r.source fun _ => .nestedRules reason.message
  | _ => .error .noRules

/-! ### Refusals -/

theorem refusal_of_shown {payload : Value} {reason : Reason} {shown : String}
    (h : payload.shown? = some shown) :
    refusal payload reason = .refused payload shown reason := by
  rw [refusal, h]
  rfl

theorem refusal_of_long {payload : Value} {reason : Reason} (h : payload.isShort = false) :
    refusal payload reason = .tooLong .written := by
  rw [← Value.isSome_shown?, Option.isSome_eq_false_iff, Option.isNone_iff_eq_none] at h
  rw [refusal, h]
  rfl

/-- A payload that is refused is shown, or it cannot be shown. -/
theorem refusal_cases (payload : Value) (reason : Reason) :
    (∃ shown, payload.shown? = some shown ∧ refusal payload reason = .refused payload shown reason) ∨
      payload.isShort = false ∧ refusal payload reason = .tooLong .written := by
  cases h : payload.shown? with
  | some shown => exact .inl ⟨shown, rfl, refusal_of_shown h⟩
  | none =>
    have hlong : payload.isShort = false := by rw [← Value.isSome_shown?, h]; rfl
    exact .inr ⟨hlong, refusal_of_long hlong⟩

/-! ### Nesting ends -/

theorem nested_eq_ok_iff {r : Rule} {rules : List Rule} :
    r.nested = .ok rules ↔ ∃ vs, r.source = .list vs ∧ ofList vs = .ok rules := by
  unfold nested
  split
  next vs hs => simp only [hs, Value.list.injEq, exists_eq_left', mapError_eq_ok_iff]
  next hno => simpa using fun vs hs => absurd hs (hno vs)

theorem depth_source_lt_of_ofEntry {v : Value} {r : Rule} (h : ofEntry v = .ok r) :
    r.source.depth < v.depth := by
  unfold ofEntry at h
  split at h
  next name selector declared source multi =>
    cases h
    simp only [Value.depth]
    exact Nat.lt_succ_of_le (Nat.le_max_right ..)
  next es =>
    apply depth_source_lt_of_ofEntries
    cases he : ofEntries es with
    | error fs =>
      rw [he] at h
      cases h
    | ok r' =>
      rw [he] at h
      cases h
      rfl
  next => cases h

/-- Every rule of a list comes from an element of the list. -/
theorem exists_of_mem_ofList {vs : List Value} {rs : List Rule} {r : Rule}
    (h : ofList vs = .ok rs) (hr : r ∈ rs) : ∃ v ∈ vs, ofEntry v = .ok r := by
  induction vs generalizing rs with
  | nil =>
    cases h
    cases hr
  | cons v vs ih =>
    rw [ofList] at h
    split at h
    · cases h
    next r' hv =>
      cases hvs : ofList vs with
      | error e => simp [hvs, Except.map] at h
      | ok rs' =>
        simp only [hvs, Except.map, Except.ok.injEq] at h
        subst h
        rcases List.mem_cons.1 hr with rfl | hr
        · exact ⟨v, List.mem_cons_self, hv⟩
        · obtain ⟨w, hw, he⟩ := ih hvs hr
          exact ⟨w, List.mem_cons_of_mem _ hw, he⟩

/-- A nested rule has a source less deep than the rule that holds it. -/
theorem depth_lt_of_mem_nested {r r' : Rule} {rs : List Rule} (h : r.nested = .ok rs)
    (hr : r' ∈ rs) : r'.source.depth < r.source.depth := by
  obtain ⟨vs, hs, hrs⟩ := nested_eq_ok_iff.1 h
  obtain ⟨v, hv, he⟩ := exists_of_mem_ofList hrs hr
  rw [hs]
  exact Nat.lt_trans (depth_source_lt_of_ofEntry he) (Value.depth_lt_of_mem_list hv)

end Rule

end Harvest
