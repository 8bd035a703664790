import Harvest.Proofs.Command.Sources
import Harvest.Proofs.Json.Limit
import Harvest.Proofs.Json.Line
import Harvest.Proofs.Text.Utf8

/-!
# Ways to supply rules

Rules are supplied as a value, as the JSON text of the value, as the bytes of that text, in a file
that holds them, or as the rules of a configuration, which may come from a file itself.  Only a
payload that is refused is quoted as it was supplied, so what a way comes to is said apart from the
payload (`Rule.ComesTo`, and `Rule.Supplies` where the payload can be shown).

JSON text of a portable value decodes to the value, whether it is read at once, from its bytes or
from a file: it is written on one line, so the file has no line break that reading it could change
(`Store.readText_of_read`).  So all ways come to the same (`supplies_agree`).
-/

namespace Harvest

variable {s : Store} {path : String} {t : String} {v : Value}

/-! ### Payloads -/

namespace Rule

/-- What a payload comes to: the rules in it, or the reason why it is refused. -/
def ComesTo (payload : Value) (x : Except Reason (List Rule)) : Prop :=
  parse payload = x.mapError (refusal payload)

/-- What a payload that can be shown comes to; the message of a refusal shows it. -/
def Supplies (payload : Value) (x : Except Reason (List Rule)) : Prop :=
  ∃ shown, payload.shown? = some shown ∧ parse payload = x.mapError (.refused payload shown)

theorem comesTo_of_decode {payload : Value} (h : decode payload = .ok v) :
    ComesTo payload (ofList (entriesOf v)) := by
  rw [ComesTo, parse, h]

theorem ComesTo.supplies {payload : Value} {x : Except Reason (List Rule)} (h : ComesTo payload x)
    (hshort : payload.isShort = true) : Supplies payload x := by
  obtain ⟨shown, hshown⟩ := Option.isSome_iff_exists.1 (payload.isSome_shown?.trans hshort)
  refine ⟨shown, hshown, h.trans ?_⟩
  cases x with
  | ok rules => rfl
  | error reason => exact congrArg _ (refusal_of_shown hshown)

theorem decode_text (h : Json.read t = .ok v) : decode (.text t) = .ok v := by
  simp only [decode, h]

theorem decode_bytes (h : Json.read t = .ok v) :
    decode (.bytes (Text.Utf8.encode t)) = .ok v := by
  simp only [decode, Text.Utf8.decode_encode, h]

/-- A value that is no text is taken as it is. -/
theorem decode_of_portable {limit : Option Nat} (hv : Json.Portable limit v)
    (hno : ∀ s, v ≠ .text s) : decode v = .ok v := by
  cases v with
  | text s => exact absurd rfl (hno s)
  | bytes bs => exact hv.elim
  | _ => rfl

end Rule

/-- The configuration with some rules and nothing else. -/
theorem Config.ofValue_rules (payload : Value) :
    Config.ofValue (.map [("rules", payload)]) = .ok ⟨"json_lines", {}, payload⟩ := rfl

/-! ### Files -/

namespace Store

variable {p : FilePath}

/-- A file with the bytes of a text without carriage returns, which are all that reading changes,
holds that text. -/
theorem readText_of_encode (h : s.read p = .ok (Text.Utf8.encode t)) (hno : '\r' ∉ t.toList) :
    s.readText p = .ok t := by
  simp only [readText, h, textOf, Text.Utf8.decode_encode, Text.unifyBreaks_of_not_mem hno,
    String.ofList_toList]

/-- A file with the bytes of a text on one line holds that text. -/
theorem readText_of_read (h : s.read p = .ok (Text.Utf8.encode t)) (ht : Json.Calm t.toList) :
    s.readText p = .ok t :=
  readText_of_encode h (ht.not_mem (by decide))

theorem contains_of_readText (h : s.readText p = .ok t) : s.contains p = .ok true := by
  unfold readText read at h
  unfold contains
  cases hl : s.locate p with
  | error e =>
    rw [hl] at h
    cases h
  | ok l =>
    cases hfile : s.get? l with
    | none =>
      simp only [hl, hfile] at h
      cases h
    | some entry => simp only [hfile, Option.isSome_some]

end Store

namespace Command

theorem require_of_readText {p : FilePath} (h : s.readText p = .ok t) (missing : Error) :
    require s p missing = .ok () := by
  rw [require, Store.contains_of_readText h]

/-- Rules in a file are those of its text. -/
theorem outcome_loadRules_of_readText (h : s.readText (.ofText path) = .ok t) :
    (loadRules s path).outcome = (Rule.parse (.text t)).mapError .payload := by
  have hrules : readRules s (.ofText path) = (Rule.parse (.text t)).mapError .payload := by
    rw [readRules, readText, h]
    rfl
  rw [loadRules, require_of_readText h]
  exact hrules

/-- A configuration in a file is that of the value that the file holds. -/
theorem outcome_loadConfig_of_readValue {config : Config}
    (h : readValue s (.ofText path) = .ok v) (hv : Config.ofValue v = .ok config) :
    (loadConfig s path).outcome = .ok config := by
  obtain ⟨t, ht⟩ : ∃ t, s.readText (.ofText path) = .ok t := by
    cases ht : s.readText (.ofText path) with
    | error e =>
      rw [readValue, readText, ht] at h
      cases h
    | ok t => exact ⟨t, rfl⟩
  have hconfig : readConfig s (.ofText path) = .ok config := by
    rw [readConfig, h]
    simp only [Except.bind, hv]
    rfl
  rw [loadConfig, require_of_readText ht, hconfig]
  rfl

/-- A portable value, written on one line into a file, is read from there. -/
theorem exists_write_readValue {v : Value} (hv : Json.Portable (some Text.Numeral.maxDigits) v) :
    ∃ file, Json.write ⟨none⟩ v = .ok file ∧ ∀ (s : Store) (path : String),
      s.read (.ofText path) = .ok (Text.Utf8.encode file) →
        readValue s (.ofText path) = .ok v := by
  obtain ⟨file, hwrite, hread⟩ := Json.read_write Json.blank_none hv
  refine ⟨file, hwrite, fun s path hfile => ?_⟩
  rw [readValue, readText, Store.readText_of_read hfile (Json.calm_write hwrite)]
  simp only [Except.mapError, Except.bind, hread]

/-- **All ways to supply rules agree.**  Take a portable value that is no text, and its JSON text.
The value, the text and the bytes of the text come to what the entries of the value yield, each shown
as it is where that is a refusal, and so does a file with these bytes.  A configuration with nothing but
the value or the text for its rules is valid and comes to the same; so does one that is loaded from a
file that holds it, in any spelling, of which the JSON text of the configuration is one. -/
theorem supplies_agree {p : Value} (hp : Json.Portable (some Text.Numeral.maxDigits) p)
    (hno : ∀ s, p ≠ .text s) :
    let x := Rule.ofList (Rule.entriesOf p)
    ∃ t, Json.write ⟨none⟩ p = .ok t ∧
      (∀ q ∈ [p, .text t, .bytes (Text.Utf8.encode t)], Rule.Supplies q x) ∧
      (∀ (s : Store) (path : String), s.read (.ofText path) = .ok (Text.Utf8.encode t) →
        (loadRules s path).outcome =
          x.mapError fun reason => .payload (.refused (.text t) t reason)) ∧
      ∀ q ∈ [p, .text t],
        (∃ config, Config.ofValue (.map [("rules", q)]) = .ok config ∧
          Rule.Supplies config.rules x) ∧
        (∀ (s : Store) (path : String),
          readValue s (.ofText path) = .ok (.map [("rules", q)]) →
            ∃ config, (loadConfig s path).outcome = .ok config ∧ Rule.Supplies config.rules x) ∧
        ∃ file, Json.write ⟨none⟩ (.map [("rules", q)]) = .ok file ∧
          ∀ (s : Store) (path : String), s.read (.ofText path) = .ok (Text.Utf8.encode file) →
            readValue s (.ofText path) = .ok (.map [("rules", q)]) := by
  intro x
  obtain ⟨t, hwrite, hread⟩ := Json.read_write Json.blank_none hp
  have hvalue : Rule.Supplies p x :=
    (Rule.comesTo_of_decode (Rule.decode_of_portable hp hno)).supplies (Json.isShort_of_portable p hp)
  have htext : Rule.Supplies (.text t) x :=
    (Rule.comesTo_of_decode (Rule.decode_text hread)).supplies rfl
  have hbytes : Rule.Supplies (.bytes (Text.Utf8.encode t)) x :=
    (Rule.comesTo_of_decode (Rule.decode_bytes hread)).supplies rfl
  refine ⟨t, hwrite, ?_, fun s path hfile => ?_, fun q hq => ?_⟩
  · intro q hq
    simp only [List.mem_cons, List.not_mem_nil, or_false] at hq
    obtain rfl | rfl | rfl := hq
    · exact hvalue
    · exact htext
    · exact hbytes
  · have hline := Store.readText_of_read hfile (Json.calm_write hwrite)
    obtain ⟨shown, hshown, hparse⟩ := htext
    cases hshown
    rw [outcome_loadRules_of_readText hline, hparse]
    cases x <;> rfl
  · -- the value and the text are alike from here on: both are portable and come to the outcome
    obtain ⟨hportable, hq⟩ : Json.Portable (some Text.Numeral.maxDigits) q ∧
        Rule.Supplies q x := by
      simp only [List.mem_cons, List.not_mem_nil, or_false] at hq
      obtain rfl | rfl := hq
      · exact ⟨hp, hvalue⟩
      · exact ⟨trivial, htext⟩
    have hconfig := Config.ofValue_rules q
    refine ⟨⟨_, hconfig, hq⟩, fun s path hfile => ?_, ?_⟩
    · exact ⟨_, outcome_loadConfig_of_readValue hfile hconfig, hq⟩
    · exact exists_write_readValue ⟨by simp [Entries.keys], hportable, trivial⟩

/-- The JSON text of a rule for the text of a paragraph. -/
def paragraph : String :=
  "\x7b\"varName\": \"t\", \"selector\": \"p\"\x7d"

/-- The JSON text of a configuration with that text for its rules. -/
def quotedParagraph : String :=
  "\x7b\"rules\": \"\x7b\\\"varName\\\": \\\"t\\\", \\\"selector\\\": \\\"p\\\"\x7d\"\x7d"

/-- A store with both texts in files. -/
def stand : Store :=
  ((Store.empty ["work"]).putFile ["work", "r.json"] (Text.Utf8.encode paragraph)).putFile
    ["work", "c.json"] (Text.Utf8.encode quotedParagraph)

/-- The rule for a paragraph is supplied in five ways. -/
theorem supplies_agree_paragraph :
    let p : Value := .map [("varName", .text "t"), ("selector", .text "p")]
    let r : Rule := ⟨"t", some "p", .null, .null, some false⟩
    Json.Portable (some Text.Numeral.maxDigits) p ∧ (∀ s, p ≠ .text s) ∧
      Json.write ⟨none⟩ p = .ok paragraph ∧ Rule.parse p = .ok [r] ∧
      Rule.parse (.text paragraph) = .ok [r] ∧
      Rule.parse (.bytes (Text.Utf8.encode paragraph)) = .ok [r] ∧
      (loadRules stand "r.json").outcome = .ok [r] ∧
      ∃ config, (loadConfig stand "c.json").outcome = .ok config ∧
        Rule.parse config.rules = .ok [r] := by
  intro p r
  have hp : Json.Portable (some Text.Numeral.maxDigits) p :=
    ⟨by decide, trivial, trivial, trivial⟩
  have hno : ∀ s, p ≠ .text s := by simp [p]
  have hwritten : Json.write ⟨none⟩ p = .ok paragraph := by decide +kernel
  obtain ⟨t, hwrite, hsupplies, hrules, hconfigs⟩ := supplies_agree hp hno
  obtain rfl : paragraph = t := Except.ok.inj (hwritten.symm.trans hwrite)
  have hx : Rule.ofList (Rule.entriesOf p) = .ok [r] := rfl
  rw [hx] at hsupplies hrules hconfigs
  obtain ⟨-, hload, file, hfile, hheld⟩ := hconfigs (.text paragraph) (by simp)
  have hquoted : Json.write ⟨none⟩ (.map [("rules", .text paragraph)]) = .ok quotedParagraph := by
    decide +kernel
  obtain rfl : quotedParagraph = file := Except.ok.inj (hquoted.symm.trans hfile)
  have hr : stand.read (.ofText "r.json") = .ok (Text.Utf8.encode paragraph) := by decide +kernel
  have hc : stand.read (.ofText "c.json") = .ok (Text.Utf8.encode quotedParagraph) := by
    decide +kernel
  have hparse {q : Value} (h : Rule.Supplies q (.ok [r])) : Rule.parse q = .ok [r] := h.choose_spec.2
  obtain ⟨config, hconfig, hsupplied⟩ := hload stand "c.json" (hheld stand "c.json" hc)
  exact ⟨hp, hno, hwritten, hparse (hsupplies _ (by simp)), hparse (hsupplies _ (by simp)),
    hparse (hsupplies _ (by simp)), hrules stand "r.json" hr, config, hconfig, hparse hsupplied⟩

end Command

end Harvest
