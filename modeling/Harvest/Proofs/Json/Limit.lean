import Harvest.Proofs.Json.RoundTrip
import Harvest.Value.Display

/-!
# Integers that are too long

The reader refuses an integer with too many digits, and only a token of such an integer makes it do so
(`exists_token_of_read`); any other text is read as it is without a limit (`read_of_readChars`).  The
text of an integer is refused as soon as it is too long (`read_intText_of_long`).

So a value that has been read has no such integer anywhere in it (`isShort_of_read`): a token knows
the number of its digits (`Token.Sized`), and the machine never holds a value that cannot be written
(`Frame.Short`, `Phase.Short`).
-/

namespace Harvest.Json

variable {limit : Option Nat} {n : Nat}

/-- A token is an integer with this many digits, which are more than a limit allows. -/
def Token.Exceeds (limit : Option Nat) (n : Nat) (t : Token) : Prop :=
  (∃ m, t = .int m n) ∧ limit.all (n ≤ ·) = false

theorem exceeds_of_stepValue {frames : List Frame} {t : Located}
    (h : stepValue limit frames t = .error (.tooLong n)) : t.token.Exceeds limit n := by
  unfold stepValue at h
  split at h
  case h_4 m digits htoken =>
    split at h
    · cases h
    next hlimit =>
      cases h
      exact ⟨⟨m, htoken⟩, Bool.not_eq_true _ ▸ hlimit⟩
  all_goals cases h

/-- One token is found too long only if it is an integer that exceeds the limit. -/
theorem exceeds_of_step {phase : Phase} {frames : List Frame} {t : Located}
    (h : step limit phase frames t = .error (.tooLong n)) : t.token.Exceeds limit n := by
  unfold step at h
  split at h <;> first | exact exceeds_of_stepValue h | cases h

/-- So there is such a token in a text that is found to hold one. -/
theorem exists_token_of_run {phase : Phase} {frames : List Frame} {ts : List Located}
    (h : run limit phase frames ts = .error (.tooLong n)) :
    ∃ t ∈ ts, t.token.Exceeds limit n := by
  induction ts generalizing phase frames with
  | nil =>
    cases phase <;> cases h
  | cons t ts ih =>
    rw [run] at h
    cases hstep : step limit phase frames t with
    | error e =>
      rw [hstep] at h
      cases h
      exact ⟨t, List.mem_cons_self, exceeds_of_step hstep⟩
    | ok next =>
      rw [hstep] at h
      obtain ⟨u, hu, hexceeds⟩ := ih h
      exact ⟨u, List.mem_cons_of_mem _ hu, hexceeds⟩

theorem read_eq_tooLong_iff {text : String} :
    read text = .error (.tooLong n) ↔
      readChars (some Text.Numeral.maxDigits) text.toList = .error (.tooLong n) := by
  simp only [read]
  split <;> simp_all

/-- **A text is refused for its length only if it holds an integer that is too long.** -/
theorem exists_token_of_read {text : String} (h : read text = .error (.tooLong n)) :
    ∃ t ∈ tokens text.toList, t.token.Exceeds (some Text.Numeral.maxDigits) n := by
  have hread := read_eq_tooLong_iff.1 h
  unfold readChars at hread
  split at hread
  · cases hread
  · exact exists_token_of_run hread

/-- The text of an integer that is too long is refused. -/
theorem read_intText_of_long {m : Int} (h : Text.Numeral.maxDigits < Text.Numeral.digitCount m) :
    read (Text.intText m) = .error (.tooLong (Text.Numeral.digitCount m)) := by
  obtain ⟨ls, htokens, hmap⟩ := spells_int m [] (fun c hc => by cases hc)
  rw [List.append_nil, tokens, List.append_nil] at htokens
  rw [← htokens] at hmap
  obtain ⟨t, hone, ht⟩ := List.map_eq_singleton_iff.1 hmap
  have hlimit : ¬ (some Text.Numeral.maxDigits).all (Text.Numeral.digitCount m ≤ ·) = true := by
    simpa using h
  rw [read_eq_tooLong_iff, readChars, if_neg (head?_ne_byteOrderMark (v := .int m) hmap), hone,
    run, step, stepValue]
  simp only [ht, hlimit, if_false, Bool.false_eq_true]

/-! ### Readers without a limit -/

theorem stepValue_or (limit : Option Nat) (frames : List Frame) (t : Located) :
    stepValue limit frames t = stepValue none frames t ∨
      ∃ n, stepValue limit frames t = .error (.tooLong n) := by
  unfold stepValue
  split
  case h_4 m digits _ =>
    split
    · exact .inl rfl
    · exact .inr ⟨digits, rfl⟩
  all_goals exact .inl rfl

theorem step_or (limit : Option Nat) (phase : Phase) (frames : List Frame) (t : Located) :
    step limit phase frames t = step none phase frames t ∨
      ∃ n, step limit phase frames t = .error (.tooLong n) := by
  unfold step
  split <;> first | exact stepValue_or limit frames t | exact .inl rfl

/-- A limit makes no difference, unless an integer is found too long. -/
theorem run_or (limit : Option Nat) (phase : Phase) (frames : List Frame) (ts : List Located) :
    run limit phase frames ts = run none phase frames ts ∨
      ∃ n, run limit phase frames ts = .error (.tooLong n) := by
  induction ts generalizing phase frames with
  | nil => exact .inl rfl
  | cons t ts ih =>
    rw [run, run]
    -- the machine keeps step with one that has no limit until it stops
    obtain hsame | ⟨n, hlong⟩ := step_or limit phase frames t
    · rw [hsame]
      cases step none phase frames t with
      | error e => exact .inl rfl
      | ok next => exact ih next.1 next.2
    · rw [hlong]
      exact .inr ⟨n, rfl⟩

theorem readChars_or (limit : Option Nat) (cs : List Char) :
    readChars limit cs = readChars none cs ∨ ∃ n, readChars limit cs = .error (.tooLong n) := by
  unfold readChars
  split
  · exact .inl rfl
  · exact run_or limit .value [] _

/-- A text that spells a value is read, unless an integer in it is too long. -/
theorem read_of_readChars {text : String} {v : Value} (h : readChars none text.toList = .ok v) :
    read text = .ok v ∨ ∃ n, read text = .error (.tooLong n) := by
  obtain hread | ⟨n, hlong⟩ := readChars_or (some Text.Numeral.maxDigits) text.toList
  · exact .inl (by simp only [read, hread, h])
  · exact .inr ⟨n, read_eq_tooLong_iff.2 hlong⟩

/-! ### A map of one integer -/

/-- The text of a map that holds an integer. -/
def entryText (key : String) (m : Int) : String :=
  "\x7b" ++ string key ++ ": " ++ Text.intText m ++ "\x7d"

theorem tokens_entryText (key : String) (m : Int) :
    (tokens (entryText key m).toList).map Located.token = valueTokens (.map [(key, .int m)]) := by
  have hopen : LexesThrough id ['\x7b'] [.mapOpen] := lexes_mapOpen.through respaces_id (by decide)
  have hclose : LexesThrough id ['\x7d'] [.mapClose] :=
    lexes_mapClose.through respaces_id (by decide)
  have hint : SpellsThrough id (Text.intText m).toList [.int m (Text.Numeral.digitCount m)] :=
    (spells_int m).through respaces_id ((calm_intText m).not_mem (by decide))
  have hkey := LexesThrough.append (LexesThrough.append hopen (lexesThrough_string respaces_id key))
    (lexesThrough_colon respaces_id)
  have hspells : SpellsThrough id _ _ := LexesThrough.append hkey
    (SpellsThrough.append hint hclose.spells (ends_cons rfl []))
  have htokens := hspells.tokens_eq respaces_id
  rw [entryText]
  simp only [String.toList_append]
  simpa [valueTokens, entryTokens] using htokens

theorem readChars_entryText (key : String) (m : Int) :
    readChars none (entryText key m).toList = .ok (.map [(key, .int m)]) := by
  have hmap := tokens_entryText key m
  have hleads : Leads none .value [] (valueTokens (.map [(key, .int m)]))
      (.done (.map [(key, .int m)]), []) :=
    leads_cons (fun _ => rfl) (leads_cons (fun _ => rfl) (leads_cons (fun _ => rfl)
      (leads_cons (fun _ => rfl) (leads_single fun _ => rfl))))
  have hrun := hleads (tokens (entryText key m).toList) [] hmap
  rw [List.append_nil] at hrun
  rw [readChars, if_neg (head?_ne_byteOrderMark hmap), hrun]
  rfl

/-! ### Values that have been read -/

/-- A value that stands in a token can be written, and an integer has no more digits than its
token. -/
def Token.Sized : Token → Prop
  | .int n digits => Text.Numeral.digitCount n ≤ digits
  | .name v => v.isShort = true
  | _ => True

theorem whole_ne_nil {cs : List Char} {n : Numeral} {rest : List Char}
    (h : numeral? cs = some (n, rest)) : n.whole ≠ [] := by
  obtain ⟨⟨whole, cs'⟩, hwhole, heq⟩ := Option.map_eq_some_iff.1 h
  cases heq
  change whole ≠ []
  unfold whole? at hwhole
  split at hwhole
  · cases hwhole
    exact List.cons_ne_nil _ _
  next c cs'' _ =>
    split at hwhole
    next hdigit =>
      cases hwhole
      simp [hdigit]
    next => cases hwhole
  · cases hwhole

theorem sized_numeral {n : Numeral} (h : n.whole ≠ []) : n.token.Sized := by
  unfold Numeral.token
  split
  · have hcount : ∀ m : Int, m.natAbs = Text.digitsValue n.whole →
        Text.Numeral.digitCount m ≤ n.whole.length := fun m hm => by
      rw [Text.Numeral.digitCount, hm]
      exact Text.length_toDigits_le h
    exact hcount _ (by split <;> simp)
  · trivial

theorem isShort_of_mem_names {n : List Char × Value} (h : n ∈ names) : n.2.isShort = true := by
  simp only [names, List.mem_cons, List.not_mem_nil, or_false] at h
  rcases h with rfl | rfl | rfl | rfl | rfl | rfl <;> rfl

theorem sized_token (c : Char) (cs : List Char) : (token c cs).1.Sized := by
  unfold token
  split
  case h_8 =>
    split
    next name v hname => exact isShort_of_mem_names (List.mem_of_find?_eq_some hname)
    next =>
      split
      next n rest hn => exact sized_numeral (whole_ne_nil hn)
      next => trivial
  case h_7 => split <;> trivial
  all_goals trivial

theorem sized_of_mem_tokens {cs : List Char} {t : Located} (h : t ∈ tokens cs) : t.token.Sized := by
  induction cs using tokens.induct with
  | case1 =>
    rw [tokens] at h
    cases h
  | case2 c cs hspace ih =>
    rw [tokens, if_pos hspace] at h
    exact ih h
  | case3 c cs hspace u rest hu hrest ih =>
    have hsized : (u, rest).1.Sized := hu ▸ sized_token c cs
    rw [tokens, if_neg hspace, hu] at h
    simp only [hrest, if_true, List.mem_cons] at h
    rcases h with rfl | h
    · exact hsized
    · exact ih h
  | case4 c cs hspace u rest hu hrest =>
    have hsized : (u, rest).1.Sized := hu ▸ sized_token c cs
    rw [tokens, if_neg hspace, hu] at h
    simp only [hrest, if_false, List.mem_singleton] at h
    exact h ▸ hsized

/-- The values in a frame can be written. -/
def Frame.Short : Frame → Prop
  | .list vs => ∀ v ∈ vs, v.isShort = true
  | .map es _ => ∀ e ∈ es, e.2.isShort = true

/-- The value that a machine has read can be written. -/
def Phase.Short : Phase → Prop
  | .done v => v.isShort = true
  | _ => True

/-- The machine holds values that can be written. -/
def ShortState (s : Phase × List Frame) : Prop :=
  s.1.Short ∧ ∀ f ∈ s.2, f.Short

section

variable {frames : List Frame} {v : Value}

theorem short_complete (hv : v.isShort = true) (hf : ∀ f ∈ frames, f.Short) :
    ShortState (complete v frames) := by
  match frames with
  | [] => exact ⟨hv, hf⟩
  | .list vs :: frames =>
    obtain ⟨hvs, hf⟩ := List.forall_mem_cons.1 hf
    exact ⟨trivial, List.forall_mem_cons.2 ⟨List.forall_mem_cons.2 ⟨hv, hvs⟩, hf⟩⟩
  | .map es key :: frames =>
    obtain ⟨hes, hf⟩ := List.forall_mem_cons.1 hf
    refine ⟨trivial, List.forall_mem_cons.2 ⟨fun e he => ?_, hf⟩⟩
    rcases Entries.mem_put he with rfl | he
    · exact hv
    · exact hes e he

theorem short_close (hf : ∀ f ∈ frames, f.Short) : ShortState (close frames) := by
  match frames with
  | [] => exact ⟨rfl, hf⟩
  | .list vs :: frames =>
    obtain ⟨hvs, hf⟩ := List.forall_mem_cons.1 hf
    refine short_complete ?_ hf
    rw [Value.isShort, Value.allShort_iff]
    exact fun v hv => hvs v (List.mem_reverse.1 hv)
  | .map es _ :: frames =>
    obtain ⟨hes, hf⟩ := List.forall_mem_cons.1 hf
    refine short_complete ?_ hf
    rw [Value.isShort, Value.entriesShort_iff]
    exact hes

theorem short_setKey {key : String} (hf : ∀ f ∈ frames, f.Short) :
    ShortState (setKey key frames) := by
  unfold setKey
  split
  · obtain ⟨hes, hf⟩ := List.forall_mem_cons.1 hf
    exact ⟨trivial, List.forall_mem_cons.2 ⟨hes, hf⟩⟩
  · exact ⟨trivial, hf⟩

theorem short_stepValue {t : Located} (ht : t.token.Sized) (hf : ∀ f ∈ frames, f.Short)
    {next : Phase × List Frame}
    (h : stepValue (some Text.Numeral.maxDigits) frames t = .ok next) : ShortState next := by
  unfold stepValue at h
  split at h
  · cases h
    exact ⟨trivial, List.forall_mem_cons.2 ⟨by simp [Frame.Short], hf⟩⟩
  · cases h
    exact ⟨trivial, List.forall_mem_cons.2 ⟨by simp [Frame.Short], hf⟩⟩
  · cases h
    exact short_complete rfl hf
  next n digits hint =>
    rw [hint] at ht
    split at h
    next hlimit =>
      cases h
      have hle : Text.Numeral.digitCount n ≤ Text.Numeral.maxDigits :=
        Nat.le_trans ht (by simpa using hlimit)
      refine short_complete ?_ hf
      simpa [Value.isShort, Text.Numeral.isLong] using hle
    next => cases h
  · cases h
    exact short_complete rfl hf
  next v hname =>
    rw [hname] at ht
    cases h
    exact short_complete ht hf
  · cases h
  · cases h

theorem short_step {phase : Phase} {t : Located} (ht : t.token.Sized)
    (hs : ShortState (phase, frames)) {next : Phase × List Frame}
    (h : step (some Text.Numeral.maxDigits) phase frames t = .ok next) : ShortState next := by
  unfold step at h
  split at h <;>
    first
    | exact short_stepValue ht hs.2 h
    | cases h
  all_goals first | exact short_close hs.2 | exact short_setKey hs.2 | exact ⟨trivial, hs.2⟩

theorem short_run {phase : Phase} {ts : List Located} (hts : ∀ t ∈ ts, t.token.Sized)
    (hs : ShortState (phase, frames))
    (h : run (some Text.Numeral.maxDigits) phase frames ts = .ok v) : v.isShort = true := by
  induction ts generalizing phase frames with
  | nil =>
    cases phase <;> cases h
    exact hs.1
  | cons t ts ih =>
    obtain ⟨ht, hts⟩ := List.forall_mem_cons.1 hts
    rw [run] at h
    cases hstep : step (some Text.Numeral.maxDigits) phase frames t with
    | error e =>
      rw [hstep] at h
      cases h
    | ok next =>
      rw [hstep] at h
      exact ih hts (short_step ht hs hstep) h

/-- **A value that has been read has no integer that is too long.** -/
theorem isShort_of_read {text : String} (h : read text = .ok v) : v.isShort = true := by
  simp only [read] at h
  split at h
  next w hread =>
    cases h
    unfold readChars at hread
    split at hread
    · cases hread
    · have hstart : ShortState (.value, []) := ⟨trivial, by simp⟩
      exact short_run (fun t ht => sized_of_mem_tokens ht) hstart hread
  · cases h
  · cases h

end

mutual
/-- Portable values have no integer that is too long. -/
theorem isShort_of_portable {limit : Option Nat} : (v : Value) → Portable limit v → v.isShort = true
  | .null, _ => rfl
  | .bool _, _ => rfl
  | .int _, h => by simp [Value.isShort, h.1]
  | .text _, _ => rfl
  | .list vs, h => allShort_of_portable vs h
  | .map es, h => entriesShort_of_portable es h.2

theorem allShort_of_portable {limit : Option Nat} :
    (vs : List Value) → PortableAll limit vs → Value.allShort vs = true
  | [], _ => rfl
  | v :: vs, h => by
    rw [Value.allShort, isShort_of_portable v h.1, allShort_of_portable vs h.2]
    rfl

theorem entriesShort_of_portable {limit : Option Nat} :
    (es : List (String × Value)) → PortableEntries limit es → Value.entriesShort es = true
  | [], _ => rfl
  | (_, v) :: es, h => by
    rw [Value.entriesShort, isShort_of_portable v h.1, entriesShort_of_portable es h.2]
    rfl
end

end Harvest.Json
