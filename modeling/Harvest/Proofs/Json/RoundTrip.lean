import Harvest.Json.Read
import Harvest.Proofs.Json.Breaks
import Harvest.Proofs.Value.Update

/-!
# Reading what was written

Values that JSON text holds exactly are `Portable`.  Such a value has a list of tokens
(`valueTokens`); the text that is written for it, in any layout whose indent is white space, is read
as these tokens (`exists_writeAt`), and these tokens lead the reader to the value
(`leads_value`).  Together: what is written is read back (`read_write`), also when the text is
respaced on the way to the reader (`read_respaced`).
-/

namespace Harvest.Json

variable {l : Layout} {limit : Option Nat} {f : List Char → List Char}

/-! ### Portable values -/

mutual
/-- Values that JSON text holds exactly: null, booleans, integers with no more digits than can be
written and than a limit allows, texts, and lists and maps of such values, where no key of a map
occurs twice. -/
def Portable (limit : Option Nat) : Value → Prop
  | .null => True
  | .bool _ => True
  | .int n => Text.Numeral.isLong n = false ∧ limit.all (Text.Numeral.digitCount n ≤ ·) = true
  | .text _ => True
  | .list vs => PortableAll limit vs
  | .map es => (Entries.keys es).Nodup ∧ PortableEntries limit es
  | _ => False

/-- Lists of portable values. -/
def PortableAll (limit : Option Nat) : List Value → Prop
  | [] => True
  | v :: vs => Portable limit v ∧ PortableAll limit vs

/-- Entries with portable values. -/
def PortableEntries (limit : Option Nat) : List (String × Value) → Prop
  | [] => True
  | (_, v) :: es => Portable limit v ∧ PortableEntries limit es
end

theorem portableAll_iff {vs : List Value} :
    PortableAll limit vs ↔ ∀ v ∈ vs, Portable limit v := by
  induction vs with
  | nil => simp [PortableAll]
  | cons v vs ih => simp [PortableAll, ih]

/-- Before an element that can be written stands all that is to stand there. -/
theorem lead_of_portable {v : Value} (h : Portable limit v) (front : String) :
    lead front v = front := by
  cases v with
  | int n => rw [lead, h.1, if_neg Bool.false_ne_true]
  | _ => rfl

/-! ### The tokens of a value -/

mutual
/-- The tokens of a value. -/
def valueTokens : Value → List Token
  | .null => [.name .null]
  | .bool b => [.name (.bool b)]
  | .int n => [.int n (Text.Numeral.digitCount n)]
  | .text s => [.string s]
  | .list [] => [.listOpen, .listClose]
  | .list (v :: vs) => .listOpen :: (valueTokens v ++ elementTokens vs)
  | .map [] => [.mapOpen, .mapClose]
  | .map ((k, v) :: es) => .mapOpen :: .string k :: .colon :: (valueTokens v ++ entryTokens es)
  | _ => []

/-- The tokens of a list behind its first element. -/
def elementTokens : List Value → List Token
  | [] => [.listClose]
  | v :: vs => .comma :: (valueTokens v ++ elementTokens vs)

/-- The tokens of a map behind its first entry. -/
def entryTokens : List (String × Value) → List Token
  | [] => [.mapClose]
  | (k, v) :: es => .comma :: .string k :: .colon :: (valueTokens v ++ entryTokens es)
end

/-! ### Text and tokens -/

/-- The indent is white space. -/
def Layout.Blank (l : Layout) : Prop :=
  ∀ indent, l.indent = some indent → ∀ c ∈ indent.toList, isSpace c = true

theorem blank_none : Layout.Blank ⟨none⟩ := by
  intro indent h
  cases h

theorem Layout.Blank.first (hl : l.Blank) (level : Nat) :
    ∀ c ∈ (l.first level).toList, isSpace c = true := by
  intro c hc
  unfold Layout.first at hc
  split at hc
  · simp at hc
  next indent hindent =>
    simp only [String.toList_append, String.toList_join, List.mem_append, List.mem_flatMap,
      List.mem_replicate] at hc
    rcases hc with hc | ⟨s, ⟨-, rfl⟩, hc⟩
    · simp only [String.reduceToList, List.mem_singleton] at hc
      subst hc
      rfl
    · exact hl _ hindent c hc

theorem Layout.Blank.between (hl : l.Blank) (level : Nat) :
    ∃ cs, (l.between level).toList = ',' :: cs ∧ ∀ c ∈ cs, isSpace c = true := by
  unfold Layout.between
  split
  · exact ⟨[' '], by simp, by simp [isSpace]⟩
  · exact ⟨(l.first level).toList, by simp, hl.first level⟩

theorem Layout.Blank.lexes_first (hl : l.Blank) (hf : Respaces f) (level : Nat) :
    LexesThrough f (l.first level).toList [] :=
  lexesThrough_spaces hf (hl.first level)

theorem Layout.Blank.lexes_between (hl : l.Blank) (hf : Respaces f) (level : Nat) :
    LexesThrough f (l.between level).toList [.comma] := by
  obtain ⟨cs, hcs, hspace⟩ := hl.between level
  rw [hcs]
  exact (lexes_comma.through hf (by decide)).append (lexesThrough_spaces hf hspace)

theorem Layout.Blank.ends_between (hl : l.Blank) (level : Nat) (rest : List Char) :
    Ends ((l.between level).toList ++ rest) := by
  obtain ⟨cs, hcs, -⟩ := hl.between level
  rw [hcs]
  exact ends_cons rfl (cs ++ rest)

theorem lexesThrough_string (hf : Respaces f) (s : String) :
    LexesThrough f (string s).toList [.string s] :=
  (lexes_string s).through hf ((calm_string s).not_mem (by decide))

theorem lexesThrough_colon (hf : Respaces f) : LexesThrough f ": ".toList [.colon] :=
  lexes_colon.through hf (by decide)

mutual
/-- A portable value is written, and its text is read as its tokens, also when it is respaced. -/
theorem exists_writeAt (hf : Respaces f) (hl : l.Blank) (level : Nat) : (v : Value) →
    Portable limit v → ∃ s, writeAt l level v = .ok s ∧ SpellsThrough f s.toList (valueTokens v)
  | .null, _ => ⟨_, by rw [writeAt], (lexes_null.through hf (by decide)).spells⟩
  | .bool b, _ =>
    ⟨_, by rw [writeAt], ((lexes_bool b).through hf (by cases b <;> decide)).spells⟩
  | .int n, h =>
    ⟨_, by rw [writeAt, integer, h.1, if_neg Bool.false_ne_true],
      (spells_int n).through hf ((calm_intText n).not_mem (by decide))⟩
  | .text s, _ => ⟨_, by rw [writeAt], (lexesThrough_string hf s).spells⟩
  | .list [], _ =>
    ⟨"[]", by rw [writeAt], LexesThrough.spells (LexesThrough.append
      (lexes_listOpen.through hf (by decide)) (lexes_listClose.through hf (by decide)))⟩
  | .map [], _ =>
    ⟨"\x7b\x7d", by rw [writeAt], LexesThrough.spells (LexesThrough.append
      (lexes_mapOpen.through hf (by decide)) (lexes_mapClose.through hf (by decide)))⟩
  | .list (v :: vs), h => by
    obtain ⟨s, hs, hspells⟩ := exists_writeAt hf hl (level + 1) v h.1
    obtain ⟨t, ht, hrest, hends⟩ := exists_writeElements hf hl level vs h.2
    refine ⟨"[" ++ l.first (level + 1) ++ (s ++ t),
      by rw [writeAt, lead_of_portable h.1, hs, ht]; rfl, ?_⟩
    have hopen := LexesThrough.append (lexes_listOpen.through hf (by decide))
      (hl.lexes_first hf (level + 1))
    simp only [String.toList_append]
    exact LexesThrough.append hopen (SpellsThrough.append hspells hrest hends)
  | .map ((k, v) :: es), h => by
    obtain ⟨s, hs, hspells⟩ := exists_writeAt hf hl (level + 1) v h.2.1
    obtain ⟨t, ht, hrest, hends⟩ := exists_writeEntries hf hl level es h.2.2
    refine ⟨"\x7b" ++ l.first (level + 1) ++ string k ++ ": " ++ (s ++ t),
      by rw [writeAt, hs, ht]; rfl, ?_⟩
    have hopen := LexesThrough.append (lexes_mapOpen.through hf (by decide))
      (hl.lexes_first hf (level + 1))
    have hkey := LexesThrough.append (LexesThrough.append hopen (lexesThrough_string hf k))
      (lexesThrough_colon hf)
    simp only [String.toList_append]
    exact LexesThrough.append hkey (SpellsThrough.append hspells hrest hends)

/-- So is the rest of a list behind its first element. -/
theorem exists_writeElements (hf : Respaces f) (hl : l.Blank) (level : Nat) : (vs : List Value) →
    PortableAll limit vs → ∃ s, writeElements l level vs = .ok s ∧
      SpellsThrough f s.toList (elementTokens vs) ∧ Ends s.toList
  | [], _ => by
    refine ⟨l.first level ++ "]", by rw [writeElements], ?_⟩
    have hclose := LexesThrough.append (hl.lexes_first hf level)
      (lexes_listClose.through hf (by decide))
    rw [String.toList_append]
    exact ⟨LexesThrough.spells hclose, (ends_spaces (hl.first level)).append (ends_cons rfl [])⟩
  | v :: vs, h => by
    obtain ⟨s, hs, hspells⟩ := exists_writeAt hf hl (level + 1) v h.1
    obtain ⟨t, ht, hrest, hends⟩ := exists_writeElements hf hl level vs h.2
    refine ⟨l.between (level + 1) ++ (s ++ t),
      by rw [writeElements, lead_of_portable h.1, hs, ht]; rfl, ?_⟩
    simp only [String.toList_append]
    exact ⟨LexesThrough.append (hl.lexes_between hf (level + 1))
      (SpellsThrough.append hspells hrest hends), hl.ends_between (level + 1) _⟩

/-- So is the rest of a map behind its first entry. -/
theorem exists_writeEntries (hf : Respaces f) (hl : l.Blank) (level : Nat) :
    (es : List (String × Value)) → PortableEntries limit es →
      ∃ s, writeEntries l level es = .ok s ∧ SpellsThrough f s.toList (entryTokens es) ∧
        Ends s.toList
  | [], _ => by
    refine ⟨l.first level ++ "\x7d", by rw [writeEntries], ?_⟩
    have hclose := LexesThrough.append (hl.lexes_first hf level)
      (lexes_mapClose.through hf (by decide))
    rw [String.toList_append]
    exact ⟨LexesThrough.spells hclose, (ends_spaces (hl.first level)).append (ends_cons rfl [])⟩
  | (k, v) :: es, h => by
    obtain ⟨s, hs, hspells⟩ := exists_writeAt hf hl (level + 1) v h.1
    obtain ⟨t, ht, hrest, hends⟩ := exists_writeEntries hf hl level es h.2
    refine ⟨l.between (level + 1) ++ string k ++ ": " ++ (s ++ t),
      by rw [writeEntries, hs, ht]; rfl, ?_⟩
    have hkey := LexesThrough.append (LexesThrough.append (hl.lexes_between hf (level + 1))
      (lexesThrough_string hf k)) (lexesThrough_colon hf)
    simp only [String.toList_append]
    refine ⟨LexesThrough.append hkey (SpellsThrough.append hspells hrest hends), ?_⟩
    simp only [List.append_assoc]
    exact hl.ends_between (level + 1) _
end

/-! ### Tokens and the reader -/

/-- The tokens lead the machine from one place to another, whatever follows them. -/
def Leads (limit : Option Nat) (p : Phase) (frames : List Frame) (ts : List Token)
    (after : Phase × List Frame) : Prop :=
  ∀ ls us, ls.map Located.token = ts → run limit p frames (ls ++ us) = run limit after.1 after.2 us

theorem leads_cons {p : Phase} {frames : List Frame} {t : Token} {ts : List Token}
    {mid after : Phase × List Frame} (h : ∀ left, step limit p frames ⟨t, left⟩ = .ok mid)
    (hmid : Leads limit mid.1 mid.2 ts after) : Leads limit p frames (t :: ts) after := by
  intro ls us hls
  obtain ⟨located, rest, rfl, rfl, rfl⟩ := List.map_eq_cons_iff.1 hls
  rw [List.cons_append, run, h]
  exact hmid rest us rfl

theorem leads_single {p : Phase} {frames : List Frame} {t : Token} {after : Phase × List Frame}
    (h : ∀ left, step limit p frames ⟨t, left⟩ = .ok after) : Leads limit p frames [t] after := by
  refine leads_cons h fun ls us hls => ?_
  rw [List.map_eq_nil_iff.1 hls, List.nil_append]

theorem Leads.append {p : Phase} {frames : List Frame} {ts us : List Token}
    {mid after : Phase × List Frame} (h : Leads limit p frames ts mid)
    (hmid : Leads limit mid.1 mid.2 us after) : Leads limit p frames (ts ++ us) after := by
  intro ls vs hls
  obtain ⟨ls, ms, rfl, hl, hm⟩ := List.map_eq_append_iff.1 hls
  rw [List.append_assoc, h ls (ms ++ vs) hl, hmid ms vs hm]

mutual
/-- The tokens of a portable value, where a value may stand, lead past the value. -/
theorem leads_value : (v : Value) → Portable limit v → ∀ p, p = .value ∨ p = .element →
    ∀ frames, Leads limit p frames (valueTokens v) (complete v frames)
  | .null, _, p, hp, frames => by
    rcases hp with rfl | rfl <;> exact leads_single fun _ => rfl
  | .bool b, _, p, hp, frames => by
    rcases hp with rfl | rfl <;> exact leads_single fun _ => rfl
  | .text s, _, p, hp, frames => by
    rcases hp with rfl | rfl <;> exact leads_single fun _ => rfl
  | .int n, h, p, hp, frames => by
    rcases hp with rfl | rfl <;> exact leads_single fun _ => if_pos h.2
  | .list [], _, p, hp, frames => by
    have hclose : Leads limit .element (.list [] :: frames) [.listClose]
        (complete (.list []) frames) := leads_single fun _ => rfl
    rcases hp with rfl | rfl <;> exact leads_cons (fun _ => rfl) hclose
  | .map [], _, p, hp, frames => by
    have hclose : Leads limit .firstKey (.map [] "" :: frames) [.mapClose]
        (complete (.map []) frames) := leads_single fun _ => rfl
    rcases hp with rfl | rfl <;> exact leads_cons (fun _ => rfl) hclose
  | .list (v :: vs), h, p, hp, frames => by
    have hv := leads_value v h.1 .element (.inr rfl) (.list [] :: frames)
    have hvs := leads_elements vs h.2 [v] frames
    rcases hp with rfl | rfl <;> exact leads_cons (fun _ => rfl) (hv.append hvs)
  | .map ((k, v) :: es), h, p, hp, frames => by
    have hv := leads_value v h.2.1 .value (.inl rfl) (.map [] k :: frames)
    have hes := leads_entries es h.2.2 [(k, v)] k frames h.1
    have hkey : Leads limit .firstKey (.map [] "" :: frames)
        (.string k :: .colon :: (valueTokens v ++ entryTokens es))
        (complete (.map ((k, v) :: es)) frames) :=
      leads_cons (fun _ => rfl) (leads_cons (fun _ => rfl) (hv.append hes))
    rcases hp with rfl | rfl <;> exact leads_cons (fun _ => rfl) hkey

/-- The tokens of the rest of a list lead past the list. -/
theorem leads_elements : (vs : List Value) → PortableAll limit vs →
    ∀ before frames, Leads limit .listNext (.list before :: frames) (elementTokens vs)
      (complete (.list (before.reverse ++ vs)) frames)
  | [], _, before, frames => by
    rw [List.append_nil]
    exact leads_single fun _ => rfl
  | v :: vs, h, before, frames => by
    have hv := leads_value v h.1 .value (.inl rfl) (.list before :: frames)
    have hvs := leads_elements vs h.2 (v :: before) frames
    rw [List.reverse_cons, List.append_assoc, List.singleton_append] at hvs
    exact leads_cons (fun _ => rfl) (hv.append hvs)

/-- The tokens of the rest of a map, in which no key occurs again, lead past the map. -/
theorem leads_entries : (es : List (String × Value)) → PortableEntries limit es →
    ∀ before key frames, (Entries.keys (before ++ es)).Nodup →
      Leads limit .mapNext (.map before key :: frames) (entryTokens es)
        (complete (.map (before ++ es)) frames)
  | [], _, before, key, frames, _ => by
    rw [List.append_nil]
    exact leads_single fun _ => rfl
  | (k, v) :: es, h, before, key, frames, hnodup => by
    have hput : Entries.put k v before = before ++ [(k, v)] := by
      refine Entries.put_of_not_mem (fun hk => ?_) v
      rw [Entries.keys_append] at hnodup
      exact (List.nodup_append.1 hnodup).2.2 k hk k (List.mem_cons_self) rfl
    have hv := leads_value v h.1 .value (.inl rfl) (.map before k :: frames)
    rw [complete, hput] at hv
    have hes := leads_entries es h.2 (before ++ [(k, v)]) k frames
      (by rwa [List.append_assoc])
    rw [List.append_assoc, List.singleton_append] at hes
    exact leads_cons (fun _ => rfl) (leads_cons (fun _ => rfl) (leads_cons (fun _ => rfl)
      (hv.append hes)))
end

/-! ### Whole texts -/

theorem token_byteOrderMark (cs : List Char) : token '\uFEFF' cs = (.other, cs) := rfl

theorem head?_valueTokens_ne (v : Value) : (valueTokens v).head? ≠ some .other := by
  cases v with
  | list vs => cases vs <;> simp [valueTokens]
  | map es => cases es <;> simp [valueTokens]
  | _ => simp [valueTokens]

/-- The text of a value does not start with a byte order mark, which is no token. -/
theorem head?_ne_byteOrderMark {cs : List Char} {v : Value}
    (h : (tokens cs).map Located.token = valueTokens v) : cs.head? ≠ some '\uFEFF' := by
  intro hhead
  obtain ⟨ds, rfl⟩ := List.head?_eq_some_iff.1 hhead
  rw [tokens_cons rfl (token_byteOrderMark ds) (Nat.le_refl _)] at h
  refine head?_valueTokens_ne v ?_
  rw [← h]
  rfl

/-- **What is written is read back.**  A portable value is written, in any layout whose indent is
white space, and reading the text yields the value, also when the text is respaced before. -/
theorem readChars_write (hf : Respaces f) (hl : l.Blank) {v : Value} (hv : Portable limit v) :
    ∃ s, write l v = .ok s ∧ readChars limit (f s.toList) = .ok v := by
  obtain ⟨s, hs, hspells⟩ := exists_writeAt hf hl 0 v hv
  refine ⟨s, hs, ?_⟩
  have htokens := hspells.tokens_eq hf
  have hrun := leads_value v hv .value (.inl rfl) [] (tokens (f s.toList)) [] htokens
  rw [List.append_nil] at hrun
  rw [readChars, if_neg (head?_ne_byteOrderMark htokens), hrun]
  rfl

theorem read_respaced (hf : Respaces f) (hl : l.Blank) {v : Value}
    (hv : Portable (some Text.Numeral.maxDigits) v) :
    ∃ s, write l v = .ok s ∧ read (String.ofList (f s.toList)) = .ok v := by
  obtain ⟨s, hs, hread⟩ := readChars_write hf hl hv
  refine ⟨s, hs, ?_⟩
  simp only [read, String.toList_ofList, hread]

theorem read_write (hl : l.Blank) {v : Value} (hv : Portable (some Text.Numeral.maxDigits) v) :
    ∃ s, write l v = .ok s ∧ read s = .ok v := by
  obtain ⟨s, hs, hread⟩ := read_respaced respaces_id hl hv
  rw [id_eq, String.ofList_toList] at hread
  exact ⟨s, hs, hread⟩

end Harvest.Json
