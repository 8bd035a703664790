import Harvest.Proofs.Json.Lexeme

/-!
# JSON text on one line

Text that is written without an indent holds no control character, whatever the strings and keys of
the value hold (`calm_write`); so it holds no line break.
-/

namespace Harvest.Json

/-- Text without control characters. -/
def Calm (cs : List Char) : Prop :=
  ∀ c ∈ cs, 0x20 ≤ c.toNat

variable {cs ds : List Char}

instance : Decidable (Calm cs) :=
  List.decidableBAll (fun c : Char => 0x20 ≤ c.toNat) cs

theorem calm_nil : Calm [] := by
  intro c hc
  cases hc

theorem calm_cons {c : Char} (hc : 0x20 ≤ c.toNat) (h : Calm cs) : Calm (c :: cs) :=
  List.forall_mem_cons.2 ⟨hc, h⟩

theorem Calm.append (hc : Calm cs) (hd : Calm ds) : Calm (cs ++ ds) :=
  List.forall_mem_append.2 ⟨hc, hd⟩

theorem calm_replicate {c : Char} (hc : 0x20 ≤ c.toNat) (n : Nat) : Calm (List.replicate n c) :=
  fun _ hd => (List.eq_of_mem_replicate hd).symm ▸ hc

theorem calm_toDigits (n : Nat) : Calm (Nat.toDigits 10 n) := by
  intro c hc
  have hdigit : c.isDigit = true := Nat.isDigit_of_mem_toDigits (by omega) (by omega) hc
  have : 48 ≤ c.toNat ∧ c.toNat ≤ 57 := by
    simpa [Char.isDigit, UInt32.le_iff_toNat_le] using hdigit
  omega

/-- No line break and no other control character stands in calm text. -/
theorem Calm.not_mem (h : Calm cs) {c : Char} (hc : c.toNat < 0x20) : c ∉ cs :=
  fun hmem => absurd hc (Nat.not_lt_of_le (h c hmem))

/-! ### Scalars -/

theorem calm_hexText {n : Nat} (hn : n < 32) : Calm (Text.hexText 4 n).toList := by
  rw [Text.hexText, String.toList_ofList]
  interval_cases n <;> decide

theorem calm_escape (c : Char) : Calm (escape c).toList := by
  unfold escape
  iterate 7
    split
    · simp [Calm]
  split
  next hn =>
    rw [String.toList_append]
    exact Calm.append (by simp [Calm]) (calm_hexText hn)
  next hn =>
    rw [Char.toString_eq_singleton, String.toList_singleton]
    exact calm_cons (by omega) calm_nil

theorem calm_string (s : String) : Calm (string s).toList := by
  have hbody : Calm (String.join (s.toList.map escape)).toList := by
    rw [String.toList_join, List.flatMap_map]
    intro c hc
    obtain ⟨d, -, hd⟩ := List.mem_flatMap.1 hc
    exact calm_escape d c hd
  simp only [string, String.toList_append]
  exact Calm.append (Calm.append (by simp [Calm]) hbody) (by simp [Calm])

theorem calm_intText (n : Int) : Calm (Text.intText n).toList := by
  unfold Text.intText Text.natText
  split
  · simp only [String.toList_append, String.toList_ofList]
    exact Calm.append (by simp [Calm]) (calm_toDigits _)
  · rw [String.toList_ofList]
    exact calm_toDigits _

theorem calm_integer {n : Int} {s : String} (h : integer n = .ok s) : Calm s.toList := by
  unfold integer at h
  split at h
  · cases h
  · cases h
    exact calm_intText n

theorem calm_positional (hd : Calm ds) (point : Int) : Calm (Decimal.positional ds point) := by
  unfold Decimal.positional
  split
  · exact calm_cons (by decide) (calm_cons (by decide) ((calm_replicate (by decide) _).append hd))
  · have htake : Calm (ds.take point.toNat) := fun c hc => hd c (List.mem_of_mem_take hc)
    have hfraction :
        Calm (if (ds.drop point.toNat).isEmpty then ['0'] else ds.drop point.toNat) := by
      split
      · exact calm_cons (by decide) calm_nil
      · exact fun c hc => hd c (List.mem_of_mem_drop hc)
    exact (htake.append (calm_replicate (by decide) _)).append (calm_cons (by decide) hfraction)

theorem calm_scientific (hd : Calm ds) (layout : Decimal.Layout) (exponent : Int) :
    Calm (Decimal.scientific layout ds exponent) := by
  have htake : Calm (ds.take 1) := fun c hc => hd c (List.mem_of_mem_take hc)
  have hfraction : Calm (if ds.length ≤ 1 then [] else '.' :: ds.drop 1) := by
    split
    · exact calm_nil
    · exact calm_cons (by decide) fun c hc => hd c (List.mem_of_mem_drop hc)
  have hsign : Calm [if exponent < 0 then '-' else '+'] := by
    split <;> exact calm_cons (by decide) calm_nil
  unfold Decimal.scientific
  exact ((((htake.append hfraction).append (calm_cons (by decide) calm_nil)).append hsign).append
    (calm_replicate (by decide) _)).append (calm_toDigits _)

theorem calm_float (x : Float) : Calm (floats.float x).toList := by
  unfold Decimal.Layout.float
  extract_lets sign
  have hsign : Calm sign.toList := by
    unfold sign
    split <;> simp [Calm]
  split
  · simp [Calm, floats]
  split
  · rw [String.toList_append]
    exact hsign.append (by simp [Calm, floats])
  split
  · rw [String.toList_append]
    exact hsign.append (by simp [Calm])
  · simp only [String.toList_append, Decimal.Layout.number, String.toList_ofList]
    refine hsign.append ?_
    split
    · exact calm_positional (calm_toDigits _) _
    · exact calm_scientific (calm_toDigits _) _ _

/-! ### Lists and maps -/

theorem after_eq_ok {front s : String} {x : Output} (h : x.after front = .ok s) :
    ∃ t, x = .ok t ∧ s = front ++ t := by
  cases x with
  | error r => cases h
  | ok t =>
    cases h
    exact ⟨t, rfl, rfl⟩

theorem append_eq_ok {x y : Output} {s : String} (h : x.append y = .ok s) :
    ∃ t u, x = .ok t ∧ y = .ok u ∧ s = t ++ u := by
  cases x with
  | error r => cases h
  | ok t =>
    obtain ⟨u, hu, rfl⟩ := after_eq_ok h
    exact ⟨t, u, rfl, hu, rfl⟩

/-- An element, or an entry behind its key, and what follows it. -/
theorem calm_of_append {x y : Output} {front s : String}
    (h : Output.after front (x.append y) = .ok s) (hfront : Calm front.toList)
    (hx : ∀ t, x = .ok t → Calm t.toList) (hy : ∀ u, y = .ok u → Calm u.toList) :
    Calm s.toList := by
  obtain ⟨r, hr, rfl⟩ := after_eq_ok h
  obtain ⟨t, u, ht, hu, rfl⟩ := append_eq_ok hr
  simp only [String.toList_append]
  exact hfront.append ((hx t ht).append (hy u hu))

theorem calm_lead {front : String} (hfront : Calm front.toList) (v : Value) :
    Calm (lead front v).toList := by
  unfold lead
  split
  · split
    · exact calm_nil
    · exact hfront
  · exact hfront

theorem calm_key (front : String) (hfront : Calm front.toList) (k : String) :
    Calm (front ++ string k ++ ": ").toList := by
  simp only [String.toList_append]
  exact (hfront.append (calm_string k)).append (by simp [Calm])

mutual
theorem calm_writeAt (level : Nat) : (v : Value) → ∀ s, writeAt ⟨none⟩ level v = .ok s →
    Calm s.toList
  | .null, s, h => by
    cases h
    simp [Calm]
  | .bool b, s, h => by
    cases h
    cases b <;> simp [Calm]
  | .int n, s, h => calm_integer h
  | .float x, s, h => by
    cases h
    exact calm_float x
  | .text t, s, h => by
    cases h
    exact calm_string t
  | .list [], s, h => by
    cases h
    simp [Calm]
  | .tuple [], s, h => by
    cases h
    simp [Calm]
  | .map [], s, h => by
    cases h
    simp [Calm]
  | .list (v :: vs), s, h => by
    rw [writeAt] at h
    exact calm_of_append h (calm_lead (by simp [Calm, Layout.first]) v) (calm_writeAt (level + 1) v)
      (calm_writeElements level vs)
  | .tuple (v :: vs), s, h => by
    rw [writeAt] at h
    exact calm_of_append h (calm_lead (by simp [Calm, Layout.first]) v) (calm_writeAt (level + 1) v)
      (calm_writeElements level vs)
  | .map ((k, v) :: es), s, h => by
    rw [writeAt] at h
    exact calm_of_append h (calm_key _ (by simp [Calm, Layout.first]) k)
      (calm_writeAt (level + 1) v) (calm_writeEntries level es)
  | .bytes _, s, h => by cases h
  | .buffer _, s, h => by cases h
  | .rule .., s, h => by cases h

theorem calm_writeElements (level : Nat) : (vs : List Value) → ∀ s,
    writeElements ⟨none⟩ level vs = .ok s → Calm s.toList
  | [], s, h => by
    cases h
    simp [Calm, Layout.first]
  | v :: vs, s, h => by
    rw [writeElements] at h
    exact calm_of_append h (calm_lead (by simp [Calm, Layout.between]) v) (calm_writeAt (level + 1) v)
      (calm_writeElements level vs)

theorem calm_writeEntries (level : Nat) : (es : List (String × Value)) → ∀ s,
    writeEntries ⟨none⟩ level es = .ok s → Calm s.toList
  | [], s, h => by
    cases h
    simp [Calm, Layout.first]
  | (k, v) :: es, s, h => by
    rw [writeEntries] at h
    exact calm_of_append h (calm_key _ (by simp [Calm, Layout.between]) k)
      (calm_writeAt (level + 1) v) (calm_writeEntries level es)
end

/-- **Text without an indent holds no control character.** -/
theorem calm_write {v : Value} {s : String} (h : write ⟨none⟩ v = .ok s) : Calm s.toList :=
  calm_writeAt 0 v s h

end Harvest.Json
