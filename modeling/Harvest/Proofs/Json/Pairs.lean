import Harvest.Json.Token

/-!
# What the strings of a paired text spell

`IsString` says which characters a string spells: a character stands for itself, behind a backslash
for another, or it is spelled by the number of a code unit or by both halves of a surrogate pair.
It has no rule for half of a pair, for which there is no character.

Main statement: what is read of a string in a paired text is what the string spells
(`isString_of_stringBody`), so no replacement character stands for something else there.
-/

namespace Harvest.Json

/-- The text of a string behind its opening quote, the characters that it spells and what follows
its closing quote. -/
inductive IsString : List Char → List Char → List Char → Prop
  /-- The string ends. -/
  | close (rest : List Char) : IsString ('"' :: rest) [] rest
  /-- A character that stands for itself. -/
  | plain {c : Char} {cs s rest : List Char} (quote : c ≠ '"') (backslash : c ≠ '\\')
      (tail : IsString cs s rest) : IsString (c :: cs) (c :: s) rest
  /-- A character behind a backslash. -/
  | escape {c e : Char} {cs s rest : List Char} (escaped : escaped? c = some e)
      (tail : IsString cs s rest) : IsString ('\\' :: c :: cs) (e :: s) rest
  /-- The number of a character. -/
  | unit {a b c d : Char} {n : Nat} {cs s rest : List Char} (number : hex4? a b c d = some n)
      (whole : ¬ (0xD800 ≤ n ∧ n ≤ 0xDFFF)) (tail : IsString cs s rest) :
      IsString ('\\' :: 'u' :: a :: b :: c :: d :: cs) (Char.ofNat n :: s) rest
  /-- Both halves of a surrogate pair. -/
  | pair {a b c d a' b' c' d' : Char} {high low : Nat} {cs s rest : List Char}
      (first : hex4? a b c d = some high) (isHigh : 0xD800 ≤ high ∧ high ≤ 0xDBFF)
      (second : hex4? a' b' c' d' = some low) (isLow : 0xDC00 ≤ low ∧ low ≤ 0xDFFF)
      (tail : IsString cs s rest) :
      IsString ('\\' :: 'u' :: a :: b :: c :: d :: '\\' :: 'u' :: a' :: b' :: c' :: d' :: cs)
        (Char.ofNat (0x10000 + (high - 0xD800) * 0x400 + (low - 0xDC00)) :: s) rest

/-! ### Texts that pair up -/

theorem pairsUp_unit {half : Bool} {a b c d : Char} {n : Nat} (h : hex4? a b c d = some n)
    (cs : List Char) :
    pairsUp half ('\\' :: 'u' :: a :: b :: c :: d :: cs) =
      if 0xDC00 ≤ n ∧ n ≤ 0xDFFF then half && pairsUp false cs
      else !half && pairsUp (0xD800 ≤ n && n ≤ 0xDBFF) cs := by
  simp only [pairsUp, h]

theorem pairsUp_escape {c : Char} (h : c ≠ 'u') (cs : List Char) :
    pairsUp false ('\\' :: c :: cs) = pairsUp false cs := by
  simp [pairsUp, h]

theorem pairsUp_plain {c : Char} (h : c ≠ '\\') (cs : List Char) :
    pairsUp false (c :: cs) = pairsUp false cs := by
  simp [pairsUp, h]

/-- The second half of a pair comes right behind the first. -/
theorem exists_low_of_pairsUp {cs : List Char} (h : pairsUp true cs = true) :
    ∃ a b c d n rest, cs = '\\' :: 'u' :: a :: b :: c :: d :: rest ∧ hex4? a b c d = some n ∧
      (0xDC00 ≤ n ∧ n ≤ 0xDFFF) ∧ pairsUp false rest = true := by
  unfold pairsUp at h
  split at h
  next a b c d rest =>
    split at h
    · cases h
    next n hn =>
      split at h
      next hlow => exact ⟨a, b, c, d, n, rest, rfl, hn, hlow, h⟩
      next => cases h
  · cases h
  · cases h
  · cases h

theorem unitChar_of_whole {n : Nat} (h : ¬ (0xD800 ≤ n ∧ n ≤ 0xDFFF)) :
    unitChar n = Char.ofNat n :=
  if_neg h

theorem map_eq_ok {α β ε : Type} {x : Except ε α} {f : α → β} {b : β}
    (h : x.map f = .ok b) : ∃ a, x = .ok a ∧ f a = b := by
  cases x with
  | error e => cases h
  | ok a => exact ⟨a, rfl, Except.ok.inj h⟩

/-- The number of a code unit is that of a character, or the unit is the first half of a pair. -/
theorem whole_or_high_of_pairsUp {a b c d : Char} {n : Nat} (hn : hex4? a b c d = some n)
    {cs : List Char} (h : pairsUp false ('\\' :: 'u' :: a :: b :: c :: d :: cs) = true) :
    ¬ (0xD800 ≤ n ∧ n ≤ 0xDFFF) ∧ pairsUp false cs = true ∨
      (0xD800 ≤ n ∧ n ≤ 0xDBFF) ∧ pairsUp true cs = true := by
  rw [pairsUp_unit hn] at h
  split at h
  · cases h
  next hlow =>
    by_cases hhigh : 0xD800 ≤ n ∧ n ≤ 0xDBFF
    · exact .inr ⟨hhigh, by simpa [hhigh] using h⟩
    · refine .inl ⟨by omega, ?_⟩
      have hno : (decide (0xD800 ≤ n) && decide (n ≤ 0xDBFF)) = false := by
        rw [← Bool.not_eq_true, Bool.and_eq_true, decide_eq_true_eq, decide_eq_true_eq]
        exact hhigh
      rwa [hno] at h

/-- What follows a string pairs up as well, so the next string can be looked at in the same way. -/
theorem IsString.pairsUp_rest {cs s rest : List Char} (h : IsString cs s rest)
    (hp : pairsUp false cs = true) : pairsUp false rest = true := by
  induction h with
  | close rest => rwa [pairsUp_plain (by decide)] at hp
  | plain _ backslash _ ih =>
    rw [pairsUp_plain backslash] at hp
    exact ih hp
  | @escape c _ _ _ _ escaped _ ih =>
    have hu : c ≠ 'u' := by
      rintro rfl
      cases escaped
    rw [pairsUp_escape hu] at hp
    exact ih hp
  | unit number whole _ ih =>
    obtain ⟨-, htail⟩ | ⟨hhigh, -⟩ := whole_or_high_of_pairsUp number hp
    · exact ih htail
    · omega
  | pair first isHigh second isLow _ ih =>
    obtain ⟨hwhole, -⟩ | ⟨-, hpair⟩ := whole_or_high_of_pairsUp first hp
    · omega
    · rw [pairsUp_unit second, if_pos isLow] at hpair
      exact ih hpair

/-- **The strings of a paired text are read as they are spelled.** -/
theorem isString_of_stringBody {cs s rest : List Char} (h : stringBody cs = .ok (s, rest))
    (hp : pairsUp false cs = true) : IsString cs s rest := by
  fun_induction stringBody cs generalizing s rest with
  | case1 => cases h
  | case2 cs =>
    cases h
    exact .close _
  | case3 => cases h
  | case4 => cases h
  | case5 a b c d high hhigh a' b' c' d' e cs his low hlow his' char =>
    -- both halves of a pair
    rename_i ih
    obtain ⟨⟨s', rest'⟩, hbody, hs⟩ := map_eq_ok h
    cases hs
    obtain ⟨hwhole, -⟩ | ⟨-, hpair⟩ := whole_or_high_of_pairsUp hhigh hp
    · omega
    · rw [pairsUp_unit hlow, if_pos his'] at hpair
      exact .pair hhigh his hlow his' (ih hbody hpair)
  | case6 a b c d high hhigh a' b' c' d' e cs his low hlow hnot ih =>
    -- a first half before a number that is no second half, which no paired text has
    obtain ⟨hwhole, -⟩ | ⟨-, hpair⟩ := whole_or_high_of_pairsUp hhigh hp
    · omega
    · rw [pairsUp_unit hlow, if_neg hnot] at hpair
      cases hpair
  | case7 a b c d n hn a' b' c' d' e cs hnot ih =>
    -- a number before another escape: if it were half of a pair, then of one read above
    obtain ⟨⟨s', rest'⟩, hbody, hs⟩ := map_eq_ok h
    cases hs
    obtain ⟨hwhole, htail⟩ | ⟨hhigh, -⟩ := whole_or_high_of_pairsUp hn hp
    · rw [unitChar_of_whole hwhole]
      exact .unit hn hwhole (ih hbody htail)
    · exact absurd hhigh hnot
  | case8 a b c d n hn e cs hnot ih =>
    obtain ⟨⟨s', rest'⟩, hbody, hs⟩ := map_eq_ok h
    cases hs
    obtain ⟨hwhole, htail⟩ | ⟨hhigh, hpair⟩ := whole_or_high_of_pairsUp hn hp
    · rw [unitChar_of_whole hwhole]
      exact .unit hn hwhole (ih hbody htail)
    · -- the second half stands at the end of the text, where the string has no end
      obtain ⟨a', b', c', d', low, rest, hcs, -⟩ := exists_low_of_pairsUp hpair
      cases hcs
      cases rest with
      | nil => simp [stringBody] at hbody
      | cons e' rest => exact (hnot a' b' c' d' e' rest rfl rfl).elim
  | case9 => cases h
  | case10 => cases h
  | case11 => cases h
  | case12 c cs hu hu' e he ih =>
    obtain ⟨⟨s', rest'⟩, hbody, hs⟩ := map_eq_ok h
    cases hs
    rw [pairsUp_escape hu'] at hp
    exact .escape he (ih hbody hp)
  | case13 => cases h
  | case14 c cs hquote hu hu' hend hback hcontrol ih =>
    obtain ⟨⟨s', rest'⟩, hbody, hs⟩ := map_eq_ok h
    cases hs
    have hplain : c ≠ '\\' := by
      rintro rfl
      cases cs with
      | nil => exact hend rfl rfl
      | cons e cs => exact hback e cs rfl rfl
    rw [pairsUp_plain hplain] at hp
    exact .plain hquote hplain (ih hbody hp)

end Harvest.Json
