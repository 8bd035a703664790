import Harvest.Json.Token
import Harvest.Json.Write
import Harvest.Proofs.Text.Digit
import Mathlib.Data.List.Basic
import Mathlib.Tactic.IntervalCases

/-!
# Written strings and integers as tokens

Text `Lexes` as tokens when it is read as them whatever follows.  A number also ends only where no
more of it follows, so an integer merely `Spells` its token: what follows must not go on with a
number (`Ends`).

Main statements: `stringBody_escapes` (a string between quotes is read as itself), `lexes_string`
and `spells_int`.
-/

namespace Harvest.Json

open Text (digitsValue_toDigits exists_toDigits isDigit_of_mem_toDigits isDigit_of_toDigits)

/-! ### Strings -/

theorem stringBody_escaped {c e : Char} (h : escaped? c = some e) (cs : List Char) :
    stringBody ('\\' :: c :: cs) = (stringBody cs).map fun (s, rest) => (e :: s, rest) := by
  have hu : c ≠ 'u' := by
    rintro rfl
    cases h
  rw [stringBody.eq_def]
  split <;> simp_all
  next hne heq => exact absurd heq.2.symm (hne _ _ heq.1.symm)

theorem stringBody_plain {c : Char} (hq : c ≠ '"') (hb : c ≠ '\\') (hc : 0x20 ≤ c.toNat)
    (cs : List Char) :
    stringBody (c :: cs) = (stringBody cs).map fun (s, rest) => (c :: s, rest) := by
  rw [stringBody.eq_def]
  split <;> simp_all

theorem stringBody_hex {a b c d : Char} {n : Nat} (h : hex4? a b c d = some n) (hn : n < 0xD800)
    (e : Char) (cs : List Char) :
    stringBody ('\\' :: 'u' :: a :: b :: c :: d :: e :: cs) =
      (stringBody (e :: cs)).map fun (s, rest) => (Char.ofNat n :: s, rest) := by
  have hu : unitChar n = Char.ofNat n := by
    rw [unitChar, if_neg (by omega)]
  rw [stringBody.eq_def]
  simp only [h, hu]
  -- half of a surrogate pair would look at what follows
  split
  · simp [show ¬ (55296 ≤ n ∧ n ≤ 56319) by omega]
  · rfl

theorem hex4?_hexText {n : Nat} (hn : n < 32) : ∃ a b c d,
    (Text.hexText 4 n).toList = [a, b, c, d] ∧ hex4? a b c d = some n := by
  rw [Text.hexText, String.toList_ofList]
  interval_cases n <;> exact ⟨_, _, _, _, rfl, rfl⟩

/-- A character as it stands in a string is read as itself. -/
theorem stringBody_escape (c : Char) {cs : List Char} (hcs : cs ≠ []) :
    stringBody ((escape c).toList ++ cs) =
      (stringBody cs).map fun (s, rest) => (c :: s, rest) := by
  unfold escape
  split
  next h => exact h ▸ stringBody_escaped rfl cs
  next hq =>
  split
  next h => exact h ▸ stringBody_escaped rfl cs
  next hb =>
  split
  next h => exact h ▸ stringBody_escaped rfl cs
  split
  next h => exact h ▸ stringBody_escaped rfl cs
  split
  next h => exact h ▸ stringBody_escaped rfl cs
  split
  next h => exact h ▸ stringBody_escaped rfl cs
  split
  next h => exact h ▸ stringBody_escaped rfl cs
  split
  next hn =>
    obtain ⟨x, y, z, w, htext, hhex⟩ := hex4?_hexText hn
    obtain ⟨e, cs, rfl⟩ := List.exists_cons_of_ne_nil hcs
    rw [String.toList_append, htext]
    exact (stringBody_hex hhex (by omega) e cs).trans (by rw [Char.ofNat_toNat])
  next hn =>
    rw [Char.toString_eq_singleton, String.toList_singleton]
    exact stringBody_plain hq hb (by omega) cs

theorem stringBody_escapes (cs rest : List Char) :
    stringBody ((String.join (cs.map escape)).toList ++ '"' :: rest) = .ok (cs, rest) := by
  rw [String.toList_join, List.flatMap_map]
  induction cs with
  | nil => rw [List.flatMap_nil, List.nil_append, stringBody]
  | cons c cs ih =>
    rw [List.flatMap_cons, List.append_assoc, stringBody_escape c (by simp), ih]
    rfl

/-! ### Text that is read as tokens -/

/-- Text that is read as these tokens, where what follows it is as `p` says. -/
def ReadsAs (p : List Char → Prop) (cs : List Char) (ts : List Token) : Prop :=
  ∀ rest, p rest → ∃ ls, tokens (cs ++ rest) = ls ++ tokens rest ∧ ls.map Located.token = ts

/-- Text that is read as these tokens, whatever follows it. -/
abbrev Lexes (cs : List Char) (ts : List Token) : Prop :=
  ReadsAs (fun _ => True) cs ts

/-- Whether a character may go on with a number. -/
def isNumeric (c : Char) : Bool :=
  c.isDigit || c == '.' || c == 'e' || c == 'E'

/-- Text that does not go on with a number. -/
def Ends (cs : List Char) : Prop :=
  ∀ c ∈ cs.head?, isNumeric c = false

/-- Text that is read as these tokens, where no more of a number follows it. -/
abbrev Spells (cs : List Char) (ts : List Token) : Prop :=
  ReadsAs Ends cs ts

variable {p : List Char → Prop} {cs ds : List Char}

theorem Ends.append (hc : Ends cs) (hd : Ends ds) : Ends (cs ++ ds) := by
  cases cs with
  | nil => exact hd
  | cons c cs => exact hc

theorem tokens_space {c : Char} (h : isSpace c = true) (cs : List Char) :
    tokens (c :: cs) = tokens cs := by
  rw [tokens, if_pos h]

theorem tokens_cons {c : Char} {cs rest : List Char} {t : Token} (hs : isSpace c = false)
    (h : token c cs = (t, rest)) (hle : rest.length ≤ cs.length) :
    tokens (c :: cs) = ⟨t, cs.length + 1⟩ :: tokens rest := by
  rw [tokens, if_neg (by simp [hs]), h]
  simp only [hle, if_true]

theorem readsAs_of_token {c : Char} {t : Token} (hs : isSpace c = false)
    (h : ∀ rest, p rest → token c (cs ++ rest) = (t, rest)) : ReadsAs p (c :: cs) [t] := by
  intro rest hrest
  refine ⟨[⟨t, (cs ++ rest).length + 1⟩], ?_, rfl⟩
  exact tokens_cons hs (h rest hrest) (by simp)

theorem ends_spaces (h : ∀ c ∈ cs, isSpace c = true) : Ends cs := by
  intro c hc
  have hspace := h c (List.mem_of_head? hc)
  simp only [isSpace, Bool.or_eq_true, beq_iff_eq] at hspace
  rcases hspace with ((rfl | rfl) | rfl) | rfl <;> rfl

theorem ends_cons {c : Char} (h : isNumeric c = false) (cs : List Char) : Ends (c :: cs) := by
  intro d hd
  cases hd
  exact h

/-! ### Signs, strings and names -/

theorem lexes_listOpen : Lexes ['['] [.listOpen] := readsAs_of_token rfl fun _ _ => rfl

theorem lexes_listClose : Lexes [']'] [.listClose] := readsAs_of_token rfl fun _ _ => rfl

theorem lexes_mapOpen : Lexes ['\x7b'] [.mapOpen] := readsAs_of_token rfl fun _ _ => rfl

theorem lexes_mapClose : Lexes ['\x7d'] [.mapClose] := readsAs_of_token rfl fun _ _ => rfl

theorem lexes_comma : Lexes [','] [.comma] := readsAs_of_token rfl fun _ _ => rfl

theorem lexes_colon : Lexes [':', ' '] [.colon] := by
  intro rest _
  have htoken : token ':' (' ' :: rest) = (.colon, ' ' :: rest) := rfl
  refine ⟨[⟨.colon, rest.length + 2⟩], ?_, rfl⟩
  change tokens (':' :: ' ' :: rest) = _
  rw [tokens_cons rfl htoken (Nat.le_refl _), tokens_space rfl]
  rfl

theorem lexes_null : Lexes "null".toList [.name .null] := readsAs_of_token rfl fun _ _ => rfl

theorem lexes_bool (b : Bool) : Lexes (if b then "true" else "false").toList [.name (.bool b)] := by
  cases b with
  | false => exact readsAs_of_token rfl fun _ _ => rfl
  | true => exact readsAs_of_token rfl fun _ _ => rfl

theorem lexes_string (s : String) : Lexes (string s).toList [.string s] := by
  have htext : (string s).toList =
      '"' :: ((String.join (s.toList.map escape)).toList ++ ['"']) := by
    simp [string]
  rw [htext]
  refine readsAs_of_token rfl fun rest _ => ?_
  have hbody := stringBody_escapes s.toList rest
  rw [List.append_assoc, List.singleton_append]
  unfold token
  simp only [hbody, String.ofList_toList]

/-! ### Integers -/

theorem whole?_toDigits (n : Nat) {rest : List Char} (hrest : Ends rest) :
    whole? (Nat.toDigits 10 n ++ rest) = some (Nat.toDigits 10 n, rest) := by
  have hspan : spanDigits (Nat.toDigits 10 n ++ rest) = (Nat.toDigits 10 n, rest) := by
    have hall := isDigit_of_mem_toDigits (n := n)
    have hstop : ∀ c ∈ rest.head?, c.isDigit = false := fun c hc => by
      have := hrest c hc
      simp only [isNumeric, Bool.or_eq_false_iff] at this
      exact this.1.1.1
    rw [spanDigits, List.takeWhile_append_of_pos hall, List.dropWhile_append_of_pos hall]
    cases rest with
    | nil => simp
    | cons c rest => simp [hstop c rfl]
  obtain ⟨c, ds, hds, hzero⟩ := exists_toDigits n
  by_cases hc : c = '0'
  · rw [hds, hzero hc, hc]
    rfl
  · rw [← hspan, hds, List.cons_append, whole?.eq_def]
    split
    next heq =>
      cases heq
      exact absurd rfl hc
    next heq =>
      cases heq
      rw [if_pos (isDigit_of_toDigits hds)]
    next heq => cases heq

theorem fraction?_eq_none {rest : List Char} (hrest : Ends rest) : fraction? rest = none := by
  unfold fraction?
  split
  next => cases hrest '.' rfl
  next => rfl

theorem exponent?_eq_none {rest : List Char} (hrest : Ends rest) : exponent? rest = none := by
  cases rest with
  | nil => rfl
  | cons c rest =>
    have hc : ¬ (c = 'e' ∨ c = 'E') := by
      rintro (rfl | rfl) <;> cases hrest _ rfl
    unfold exponent?
    exact if_neg hc

theorem token_of_numeral? {c : Char} {cs rest : List Char} {n : Numeral}
    (hc : c = '-' ∨ c.isDigit = true)
    (hname : names.find? (fun n => n.1.isPrefixOf (c :: cs)) = none)
    (hn : numeral? (c :: cs) = some (n, rest)) : token c cs = (n.token, rest) := by
  unfold token
  split
  iterate 7 rcases hc with hc | hc <;> cases hc
  simp only [hname, hn]

theorem numeral?_toDigits (n : Nat) {rest : List Char} (hrest : Ends rest) :
    numeral? (Nat.toDigits 10 n ++ rest) = some (⟨false, Nat.toDigits 10 n, none, none⟩, rest) := by
  have hwhole := whole?_toDigits n hrest
  obtain ⟨c, ds, hds, -⟩ := exists_toDigits n
  have hdigit := isDigit_of_toDigits hds
  rw [hds, List.cons_append] at hwhole ⊢
  unfold numeral?
  split
  next heq =>
    split at heq
    next heq' =>
      cases heq'
      cases hdigit
    next =>
      cases heq
      simp only [hwhole, Option.map_some, fraction?_eq_none hrest, exponent?_eq_none hrest]

theorem numeral?_neg_toDigits (n : Nat) {rest : List Char} (hrest : Ends rest) :
    numeral? ('-' :: (Nat.toDigits 10 n ++ rest)) =
      some (⟨true, Nat.toDigits 10 n, none, none⟩, rest) := by
  simp only [numeral?, whole?_toDigits n hrest, Option.map_some, fraction?_eq_none hrest,
    exponent?_eq_none hrest]

theorem token_toDigits (n : Nat) (negative : Bool) :
    Numeral.token ⟨negative, Nat.toDigits 10 n, none, none⟩ =
      .int (if negative then -(n : Int) else n) (Nat.toDigits 10 n).length := by
  simp only [Numeral.token, digitsValue_toDigits]

/-- No name starts with a digit. -/
theorem find?_names_digit {c : Char} (h : c.isDigit = true) (cs : List Char) :
    names.find? (fun n => n.1.isPrefixOf (c :: cs)) = none := by
  have hne : ∀ d : Char, d.isDigit = false → (d == c) = false := by
    intro d hd
    refine beq_false_of_ne ?_
    rintro rfl
    cases hd.symm.trans h
  simp [names, List.isPrefixOf, hne]

/-- No name starts with a minus sign and a digit. -/
theorem find?_names_neg {c : Char} (h : c.isDigit = true) (cs : List Char) :
    names.find? (fun n => n.1.isPrefixOf ('-' :: c :: cs)) = none := by
  have hne : ('I' == c) = false := by
    refine beq_false_of_ne ?_
    rintro rfl
    cases h
  simp [names, List.isPrefixOf, hne]

theorem isSpace_of_isDigit {c : Char} (h : c.isDigit = true) : isSpace c = false := by
  by_contra hspace
  simp only [isSpace, Bool.not_eq_false, Bool.or_eq_true, beq_iff_eq] at hspace
  rcases hspace with ((rfl | rfl) | rfl) | rfl <;> cases h

/-- An integer is read as itself, with the number of its digits. -/
theorem spells_int (n : Int) : Spells (Text.intText n).toList [.int n (Text.Numeral.digitCount n)] := by
  obtain ⟨c, ds, hds, -⟩ := exists_toDigits n.natAbs
  have hdigit := isDigit_of_toDigits hds
  by_cases hn : n < 0
  · have htext := Text.toList_intText_of_neg hn
    have hvalue : -(n.natAbs : Int) = n := by omega
    rw [htext]
    refine readsAs_of_token rfl fun rest hrest => ?_
    have hname := find?_names_neg hdigit (ds ++ rest)
    have hnum := numeral?_neg_toDigits n.natAbs hrest
    rw [hds, List.cons_append] at hnum ⊢
    rw [token_of_numeral? (.inl rfl) hname hnum, ← hds, token_toDigits, if_pos rfl, hvalue,
      Text.Numeral.digitCount]
  · have htext := Text.toList_intText_of_not_neg hn
    have hvalue : (n.natAbs : Int) = n := by omega
    rw [htext, hds]
    refine readsAs_of_token (isSpace_of_isDigit hdigit) fun rest hrest => ?_
    have hnum := numeral?_toDigits n.natAbs hrest
    rw [hds, List.cons_append] at hnum
    rw [token_of_numeral? (.inr hdigit) (find?_names_digit hdigit _) hnum, ← hds, token_toDigits,
      if_neg (by simp), hvalue, Text.Numeral.digitCount]

end Harvest.Json
