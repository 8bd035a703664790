import Harvest.Text.Digit
import Mathlib.Data.List.Basic
import Mathlib.Data.List.Induction
import Mathlib.Data.Nat.Digits.Defs

/-!
# Decimal digits of numbers

The digits that a number is written with are those of ASCII, which are decimal digits among others
(`digit?_of_isDigit`).  They spell the number again (`digitsValue_toDigits`), and no digits of any
script spell it that are fewer (`length_toDigits_le`).  As a numeral of its own, if it is not too
long, the text of a number is read as the number (`Numeral.read_intText`).
-/

namespace Harvest.Text

variable {cs : List Char}

theorem code_of_isDigit {c : Char} (h : c.isDigit = true) : 48 ≤ c.toNat ∧ c.toNat ≤ 57 := by
  simpa [Char.isDigit, UInt32.le_iff_toNat_le] using h

theorem digit?_of_isDigit {c : Char} (h : c.isDigit = true) :
    digit? c = some (c.toNat - '0'.toNat) := by
  have hc := code_of_isDigit h
  rw [digit?, if_pos (by omega), if_pos (by simp; omega)]
  rfl

theorem isDigit_of_ascii {c : Char} (h : c.isDigit = true) : isDigit c = true := by
  rw [isDigit, digit?_of_isDigit h]
  rfl

theorem filterMap_digit? (h : ∀ c ∈ cs, c.isDigit = true) :
    cs.filterMap digit? = cs.map fun c => c.toNat - '0'.toNat := by
  rw [← List.filterMap_eq_map]
  exact List.filterMap_congr fun c hc => digit?_of_isDigit (h c hc)

/-! ### The digits of a number -/

theorem isDigit_of_mem_toDigits {n : Nat} : ∀ c ∈ Nat.toDigits 10 n, c.isDigit = true :=
  fun _ hc => Nat.isDigit_of_mem_toDigits (by omega) (by omega) hc

theorem isDigit_of_toDigits {n : Nat} {c : Char} {ds : List Char}
    (h : Nat.toDigits 10 n = c :: ds) : c.isDigit = true :=
  isDigit_of_mem_toDigits (n := n) c (by rw [h]; exact List.mem_cons_self)

/-- The digits of a number spell it. -/
theorem digitsValue_toDigits (n : Nat) : digitsValue (Nat.toDigits 10 n) = n := by
  have hfold (ds : List Char) (acc : Nat) :
      (ds.map fun c => c.toNat - '0'.toNat).foldl (fun n d => 10 * n + d) acc =
        Nat.ofDigitChars 10 ds acc := by
    induction ds generalizing acc with
    | nil => rfl
    | cons c ds ih => rw [List.map_cons, List.foldl_cons, ih, Nat.ofDigitChars_cons]
  rw [digitsValue, ofDigits, filterMap_digit? isDigit_of_mem_toDigits, hfold]
  exact Nat.ofDigitChars_ten_toDigits

/-- The digits of a number start with a zero only where they are nothing else. -/
theorem exists_toDigits (n : Nat) : ∃ c ds, Nat.toDigits 10 n = c :: ds ∧ (c = '0' → ds = []) := by
  induction n using Nat.strongRecOn with
  | ind n ih =>
    rw [Nat.toDigits_eq_if (by omega)]
    split
    next h => exact ⟨_, _, rfl, fun _ => rfl⟩
    next h =>
      obtain ⟨c, ds, hds, hzero⟩ := ih (n / 10) (by omega)
      refine ⟨c, ds ++ [(n % 10).digitChar], by rw [hds]; rfl, ?_⟩
      rintro rfl
      have hvalue := digitsValue_toDigits (n / 10)
      rw [hds, hzero rfl] at hvalue
      change 0 = n / 10 at hvalue
      omega

theorem toDigits_ne_nil (n : Nat) : Nat.toDigits 10 n ≠ [] := by
  obtain ⟨c, ds, h, -⟩ := exists_toDigits n
  rw [h]
  exact List.cons_ne_nil c ds

theorem toList_intText_of_neg {n : Int} (h : n < 0) :
    (intText n).toList = '-' :: Nat.toDigits 10 n.natAbs := by
  simp [intText, h, natText]

theorem toList_intText_of_not_neg {n : Int} (h : ¬ n < 0) :
    (intText n).toList = Nat.toDigits 10 n.natAbs := by
  simp [intText, h, natText]

/-! ### The number of digits -/

theorem lt_ten_of_digit? {c : Char} {d : Nat} (h : digit? c = some d) : d < 10 := by
  unfold digit? at h
  split at h
  · split at h
    next hc =>
      cases h
      simp only [Bool.and_eq_true, decide_eq_true_eq] at hc
      omega
    next => cases h
  · obtain ⟨first, hfirst, rfl⟩ := Option.map_eq_some_iff.1 h
    have hc := List.find?_some hfirst
    simp only [Bool.and_eq_true, decide_eq_true_eq] at hc
    omega

theorem ofDigits_lt {ds : List Nat} (h : ∀ d ∈ ds, d < 10) : ofDigits ds < 10 ^ ds.length := by
  -- the last digit is the one that was read last
  induction ds using List.reverseRecOn with
  | nil => decide
  | append_singleton ds d ih =>
    have hd : d < 10 := h d (by simp)
    have hds : ofDigits ds < 10 ^ ds.length := ih fun e he => h e (List.mem_append_left _ he)
    have hstep : ofDigits (ds ++ [d]) = 10 * ofDigits ds + d := by
      simp only [ofDigits, List.foldl_append, List.foldl_cons, List.foldl_nil]
    rw [hstep, List.length_append, List.length_singleton, Nat.pow_succ]
    omega

theorem digitsValue_lt (cs : List Char) : digitsValue cs < 10 ^ cs.length := by
  have hdigits : ∀ d ∈ cs.filterMap digit?, d < 10 := by
    intro d hd
    obtain ⟨c, -, hc⟩ := List.mem_filterMap.1 hd
    exact lt_ten_of_digit? hc
  exact (ofDigits_lt hdigits).trans_le
    (Nat.pow_le_pow_right (by omega) (List.length_filterMap_le _ _))

/-- **A number has no more digits than any text that spells it**: leading zeros may be lost, and the
script. -/
theorem length_toDigits_le (h : cs ≠ []) :
    (Nat.toDigits 10 (digitsValue cs)).length ≤ cs.length :=
  Nat.toDigits_length 10 _ _ (List.length_pos_iff.2 h) (digitsValue_lt cs)

/-! ### Numerals -/

namespace Numeral

/-- Digits alone are a numeral: no sign, blank or underscore is among them. -/
theorem digits?_of_isDigit (hne : cs ≠ []) (h : ∀ c ∈ cs, c.isDigit = true) :
    digits? cs = some (cs.map fun c => c.toNat - '0'.toNat) := by
  induction cs with
  | nil => exact absurd rfl hne
  | cons c cs ih =>
    obtain ⟨hc, hcs⟩ := List.forall_mem_cons.1 h
    have hdigit := digit?_of_isDigit hc
    cases cs with
    | nil =>
      unfold digits?
      simp only [hdigit]
      rfl
    | cons d cs =>
      have hd : d ≠ '_' := by
        rintro rfl
        cases hcs '_' List.mem_cons_self
      have hrest := ih (List.cons_ne_nil d cs) hcs
      unfold digits?
      simp only [hdigit]
      -- behind a digit an underscore would be passed over
      split
      next heq => cases heq
      next heq => cases heq
      next heq =>
        cases heq
        exact absurd rfl hd
      next heq _ _ =>
        cases heq
        rw [hrest]
        rfl

theorem readNat_toDigits {n : Nat} (h : (Nat.toDigits 10 n).length ≤ maxDigits) :
    readNat (Nat.toDigits 10 n) = .ok n := by
  have hvalue := digitsValue_toDigits n
  rw [digitsValue, filterMap_digit? isDigit_of_mem_toDigits] at hvalue
  rw [readNat, digits?_of_isDigit (toDigits_ne_nil n) isDigit_of_mem_toDigits]
  simp only
  rw [if_neg (by simpa using h), hvalue]

theorem isMargin_of_isDigit {c : Char} (h : c.isDigit = true) : isMargin c = false := by
  have hc := code_of_isDigit h
  have hblank : isBlank c = false := by
    simp only [isBlank, Bool.or_eq_false_iff, Bool.and_eq_false_iff, decide_eq_false_iff_not,
      beq_eq_false_iff_ne]
    omega
  rw [isMargin, hblank, Bool.false_and]

/-- Nothing is cut off a text of digits. -/
theorem dropWhile_isMargin (h : ∀ c ∈ cs, c.isDigit = true) : cs.dropWhile isMargin = cs := by
  cases cs with
  | nil => rfl
  | cons c cs =>
    exact List.dropWhile_cons_of_neg (by simp [isMargin_of_isDigit (h c List.mem_cons_self)])

/-- **The text of a number is read as the number**, if it is not too long. -/
theorem read_natText {n : Nat} (h : (Nat.toDigits 10 n).length ≤ maxDigits) :
    read (natText n) = .ok n := by
  have hdigits := isDigit_of_mem_toDigits (n := n)
  have htrim : ((natText n).toList.dropWhile isMargin).reverse.dropWhile isMargin =
      (Nat.toDigits 10 n).reverse := by
    rw [natText, String.toList_ofList, dropWhile_isMargin hdigits,
      dropWhile_isMargin fun c hc => hdigits c (List.mem_reverse.1 hc)]
  obtain ⟨c, ds, hds, -⟩ := exists_toDigits n
  have hc := isDigit_of_toDigits hds
  have hread := readNat_toDigits h
  rw [read, htrim, List.reverse_reverse]
  rw [hds] at hread ⊢
  -- a digit is no sign
  split
  next heq =>
    cases heq
    cases hc
  next heq =>
    cases heq
    cases hc
  next =>
    rw [hread]
    rfl

/-- **The text of an integer is read as the integer**, if it is not too long. -/
theorem read_intText {n : Int} (h : (Nat.toDigits 10 n.natAbs).length ≤ maxDigits) :
    read (intText n) = .ok n := by
  by_cases hneg : n < 0
  · -- neither the sign nor the last digit is cut off
    have hfront : ('-' :: Nat.toDigits 10 n.natAbs).dropWhile isMargin =
        '-' :: Nat.toDigits 10 n.natAbs :=
      List.dropWhile_cons_of_neg (by decide)
    obtain ⟨c, ds, hds⟩ := List.exists_cons_of_ne_nil
      (List.reverse_ne_nil_iff.2 (toDigits_ne_nil n.natAbs))
    have hc : c.isDigit = true :=
      isDigit_of_mem_toDigits c (List.mem_reverse.1 (hds ▸ List.mem_cons_self))
    have hback : ('-' :: Nat.toDigits 10 n.natAbs).reverse.dropWhile isMargin =
        ('-' :: Nat.toDigits 10 n.natAbs).reverse := by
      rw [List.reverse_cons, hds, List.cons_append,
        List.dropWhile_cons_of_neg (by simp [isMargin_of_isDigit hc])]
    have hvalue : -(n.natAbs : Int) = n := by omega
    rw [read, toList_intText_of_neg hneg, hfront, hback, List.reverse_reverse]
    simp only [readNat_toDigits h]
    exact congrArg Except.ok hvalue
  · have hvalue : (n.natAbs : Int) = n := by omega
    rw [intText, if_neg hneg, read_natText h, hvalue]

end Numeral

end Harvest.Text
