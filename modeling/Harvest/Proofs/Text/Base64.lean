import Harvest.Text.Base64

/-!
# Encoding and decoding base64

A letter stands for the number that it was written for (`value?_letter`), and four letters give back
three bytes, so bytes that were encoded are decoded to themselves (`decode_encode`).  A text that
holds anything but letters and padding signs is refused, wherever that stands and whatever the
padding around it (`decode_eq_none`).
-/

namespace Harvest.Text.Base64

/-! ### Letters -/

theorem value?_letter {n : Nat} (h : n < 64) : value? (letter n) = some n := by
  have hall : ∀ n : Fin 64, value? (letter n) = some n.val := by decide
  exact hall ⟨n, h⟩

theorem letter_ne_pad {n : Nat} (h : n < 64) : letter n ≠ '=' := by
  intro hpad
  have hvalue := value?_letter h
  rw [hpad] at hvalue
  cases hvalue

/-- Before any padding a letter is one step of its group. -/
theorem decodeFrom_letter {n : Nat} (h : n < 64) {g : Group} (hg : g.padded = false)
    (cs : List Char) :
    decodeFrom g (letter n :: cs) =
      match g.push n with
      | (some b, g) => (decodeFrom g cs).map (b :: ·)
      | (none, g) => decodeFrom g cs := by
  rw [decodeFrom, if_neg (letter_ne_pad h), value?_letter h]
  exact if_neg (by simp [hg])

/-! ### Groups -/

/-- Two letters of a group give its first byte, and leave four bits. -/
theorem decodeFrom_first (a : UInt8) {m : Nat} (hm : m < 16) (cs : List Char) :
    decodeFrom {} (letter (a.toNat / 4) :: letter (a.toNat % 4 * 16 + m) :: cs) =
      (decodeFrom { letters := 2, bits := m } cs).map (a :: ·) := by
  have ha := a.toNat_lt
  have hbyte : a.toNat / 4 * 4 + (a.toNat % 4 * 16 + m) / 16 = a.toNat := by omega
  have hbits : (a.toNat % 4 * 16 + m) % 16 = m := by omega
  rw [decodeFrom_letter (by omega) rfl]
  simp only [Group.push]
  rw [decodeFrom_letter (by omega) rfl]
  simp only [Group.push, hbyte, hbits, UInt8.ofNat_toNat]

/-- The third letter gives the second byte, and leaves two bits. -/
theorem decodeFrom_second (b : UInt8) {m : Nat} (hm : m < 4) (cs : List Char) :
    decodeFrom { letters := 2, bits := b.toNat / 16 } (letter (b.toNat % 16 * 4 + m) :: cs) =
      (decodeFrom { letters := 3, bits := m } cs).map (b :: ·) := by
  have hb := b.toNat_lt
  have hbyte : b.toNat / 16 * 16 + (b.toNat % 16 * 4 + m) / 4 = b.toNat := by omega
  have hbits : (b.toNat % 16 * 4 + m) % 4 = m := by omega
  rw [decodeFrom_letter (by omega) rfl]
  simp only [Group.push, hbyte, hbits, UInt8.ofNat_toNat]

/-- The last letter gives the third byte. -/
theorem decodeFrom_third (c : UInt8) (cs : List Char) :
    decodeFrom { letters := 3, bits := c.toNat / 64 } (letter (c.toNat % 64) :: cs) =
      (decodeFrom {} cs).map (c :: ·) := by
  have hbyte : c.toNat / 64 * 64 + c.toNat % 64 = c.toNat := by omega
  rw [decodeFrom_letter (by omega) rfl]
  simp only [Group.push, hbyte, UInt8.ofNat_toNat]

/-! ### Whole texts -/

theorem decodeFrom_encode (bs : List UInt8) : decodeFrom {} (encode bs) = some bs := by
  fun_induction encode bs with
  | case1 => rfl
  | case2 a =>
    rw [← Nat.add_zero (a.toNat % 4 * 16), decodeFrom_first a (by omega)]
    rfl
  | case3 a b =>
    have hb := b.toNat_lt
    rw [decodeFrom_first a (by omega), ← Nat.add_zero (b.toNat % 16 * 4),
      decodeFrom_second b (by omega)]
    rfl
  | case4 a b c rest ih =>
    have hb := b.toNat_lt
    have hc := c.toNat_lt
    rw [decodeFrom_first a (by omega), decodeFrom_second b (by omega), decodeFrom_third, ih]
    rfl

theorem head?_encode_ne (bs : List UInt8) : (encode bs).head? ≠ some '=' := by
  have hpad (a : UInt8) : letter (a.toNat / 4) ≠ '=' := by
    have ha := a.toNat_lt
    exact letter_ne_pad (by omega)
  fun_cases encode bs with
  | case1 => simp
  | case2 a => simpa using hpad a
  | case3 a b => simpa using hpad a
  | case4 a b c rest => simpa using hpad a

/-- **Bytes that were encoded are decoded to themselves.** -/
theorem decode_encode (bs : List UInt8) : decode (encode bs) = some bs := by
  rw [decode, if_neg (head?_encode_ne bs), decodeFrom_encode]

/-- A foreign character is met before a decoder could stop, since only the last character of a
text ends it early. -/
theorem decodeFrom_eq_none {c : Char} (hc : value? c = none) (hpad : c ≠ '=') {cs : List Char}
    (hmem : c ∈ cs) (g : Group) : decodeFrom g cs = none := by
  induction cs generalizing g with
  | nil => cases hmem
  | cons d cs ih =>
    rw [decodeFrom]
    obtain rfl | hmem := List.mem_cons.1 hmem
    · rw [if_neg hpad, hc]
    · have hne : cs.isEmpty = false := by
        cases cs with
        | nil => cases hmem
        | cons e es => rfl
      by_cases hd : d = '='
      · simp only [if_pos hd, hne, ih hmem, Bool.false_eq_true, if_false, ite_self]
      · rw [if_neg hd]
        cases value? d with
        | none => rfl
        | some v =>
          rcases hpush : g.push v with ⟨byte | byte, g'⟩ <;>
            simp only [hpush, ih hmem, Option.map_none, ite_self]

/-- **Text with a foreign character is refused.** -/
theorem decode_eq_none {c : Char} (hc : value? c = none) (hpad : c ≠ '=') {cs : List Char}
    (hmem : c ∈ cs) : decode cs = none := by
  rw [decode, decodeFrom_eq_none hc hpad hmem, ite_self]

end Harvest.Text.Base64
