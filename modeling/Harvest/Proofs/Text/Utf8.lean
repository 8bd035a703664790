import Harvest.Text.Utf8
import Mathlib.Data.List.Basic

/-!
# Encoding and decoding UTF-8

A character that was encoded is the first piece of its bytes, whatever follows them
(`head_encode`), so a text that was encoded is cut into its own characters (`pieces_encodeChar`)
and decoding gives the text back (`decode_encode`).  No part of it is ill-formed, so nothing is
replaced where that could be (`decodeLossy_encode`).

Conversely a piece that is a character has the bytes of that character (`encodeChar_of_head`), so
bytes are decoded only if they encode the text (`decode_eq_ok_iff`).
-/

namespace Harvest.Text.Utf8

theorem toNat_ofNat {n : Nat} (h : n < 256) : (UInt8.ofNat n).toNat = n := by
  rw [UInt8.toNat_ofNat']
  exact Nat.mod_eq_of_lt h

/-- A byte within the bounds goes on with the character. -/
theorem follow_cons {first b : UInt8} {lo hi : Nat} (hlo : lo ≤ b.toNat) (hhi : b.toNat ≤ hi)
    (need code taken : Nat) (bs : List UInt8) :
    follow first (need + 1) lo hi code taken (b :: bs) =
      follow first need 0x80 0xBF (64 * code + (b.toNat - 0x80)) (taken + 1) bs := by
  rw [follow, if_pos ⟨hlo, hhi⟩]

/-- The last bytes of a character, six bits each, follow whatever came before. -/
theorem follow_ofNat {n : Nat} (first : UInt8) (need code taken : Nat) (bs : List UInt8) :
    follow first (need + 1) 0x80 0xBF code taken (UInt8.ofNat (n % 64 + 128) :: bs) =
      follow first need 0x80 0xBF (64 * code + n % 64) (taken + 1) bs := by
  have hn : (UInt8.ofNat (n % 64 + 128)).toNat = n % 64 + 128 := toNat_ofNat (by omega)
  rw [follow_cons (by omega) (by omega), hn, Nat.add_sub_cancel]

theorem head_of_lead {b : UInt8} {need lo hi code : Nat}
    (h : lead b.toNat = some (need, lo, hi, code)) (hb : 0x80 ≤ b.toNat) (bs : List UInt8) :
    head b bs = follow b need lo hi code 1 bs := by
  rw [head, if_neg (by omega), h]

/-! ### One character -/

theorem char_of_code {c : Char} {n : Nat} (h : n = c.toNat) : Char.ofNat n = c := by
  rw [h, Char.ofNat_toNat]

theorem head_two {c : Char} (lo : 0x80 ≤ c.toNat) (hi : c.toNat ≤ 0x7FF) (rest : List UInt8) :
    head (UInt8.ofNat (c.toNat / 64 % 32 + 192)) (UInt8.ofNat (c.toNat % 64 + 128) :: rest) =
      .char c 2 := by
  have hb : (UInt8.ofNat (c.toNat / 64 % 32 + 192)).toNat = c.toNat / 64 + 192 := by
    rw [toNat_ofNat] <;> omega
  have hlead : lead (c.toNat / 64 + 192) = some (1, 0x80, 0xBF, c.toNat / 64) := by
    rw [lead, if_pos (by omega), Nat.add_sub_cancel]
  rw [head_of_lead (by rw [hb]; exact hlead) (by omega), follow_ofNat, follow,
    char_of_code (c := c) (by omega)]

theorem head_three {c : Char} (lo : 0x800 ≤ c.toNat) (hi : c.toNat ≤ 0xFFFF)
    (hsur : c.toNat < 0xD800 ∨ 0xDFFF < c.toNat) (rest : List UInt8) :
    head (UInt8.ofNat (c.toNat / 4096 % 16 + 224))
        (UInt8.ofNat (c.toNat / 64 % 64 + 128) :: UInt8.ofNat (c.toNat % 64 + 128) :: rest) =
      .char c 3 := by
  have hb : (UInt8.ofNat (c.toNat / 4096 % 16 + 224)).toNat = c.toNat / 4096 + 224 := by
    rw [toNat_ofNat] <;> omega
  have hb' : (UInt8.ofNat (c.toNat / 64 % 64 + 128)).toNat = c.toNat / 64 % 64 + 128 :=
    toNat_ofNat (by omega)
  -- the bounds of the second byte depend on the first
  obtain ⟨l, h, hlead, hl, hh⟩ : ∃ l h, lead (c.toNat / 4096 + 224) =
      some (2, l, h, c.toNat / 4096) ∧ l ≤ c.toNat / 64 % 64 + 128 ∧
        c.toNat / 64 % 64 + 128 ≤ h := by
    by_cases h0 : c.toNat / 4096 = 0
    · exact ⟨0xA0, 0xBF, by rw [h0]; rfl, by omega, by omega⟩
    · by_cases hd : c.toNat / 4096 = 0xD
      · exact ⟨0x80, 0x9F, by rw [hd]; rfl, by omega, by omega⟩
      · refine ⟨0x80, 0xBF, ?_, by omega, by omega⟩
        rw [lead, if_neg (by omega), if_neg (by omega), if_neg (by omega), if_pos (by omega),
          Nat.add_sub_cancel]
  rw [head_of_lead (by rw [hb]; exact hlead) (by omega), follow_cons (by omega) (by omega),
    follow_ofNat, follow, char_of_code (c := c) (by omega)]

theorem head_four {c : Char} (lo : 0x10000 ≤ c.toNat) (hi : c.toNat < 0x110000)
    (rest : List UInt8) :
    head (UInt8.ofNat (c.toNat / 262144 % 8 + 240))
        (UInt8.ofNat (c.toNat / 4096 % 64 + 128) :: UInt8.ofNat (c.toNat / 64 % 64 + 128) ::
          UInt8.ofNat (c.toNat % 64 + 128) :: rest) =
      .char c 4 := by
  have hb : (UInt8.ofNat (c.toNat / 262144 % 8 + 240)).toNat = c.toNat / 262144 + 240 := by
    rw [toNat_ofNat] <;> omega
  have hb' : (UInt8.ofNat (c.toNat / 4096 % 64 + 128)).toNat = c.toNat / 4096 % 64 + 128 :=
    toNat_ofNat (by omega)
  obtain ⟨l, h, hlead, hl, hh⟩ : ∃ l h, lead (c.toNat / 262144 + 240) =
      some (3, l, h, c.toNat / 262144) ∧ l ≤ c.toNat / 4096 % 64 + 128 ∧
        c.toNat / 4096 % 64 + 128 ≤ h := by
    by_cases h0 : c.toNat / 262144 = 0
    · exact ⟨0x90, 0xBF, by rw [h0]; rfl, by omega, by omega⟩
    · by_cases h4 : c.toNat / 262144 = 4
      · exact ⟨0x80, 0x8F, by rw [h4]; rfl, by omega, by omega⟩
      · refine ⟨0x80, 0xBF, ?_, by omega, by omega⟩
        rw [lead, if_neg (by omega), if_neg (by omega), if_neg (by omega), if_neg (by omega),
          if_neg (by omega), if_pos (by omega), Nat.add_sub_cancel]
  rw [head_of_lead (by rw [hb]; exact hlead) (by omega), follow_cons (by omega) (by omega),
    follow_ofNat, follow_ofNat, follow, char_of_code (c := c) (by omega)]

/-- The piece at the head of the bytes of a character is the character, whatever follows. -/
theorem head_encode (c : Char) (rest : List UInt8) :
    ∃ b bs, String.utf8EncodeChar c = b :: bs ∧
      head b (bs ++ rest) = .char c (bs.length + 1) := by
  have hvalid : c.toNat < 0xD800 ∨ 0xDFFF < c.toNat ∧ c.toNat < 0x110000 := c.valid
  unfold String.utf8EncodeChar
  change ∃ b bs, (if c.toNat ≤ 127 then _ else if c.toNat ≤ 2047 then _ else
    if c.toNat ≤ 65535 then _ else _) = b :: bs ∧ _
  split
  next h1 =>
    refine ⟨_, [], rfl, ?_⟩
    have hb : (UInt8.ofNat c.toNat).toNat = c.toNat := toNat_ofNat (by omega)
    change head (UInt8.ofNat c.toNat) rest = .char c 1
    rw [head, hb, if_pos (by omega), Char.ofNat_toNat]
  next h1 =>
    split
    next h2 => exact ⟨_, _, rfl, head_two (by omega) h2 rest⟩
    next h2 =>
      split
      next h3 => exact ⟨_, _, rfl, head_three (by omega) h3 (by omega) rest⟩
      next h3 => exact ⟨_, _, rfl, head_four (by omega) (by omega) rest⟩

/-! ### Whole texts -/

theorem pieces_encodeChar (c : Char) (rest : List UInt8) :
    ∃ n, pieces (String.utf8EncodeChar c ++ rest) = .char c n :: pieces rest := by
  obtain ⟨b, bs, hbytes, hhead⟩ := head_encode c rest
  refine ⟨bs.length + 1, ?_⟩
  rw [hbytes, List.cons_append, pieces, hhead]
  simp [Piece.length]

theorem joinPieces_encode (cs : List Char) (position : Nat) :
    joinPieces position (pieces (cs.flatMap String.utf8EncodeChar)) = .ok cs := by
  induction cs generalizing position with
  | nil =>
    rw [List.flatMap_nil, pieces]
    rfl
  | cons c cs ih =>
    obtain ⟨n, hn⟩ := pieces_encodeChar c (cs.flatMap String.utf8EncodeChar)
    rw [List.flatMap_cons, hn, joinPieces, ih]
    rfl

/-- **A text that was encoded is decoded to itself.** -/
theorem decode_encode (s : String) : decode (encode s) = .ok s := by
  rw [decode, encode, joinPieces_encode]
  exact congrArg Except.ok String.ofList_toList

theorem decodeLossy_flatMap (cs : List Char) :
    decodeLossy (cs.flatMap String.utf8EncodeChar) = String.ofList cs := by
  induction cs with
  | nil =>
    rw [List.flatMap_nil, decodeLossy, pieces]
    rfl
  | cons c cs ih =>
    obtain ⟨n, hn⟩ := pieces_encodeChar c (cs.flatMap String.utf8EncodeChar)
    have hrest := congrArg String.toList ih
    rw [decodeLossy, String.toList_ofList, String.toList_ofList] at hrest
    rw [List.flatMap_cons, decodeLossy, hn, List.map_cons, hrest]

/-- **A text that was encoded has no part to replace.** -/
theorem decodeLossy_encode (s : String) : decodeLossy (encode s) = s := by
  rw [encode, decodeLossy_flatMap, String.ofList_toList]

/-- The bytes of two texts in a row. -/
theorem encode_append (s t : String) : encode (s ++ t) = encode s ++ encode t := by
  rw [encode, String.toList_append, List.flatMap_append]
  rfl

/-! ### Nothing else is decoded -/

/-- The bytes of the character of a code, of which the length depends on the code. -/
theorem encodeChar_ofNat {n : Nat} (h : n.isValidChar) : String.utf8EncodeChar (Char.ofNat n) =
    if n ≤ 127 then [UInt8.ofNat n]
    else if n ≤ 2047 then [UInt8.ofNat (n / 64 % 32 + 192), UInt8.ofNat (n % 64 + 128)]
    else if n ≤ 65535 then
      [UInt8.ofNat (n / 4096 % 16 + 224), UInt8.ofNat (n / 64 % 64 + 128),
        UInt8.ofNat (n % 64 + 128)]
    else
      [UInt8.ofNat (n / 262144 % 8 + 240), UInt8.ofNat (n / 4096 % 64 + 128),
        UInt8.ofNat (n / 64 % 64 + 128), UInt8.ofNat (n % 64 + 128)] := by
  have hn : (Char.ofNat n).val.toNat = n := by
    rw [Char.ofNat, dif_pos h]
    rfl
  unfold String.utf8EncodeChar
  simp only [hn]

theorem ofNat_eq {b : UInt8} {n : Nat} (h : n = b.toNat) : UInt8.ofNat n = b := by
  rw [h, UInt8.ofNat_toNat]

/-- A character ends with the bits that were gathered. -/
theorem follow_zero_iff {first : UInt8} {lo hi code taken n : Nat} {bs : List UInt8} {c : Char} :
    follow first 0 lo hi code taken bs = .char c n ↔ Char.ofNat code = c ∧ taken = n := by
  rw [follow, Piece.char.injEq]

/-- A byte that goes on with a character is within the bounds. -/
theorem exists_of_follow {first : UInt8} {need lo hi code taken : Nat} {bs : List UInt8} {c : Char}
    {n : Nat} (h : follow first (need + 1) lo hi code taken bs = .char c n) :
    ∃ b rest, bs = b :: rest ∧ lo ≤ b.toNat ∧ b.toNat ≤ hi ∧
      follow first need 0x80 0xBF (64 * code + (b.toNat - 0x80)) (taken + 1) rest = .char c n := by
  cases bs with
  | nil => cases h
  | cons b rest =>
    rw [follow] at h
    split at h
    next hb => exact ⟨b, rest, rfl, hb.1, hb.2, h⟩
    next => cases h

/-- What the first byte of a character of several bytes says of the others. -/
theorem lead_cases {b need lo hi code : Nat} (h : lead b = some (need, lo, hi, code)) :
    (need = 1 ∧ 0xC2 ≤ b ∧ b ≤ 0xDF ∧ code = b - 0xC0 ∧ lo = 0x80 ∧ hi = 0xBF) ∨
    (need = 2 ∧ 0xE0 ≤ b ∧ b ≤ 0xEF ∧ code = b - 0xE0 ∧ 0x80 ≤ lo ∧ hi ≤ 0xBF ∧
      (b = 0xE0 → lo = 0xA0) ∧ (b = 0xED → hi = 0x9F)) ∨
    (need = 3 ∧ 0xF0 ≤ b ∧ b ≤ 0xF4 ∧ code = b - 0xF0 ∧ 0x80 ≤ lo ∧ hi ≤ 0xBF ∧
      (b = 0xF0 → lo = 0x90) ∧ (b = 0xF4 → hi = 0x8F)) := by
  unfold lead at h
  split_ifs at h <;> cases h <;> omega

/-- A piece that is a character has the bytes of the character. -/
theorem encodeChar_of_head {b : UInt8} {bs : List UInt8} {c : Char} {n : Nat}
    (h : head b bs = .char c n) :
    ∃ tail rest, bs = tail ++ rest ∧ n = tail.length + 1 ∧
      String.utf8EncodeChar c = b :: tail := by
  unfold head at h
  split at h
  next hb =>
    cases h
    refine ⟨[], bs, rfl, rfl, ?_⟩
    have hvalid : b.toNat.isValidChar := by
      unfold Nat.isValidChar
      omega
    have hle : b.toNat ≤ 127 := by omega
    rw [encodeChar_ofNat hvalid, if_pos hle, ofNat_eq rfl]
  next hb =>
    split at h
    next need lo hi code hlead =>
      -- the bounds keep every code out of the range of the surrogates
      obtain ⟨rfl, hlow, hhigh, hcode, hlo, hhi⟩ |
        ⟨rfl, hlow, hhigh, hcode, hlo, hhi, hfirst, hlast⟩ |
        ⟨rfl, hlow, hhigh, hcode, hlo, hhi, hfirst, hlast⟩ := lead_cases hlead
      · obtain ⟨b₁, rest, rfl, hlo₁, hhi₁, h⟩ := exists_of_follow h
        obtain ⟨rfl, rfl⟩ := follow_zero_iff.1 h
        refine ⟨[b₁], rest, rfl, rfl, ?_⟩
        have hvalid : (64 * code + (b₁.toNat - 0x80)).isValidChar := by
          unfold Nat.isValidChar
          omega
        rw [encodeChar_ofNat hvalid, if_neg (by omega), if_pos (by omega),
          ofNat_eq (b := b) (by omega), ofNat_eq (b := b₁) (by omega)]
      · obtain ⟨b₁, bs₁, rfl, hlo₁, hhi₁, h⟩ := exists_of_follow h
        obtain ⟨b₂, rest, rfl, hlo₂, hhi₂, h⟩ := exists_of_follow h
        obtain ⟨rfl, rfl⟩ := follow_zero_iff.1 h
        refine ⟨[b₁, b₂], rest, rfl, rfl, ?_⟩
        have hvalid : (64 * (64 * code + (b₁.toNat - 0x80)) +
            (b₂.toNat - 0x80)).isValidChar := by
          unfold Nat.isValidChar
          omega
        rw [encodeChar_ofNat hvalid, if_neg (by omega), if_neg (by omega), if_pos (by omega),
          ofNat_eq (b := b) (by omega), ofNat_eq (b := b₁) (by omega),
          ofNat_eq (b := b₂) (by omega)]
      · obtain ⟨b₁, bs₁, rfl, hlo₁, hhi₁, h⟩ := exists_of_follow h
        obtain ⟨b₂, bs₂, rfl, hlo₂, hhi₂, h⟩ := exists_of_follow h
        obtain ⟨b₃, rest, rfl, hlo₃, hhi₃, h⟩ := exists_of_follow h
        obtain ⟨rfl, rfl⟩ := follow_zero_iff.1 h
        refine ⟨[b₁, b₂, b₃], rest, rfl, rfl, ?_⟩
        have hvalid : (64 * (64 * (64 * code + (b₁.toNat - 0x80)) +
            (b₂.toNat - 0x80)) + (b₃.toNat - 0x80)).isValidChar := by
          unfold Nat.isValidChar
          omega
        rw [encodeChar_ofNat hvalid, if_neg (by omega), if_neg (by omega), if_neg (by omega),
          ofNat_eq (b := b) (by omega), ofNat_eq (b := b₁) (by omega),
          ofNat_eq (b := b₂) (by omega), ofNat_eq (b := b₃) (by omega)]
    next => cases h

theorem eq_flatMap_of_joinPieces {bs : List UInt8} {position : Nat} {cs : List Char}
    (h : joinPieces position (pieces bs) = .ok cs) : bs = cs.flatMap String.utf8EncodeChar := by
  fun_induction pieces bs generalizing position cs with
  | case1 =>
    cases h
    rfl
  | case2 b bs ih =>
    cases hp : head b bs with
    | bad first n fault =>
      rw [hp] at h
      cases h
    | char c n =>
      obtain ⟨tail, rest, rfl, rfl, hbytes⟩ := encodeChar_of_head hp
      rw [hp] at h ih
      simp only [Piece.length, Nat.add_sub_cancel, List.drop_left] at h ih
      rw [joinPieces] at h
      cases hrest : joinPieces (position + (tail.length + 1)) (pieces rest) with
      | error e =>
        rw [hrest] at h
        cases h
      | ok cs' =>
        rw [hrest] at h
        cases h
        rw [List.flatMap_cons, hbytes, ← ih hrest, List.cons_append]

/-- **Bytes are decoded exactly if they encode the text.** -/
theorem decode_eq_ok_iff {bs : List UInt8} {s : String} : decode bs = .ok s ↔ bs = encode s := by
  constructor
  · intro h
    unfold decode at h
    cases hcs : joinPieces 0 (pieces bs) with
    | error e =>
      rw [hcs] at h
      cases h
    | ok cs =>
      rw [hcs] at h
      cases h
      rw [encode, String.toList_ofList]
      exact eq_flatMap_of_joinPieces hcs
  · rintro rfl
    exact decode_encode s

end Harvest.Text.Utf8
