import Harvest.Proofs.Text.Base64
import Mathlib.Data.List.TakeWhile
import Mathlib.Data.Nat.Bitwise

/-!
# What base64 text stands for

Base64 is described here without a decoder.  `IsBase64` says which texts are base64: letters of the
alphabet, with up to two padding signs that fill the last group of four.  `Spells` says which bytes
such a text stands for: their bits in a row are the bits of the letters, six each, but for fewer than
eight at the end.

The decoder reads one letter at a time.  What it has written and what it holds back are, at every
step, the bits that it has read (`push_spells`, `decodeFrom_letters`), and whether it accepts the text
depends on the padding alone (`decodeFrom_pads`).  So base64 text is decoded to the bytes that it
spells, and so is one more kind of text: complete groups with padding that they do not need, as much
as there may be (`Overpadded`, `decode_eq_some_iff`).
-/

namespace Harvest.Text.Base64

/-! ### Bits -/

/-- The lowest bits of a number, as many as the width says, from the highest to the lowest. -/
def bits : Nat → Nat → List Bool
  | 0, _ => []
  | w + 1, n => n.testBit w :: bits w n

@[simp] theorem length_bits (w n : Nat) : (bits w n).length = w := by
  induction w with
  | zero => rfl
  | succ w ih => rw [bits, List.length_cons, ih]

theorem bits_add (v w n : Nat) : bits (v + w) n = bits v (n / 2 ^ w) ++ bits w n := by
  induction v with
  | zero => rw [Nat.zero_add, bits, List.nil_append]
  | succ v ih =>
    rw [Nat.add_right_comm, bits, bits, Nat.testBit_div_two_pow, ih, List.cons_append]

theorem bits_eq_iff {w m n : Nat} :
    bits w m = bits w n ↔ ∀ i < w, m.testBit i = n.testBit i := by
  induction w with
  | zero => simp [bits]
  | succ w ih => simp only [bits, List.cons.injEq, ih, Nat.forall_lt_succ_right, and_comm]

theorem bits_mod (w n : Nat) : bits w (n % 2 ^ w) = bits w n := by
  refine bits_eq_iff.2 fun i hi => ?_
  rw [Nat.testBit_mod_two_pow, decide_eq_true hi, Bool.true_and]

theorem eq_of_bits_eq {w m n : Nat} (hm : m < 2 ^ w) (hn : n < 2 ^ w) (h : bits w m = bits w n) :
    m = n := by
  refine Nat.eq_of_testBit_eq fun i => ?_
  by_cases hi : i < w
  · exact bits_eq_iff.1 h i hi
  · have hpow : 2 ^ w ≤ 2 ^ i := Nat.pow_le_pow_right (by omega) (Nat.le_of_not_lt hi)
    rw [Nat.testBit_lt_two_pow (hm.trans_le hpow), Nat.testBit_lt_two_pow (hn.trans_le hpow)]

/-- The bits of bytes in a row. -/
def octets (bs : List UInt8) : List Bool :=
  bs.flatMap fun b => bits 8 b.toNat

theorem octets_append (bs bs' : List UInt8) : octets (bs ++ bs') = octets bs ++ octets bs' :=
  List.flatMap_append

theorem length_octets (bs : List UInt8) : (octets bs).length = 8 * bs.length := by
  induction bs with
  | nil => rfl
  | cons b bs ih =>
    rw [octets, List.flatMap_cons, List.length_append, length_bits, List.length_cons]
    rw [octets] at ih
    omega

/-- Bits in a row are the bits of one sequence of bytes only, if fewer than eight are left. -/
theorem octets_unique {bs bs' : List UInt8} {rest rest' : List Bool}
    (h : octets bs ++ rest = octets bs' ++ rest') (hrest : rest.length < 8)
    (hrest' : rest'.length < 8) : bs = bs' := by
  have hlength := congrArg List.length h
  simp only [List.length_append, length_octets] at hlength
  induction bs generalizing bs' with
  | nil =>
    cases bs' with
    | nil => rfl
    | cons b' bs' => simp only [List.length_nil, List.length_cons] at hlength; omega
  | cons b bs ih =>
    cases bs' with
    | nil => simp only [List.length_nil, List.length_cons] at hlength; omega
    | cons b' bs' =>
      simp only [octets, List.flatMap_cons, List.append_assoc] at h
      obtain ⟨hbyte, htail⟩ := List.append_inj h (by simp only [length_bits])
      have hb : b.toNat = b'.toNat := eq_of_bits_eq b.toNat_lt b'.toNat_lt hbyte
      simp only [List.length_cons] at hlength
      rw [UInt8.toNat_inj.1 hb, ih htail (by omega)]

/-! ### Base64 text -/

/-- The letters, in the order of the numbers that they stand for. -/
def alphabet : List Char :=
  "ABCDEFGHIJKLMNOPQRSTUVWXYZabcdefghijklmnopqrstuvwxyz0123456789+/".toList

/-- A text is a number of letters with a number of padding signs behind them. -/
structure Padded (cs body : List Char) (pads : Nat) : Prop where
  letters : ∀ c ∈ body, c ∈ alphabet
  eq : cs = body ++ List.replicate pads '='

/-- A text is base64: complete groups of four, of which the last may end with one or two padding
signs. -/
def IsBase64 (cs : List Char) : Prop :=
  ∃ body pads, Padded cs body pads ∧ pads ≤ 2 ∧ cs.length % 4 = 0

/-- A text has padding signs behind groups that are complete without them. -/
def Overpadded (cs : List Char) : Prop :=
  ∃ body pads, Padded cs body pads ∧ body ≠ [] ∧ body.length % 4 = 0 ∧ 0 < pads

/-- The bits of the letters of a text in a row. -/
def sextets (cs : List Char) : List Bool :=
  (cs.filter (· ≠ '=')).flatMap fun c => bits 6 (alphabet.idxOf c)

/-- The letters of a text spell bytes, with fewer than eight bits that are left. -/
def Spells (cs : List Char) (bs : List UInt8) : Prop :=
  ∃ rest, sextets cs = octets bs ++ rest ∧ rest.length < 8

theorem Spells.unique {cs : List Char} {bs bs' : List UInt8} (h : Spells cs bs)
    (h' : Spells cs bs') : bs = bs' := by
  obtain ⟨rest, heq, hrest⟩ := h
  obtain ⟨rest', heq', hrest'⟩ := h'
  exact octets_unique (heq.symm.trans heq') hrest hrest'

variable {cs body : List Char} {pads : Nat} {c : Char}

theorem value?_of_mem (h : c ∈ alphabet) :
    value? c = some (alphabet.idxOf c) ∧ alphabet.idxOf c < 64 ∧ c ≠ '=' := by
  -- over the letters of the list, and not over all characters
  have hall : alphabet.all fun c =>
      value? c = some (alphabet.idxOf c) ∧ alphabet.idxOf c < 64 ∧ c ≠ '=' := by decide +kernel
  simpa using List.all_eq_true.1 hall c h

theorem mem_alphabet_of_value? {v : Nat} (h : value? c = some v) : c ∈ alphabet := by
  have hall : ∀ v : Fin 64, letter v.val ∈ alphabet := by decide +kernel
  have hof {n : Nat} (hn : n = c.toNat) : Char.ofNat n = c := by rw [hn, Char.ofNat_toNat]
  obtain ⟨hv, hc⟩ : v < 64 ∧ letter v = c := by
    unfold value? at h
    simp only [Char.le_def, UInt32.le_iff_toNat_le, Char.reduceVal, UInt32.reduceToNat,
      Char.toNat_val] at h
    unfold letter
    split_ifs at h <;> cases h
    · exact ⟨by omega, by rw [if_pos (by omega), hof (by omega)]⟩
    · exact ⟨by omega, by rw [if_neg (by omega), if_pos (by omega), hof (by omega)]⟩
    · refine ⟨by omega, ?_⟩
      rw [if_neg (by omega), if_neg (by omega), if_pos (by omega), hof (by omega)]
    · exact ⟨by omega, by simp_all⟩
    · exact ⟨by omega, by simp_all⟩
  rw [← hc]
  exact hall ⟨v, hv⟩

/-! ### Reading letters -/

namespace Group

/-- How many bits a decoder holds back inside a group. -/
def width (g : Group) : Nat :=
  match g.letters with
  | 0 => 0
  | 1 => 6
  | 2 => 4
  | _ => 2

/-- The bits that a decoder holds back. -/
def held (g : Group) : List Bool :=
  Base64.bits g.width g.bits

/-- A decoder stands inside a group, with no more bits than it holds back there. -/
structure Sound (g : Group) : Prop where
  letters : g.letters < 4
  bits : g.bits < 2 ^ g.width

end Group

/-- A byte takes its first bits from those held back and the others from a letter, of which the last
are held back in turn. -/
theorem octets_byte {i j k q v : Nat} (hij : i + j = 8) (hjk : j + k = 6) (hq : q < 2 ^ i)
    (hv : v < 2 ^ 6) :
    octets [UInt8.ofNat (q * 2 ^ j + v / 2 ^ k)] ++ bits k (v % 2 ^ k) = bits i q ++ bits 6 v := by
  have hhigh : v / 2 ^ k < 2 ^ j := by
    rwa [Nat.div_lt_iff_lt_mul (Nat.two_pow_pos k), ← Nat.pow_add, hjk]
  have hbyte : q * 2 ^ j + v / 2 ^ k < 2 ^ 8 :=
    calc q * 2 ^ j + v / 2 ^ k < q * 2 ^ j + 2 ^ j := Nat.add_lt_add_left hhigh _
      _ = (q + 1) * 2 ^ j := (Nat.succ_mul q _).symm
      _ ≤ 2 ^ i * 2 ^ j := Nat.mul_le_mul_right _ hq
      _ = 2 ^ 8 := by rw [← Nat.pow_add, hij]
  have hfirst : (q * 2 ^ j + v / 2 ^ k) / 2 ^ j = q := by
    rw [Nat.mul_comm, Nat.mul_add_div (Nat.two_pow_pos j), Nat.div_eq_of_lt hhigh, Nat.add_zero]
  have hlast : (q * 2 ^ j + v / 2 ^ k) % 2 ^ j = v / 2 ^ k := by
    rw [Nat.mul_comm, Nat.mul_add_mod, Nat.mod_eq_of_lt hhigh]
  have hbits : bits 8 (q * 2 ^ j + v / 2 ^ k) = bits i q ++ bits j (v / 2 ^ k) := by
    rw [← hij, bits_add, hfirst, ← bits_mod j, hlast]
  rw [octets, List.flatMap_singleton, UInt8.toNat_ofNat_of_lt' hbyte, hbits, bits_mod,
    List.append_assoc, ← bits_add, hjk]

/-- **One letter more.**  What is written and what is held back are the bits that were held back,
with those of the letter behind them. -/
theorem push_spells {g : Group} (hg : g.Sound) {v : Nat} (hv : v < 64) :
    octets (g.push v).1.toList ++ (g.push v).2.held = g.held ++ bits 6 v ∧
      (g.push v).2.Sound ∧ (g.push v).2.letters = (g.letters + 1) % 4 ∧
      (g.push v).2.pads = g.pads ∧ (g.push v).2.padded = g.padded := by
  obtain ⟨letters, q, pads, padded⟩ := g
  obtain ⟨hletters, hq⟩ := hg
  have hcases : letters = 0 ∨ letters = 1 ∨ letters = 2 ∨ letters = 3 := by
    have : letters < 4 := hletters
    omega
  obtain rfl | rfl | rfl | rfl := hcases
  · exact ⟨rfl, ⟨(by decide : 1 < 4), hv⟩, rfl, rfl, rfl⟩
  · exact ⟨octets_byte (i := 6) (j := 2) (k := 4) rfl rfl hq hv,
      ⟨(by decide : 2 < 4), Nat.mod_lt v (by decide)⟩, rfl, rfl, rfl⟩
  · exact ⟨octets_byte (i := 4) (j := 4) (k := 2) rfl rfl hq hv,
      ⟨(by decide : 3 < 4), Nat.mod_lt v (by decide)⟩, rfl, rfl, rfl⟩
  · have h := octets_byte (i := 2) (j := 6) (k := 0) rfl rfl hq hv
    rw [Nat.pow_zero, Nat.div_one] at h
    have hnext : 0 = (3 + 1) % 4 := by decide
    exact ⟨h, ⟨(by decide : 0 < 4), (by decide : 0 < 2 ^ 0)⟩, hnext, rfl, rfl⟩

theorem decodeFrom_of_mem (hc : c ∈ alphabet) {g : Group} (hg : g.padded = false)
    (cs : List Char) :
    decodeFrom g (c :: cs) = (decodeFrom (g.push (alphabet.idxOf c)).2 cs).map
      ((g.push (alphabet.idxOf c)).1.toList ++ ·) := by
  obtain ⟨hvalue, -, hne⟩ := value?_of_mem hc
  rw [decodeFrom, if_neg hne, hvalue]
  simp only [hg, Bool.false_eq_true, if_false]
  rcases g.push (alphabet.idxOf c) with ⟨byte | byte, g'⟩
  · simp
  · rfl

/-- **A run of letters.**  By then the decoder has written and holds back the bits that it held back
before and those of the letters. -/
theorem decodeFrom_letters (h : ∀ c ∈ body, c ∈ alphabet) {g : Group} (hg : g.Sound)
    (hpadded : g.padded = false) :
    ∃ bs g', octets bs ++ g'.held = g.held ++ body.flatMap (fun c => bits 6 (alphabet.idxOf c)) ∧
      g'.Sound ∧ g'.letters = (g.letters + body.length) % 4 ∧ g'.pads = g.pads ∧
      g'.padded = false ∧
      ∀ cs, decodeFrom g (body ++ cs) = (decodeFrom g' cs).map (bs ++ ·) := by
  induction body generalizing g with
  | nil =>
    refine ⟨[], g, by simp [octets], hg, ?_, rfl, hpadded, fun cs => by simp⟩
    exact (Nat.mod_eq_of_lt hg.letters).symm
  | cons c body ih =>
    obtain ⟨hc, hbody⟩ := List.forall_mem_cons.1 h
    obtain ⟨hspells, hsound, hletters, hpads, hpadded'⟩ :=
      push_spells hg (value?_of_mem hc).2.1
    obtain ⟨bs, g', hbits, hg', hletters', hpads', hunpadded, hrun⟩ :=
      ih hbody hsound (hpadded'.trans hpadded)
    refine ⟨(g.push (alphabet.idxOf c)).1.toList ++ bs, g', ?_, hg', ?_, hpads'.trans hpads,
      hunpadded, fun cs => ?_⟩
    · rw [octets_append, List.append_assoc, hbits, ← List.append_assoc, hspells,
        List.append_assoc, List.flatMap_cons]
    · rw [hletters', hletters, Nat.mod_add_mod, List.length_cons, Nat.add_assoc, Nat.add_comm 1]
    · rw [List.cons_append, decodeFrom_of_mem hc hpadded, hrun, Option.map_map]
      simp only [Function.comp_def, List.append_assoc]

/-! ### Padding -/

/-- Padding closes a group of some letters: as many signs as letters are missing from it, and any
number of them where no group has begun. -/
def Closes (letters pads : Nat) : Prop :=
  letters = 0 ∨ letters = 2 ∧ pads = 2 ∨ letters = 3 ∧ pads = 1

theorem decodeFrom_nil (g : Group) :
    decodeFrom g [] = if g.letters = 0 then some [] else none := by
  rw [decodeFrom]

theorem decodeFrom_pad (g : Group) (cs : List Char) :
    decodeFrom g ('=' :: cs) =
      if 2 ≤ g.letters ∧ 4 ≤ g.letters + g.pads + 1 then if cs.isEmpty then some [] else none
      else decodeFrom { g with
        padded := true, pads := if 2 ≤ g.letters then g.pads + 1 else g.pads } cs := by
  rw [decodeFrom, if_pos rfl]

/-- Before the second letter of a group padding changes nothing. -/
theorem decodeFrom_early_pads {g : Group} (h : g.letters < 2) (pads : Nat) :
    decodeFrom g (List.replicate pads '=') = if g.letters = 0 then some [] else none := by
  induction pads generalizing g with
  | zero => exact decodeFrom_nil g
  | succ pads ih =>
    rw [List.replicate_succ, decodeFrom_pad, if_neg (by omega)]
    exact ih h

/-- **A text ends well if its padding closes the group.** -/
theorem decodeFrom_pads {g : Group} (hg : g.letters < 4) (hpads : g.pads = 0) (pads : Nat)
    (bs : List UInt8) :
    decodeFrom g (List.replicate pads '=') = some bs ↔ Closes g.letters pads ∧ bs = [] := by
  have hcases : g.letters < 2 ∨ g.letters = 2 ∨ g.letters = 3 := by omega
  unfold Closes
  obtain h | h | h := hcases
  · rw [decodeFrom_early_pads h]
    by_cases h0 : g.letters = 0
    · simp [h0, eq_comm]
    · rw [if_neg h0]
      have hne : ¬ (g.letters = 2) ∧ ¬ (g.letters = 3) := by omega
      simp [h0, hne]
  · match pads with
    | 0 => simp [decodeFrom_nil, h]
    | 1 => simp [decodeFrom_pad, decodeFrom_nil, h, hpads]
    | 2 => simp [List.replicate_succ, decodeFrom_pad, h, hpads, eq_comm]
    | pads + 3 => simp [List.replicate_succ, decodeFrom_pad, h, hpads]
  · match pads with
    | 0 => simp [decodeFrom_nil, h]
    | 1 => simp [decodeFrom_pad, h, hpads, eq_comm]
    | pads + 2 => simp [List.replicate_succ, decodeFrom_pad, h, hpads]

/-- Behind padding nothing but padding is read. -/
theorem decodeFrom_of_padded {g : Group} (hg : g.padded = true) (hne : c ≠ '=') (hmem : c ∈ cs) :
    decodeFrom g cs = none := by
  induction cs generalizing g with
  | nil => cases hmem
  | cons d cs ih =>
    by_cases hd : d = '='
    · subst hd
      have hmem : c ∈ cs := (List.mem_cons.1 hmem).resolve_left hne
      have hrest : cs.isEmpty = false := List.isEmpty_eq_false_iff.2 (List.ne_nil_of_mem hmem)
      rw [decodeFrom_pad, hrest]
      split
      · rfl
      · exact ih rfl hmem
    · rw [decodeFrom, if_neg hd]
      cases value? d with
      | none => rfl
      | some v => exact if_pos hg

/-- A text that goes on with no letter, and is read, goes on with padding. -/
theorem eq_pads_of_decodeFrom {g : Group} {bs : List UInt8} (hhead : ∀ c ∈ cs.head?, c ∉ alphabet)
    (h : decodeFrom g cs = some bs) : cs = List.replicate cs.length '=' := by
  cases cs with
  | nil => rfl
  | cons c cs =>
    have hletter : c ∉ alphabet := hhead c rfl
    by_cases hc : c = '='
    · subst hc
      refine List.eq_replicate_iff.2 ⟨rfl, List.forall_mem_cons.2 ⟨rfl, fun d hd => ?_⟩⟩
      by_contra hne
      have hrest : cs.isEmpty = false := List.isEmpty_eq_false_iff.2 (List.ne_nil_of_mem hd)
      rw [decodeFrom_pad, hrest, decodeFrom_of_padded rfl hne hd] at h
      simp at h
    · have hvalue : value? c = none := by
        cases hv : value? c with
        | none => rfl
        | some v => exact absurd (mem_alphabet_of_value? hv) hletter
      rw [decodeFrom, if_neg hc, hvalue] at h
      cases h

/-! ### Whole texts -/

theorem Padded.filter_eq (h : Padded cs body pads) : cs.filter (· ≠ '=') = body := by
  have hletters : body.filter (· ≠ '=') = body :=
    List.filter_eq_self.2 fun c hc => by simpa using (value?_of_mem (h.letters c hc)).2.2
  rw [h.eq, List.filter_append, hletters, List.filter_replicate]
  simp

theorem Padded.length_eq (h : Padded cs body pads) : cs.length = body.length + pads := by
  rw [h.eq, List.length_append, List.length_replicate]

theorem Padded.sextets_eq (h : Padded cs body pads) :
    sextets cs = body.flatMap fun c => bits 6 (alphabet.idxOf c) := by
  rw [sextets, h.filter_eq]

theorem Overpadded.not_isBase64 (h : Overpadded cs) : ¬ IsBase64 cs := by
  rintro ⟨body', pads', h', hle, hmod'⟩
  obtain ⟨body, pads, h, -, hmod, hpos⟩ := h
  obtain rfl : body = body' := h.filter_eq.symm.trans h'.filter_eq
  have hlength := h.length_eq
  have hlength' := h'.length_eq
  omega

theorem Padded.head?_eq_iff (h : Padded cs body pads) :
    cs.head? = some '=' ↔ body = [] ∧ 0 < pads := by
  rw [h.eq]
  cases body with
  | nil => cases pads <;> simp [List.replicate_succ]
  | cons c body => simpa using (value?_of_mem (h.letters c List.mem_cons_self)).2.2

/-- **A padded text is read as the bytes that it spells**, if its padding closes its last group and
does not stand alone. -/
theorem Padded.exists_spelled (h : Padded cs body pads) :
    ∃ bs, Spells cs bs ∧ ∀ bs', decode cs = some bs' ↔
      (Closes (body.length % 4) pads ∧ (body = [] → pads = 0)) ∧ bs' = bs := by
  have hstart : Group.Sound {} := ⟨by decide, by decide⟩
  obtain ⟨bs, g, hbits, hg, hletters, hpads, -, hrun⟩ := decodeFrom_letters h.letters hstart rfl
  rw [Nat.zero_add] at hletters
  refine ⟨bs, ⟨g.held, ?_, ?_⟩, fun bs' => ?_⟩
  · rw [h.sextets_eq, hbits]
    rfl
  · rw [Group.held, length_bits, Group.width]
    split <;> decide
  · rw [decode]
    split
    next hpad =>
      obtain ⟨hbody, hpos⟩ := h.head?_eq_iff.1 hpad
      simp only [reduceCtorEq, false_iff, not_and]
      exact fun halone => absurd (halone.2 hbody) (by omega)
    next hpad =>
      have halone : body = [] → pads = 0 := fun hbody => by
        by_contra hpos
        exact hpad (h.head?_eq_iff.2 ⟨hbody, Nat.pos_of_ne_zero hpos⟩)
      rw [h.eq, hrun, Option.map_eq_some_iff]
      simp only [decodeFrom_pads hg.letters hpads, hletters]
      constructor
      · rintro ⟨_, ⟨hcloses, rfl⟩, rfl⟩
        exact ⟨⟨hcloses, halone⟩, List.append_nil bs⟩
      · rintro ⟨⟨hcloses, -⟩, rfl⟩
        exact ⟨[], ⟨hcloses, rfl⟩, List.append_nil _⟩

theorem exists_padded_of_decode {bs : List UInt8} (h : decode cs = some bs) :
    ∃ body pads, Padded cs body pads := by
  have hletters : ∀ c ∈ cs.takeWhile (· ∈ alphabet), c ∈ alphabet := fun c hc => by
    simpa using List.mem_takeWhile_imp hc
  have hstart : Group.Sound {} := ⟨by decide, by decide⟩
  obtain ⟨_, g, -, -, -, -, -, hrun⟩ := decodeFrom_letters hletters hstart rfl
  have hread : decodeFrom {} cs = some bs := by
    unfold decode at h
    split at h
    next => cases h
    next => exact h
  have hsplit := List.takeWhile_append_dropWhile (p := (· ∈ alphabet)) (l := cs)
  rw [← hsplit, hrun] at hread
  obtain ⟨_, htail, -⟩ := Option.map_eq_some_iff.1 hread
  have hhead : ∀ c ∈ (cs.dropWhile (· ∈ alphabet)).head?, c ∉ alphabet := fun c hc => by
    have hstop := List.head?_dropWhile_not (· ∈ alphabet) cs
    rw [Option.mem_def] at hc
    simpa [hc] using hstop
  have hpads := eq_pads_of_decodeFrom hhead htail
  exact ⟨_, _, hletters, by rw [← hpads, hsplit]⟩

/-- The padding that a decoder accepts is that of base64, or too much of it. -/
theorem exists_accepted_iff :
    (∃ body pads, Padded cs body pads ∧ Closes (body.length % 4) pads ∧
      (body = [] → pads = 0)) ↔ IsBase64 cs ∨ Overpadded cs := by
  constructor
  · rintro ⟨body, pads, h, hcloses, halone⟩
    have hlength := h.length_eq
    by_cases hextra : body.length % 4 = 0 ∧ 0 < pads
    · refine .inr ⟨body, pads, h, fun hbody => ?_, hextra⟩
      exact absurd (halone hbody) (by omega)
    · refine .inl ⟨body, pads, h, ?_, ?_⟩ <;> unfold Closes at hcloses <;> omega
  · rintro (⟨body, pads, h, hle, hmod⟩ | ⟨body, pads, h, hne, hmod, -⟩)
    · have hlength := h.length_eq
      refine ⟨body, pads, h, ?_, ?_⟩
      · unfold Closes
        omega
      · rintro rfl
        rw [List.length_nil] at hlength
        omega
    · exact ⟨body, pads, h, .inl hmod, fun hbody => absurd hbody hne⟩

/-- **What is decoded.**  A text is decoded if it is base64 or complete groups with more padding than
they need, to the bytes that its letters spell. -/
theorem decode_eq_some_iff {bs : List UInt8} :
    decode cs = some bs ↔ (IsBase64 cs ∨ Overpadded cs) ∧ Spells cs bs := by
  rw [← exists_accepted_iff]
  constructor
  · intro h
    obtain ⟨body, pads, hpadded⟩ := exists_padded_of_decode h
    obtain ⟨bs', hspells, hiff⟩ := hpadded.exists_spelled
    obtain ⟨haccepted, rfl⟩ := (hiff bs).1 h
    exact ⟨⟨body, pads, hpadded, haccepted⟩, hspells⟩
  · rintro ⟨⟨body, pads, hpadded, haccepted⟩, hspells⟩
    obtain ⟨bs', hspells', hiff⟩ := hpadded.exists_spelled
    exact (hiff bs).2 ⟨haccepted, hspells.unique hspells'⟩

theorem exists_decode (h : IsBase64 cs ∨ Overpadded cs) :
    ∃ bs, decode cs = some bs ∧ ∀ bs', Spells cs bs' ↔ bs' = bs := by
  obtain ⟨body, pads, hpadded, -⟩ := exists_accepted_iff.2 h
  obtain ⟨bs, hspells, -⟩ := hpadded.exists_spelled
  refine ⟨bs, decode_eq_some_iff.2 ⟨h, hspells⟩, fun bs' => ⟨fun h' => h'.unique hspells, ?_⟩⟩
  rintro rfl
  exact hspells

end Harvest.Text.Base64
