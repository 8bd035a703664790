import Harvest.Path
import Harvest.Proofs.Text.Digit
import Mathlib.Data.List.Basic
import Mathlib.Data.List.Infix
import Mathlib.Data.List.TakeWhile

/-!
# Splitting paths

A path is split in one scan.  The scan reads keys up to the next dot or bracket and indexes in
brackets (`bracketed?_eq_some_iff`); it passes over dots and over brackets that belong to no index.

What `Path.render` writes is split again into the same segments, if they can be written at all
(`Segment.Proper`, `split_render`).  Only an index that is too long makes a path fail to split,
wherever it stands: nothing that the scan reads or passes over holds an opening bracket, so none is
missed (`splitChars_of_holds_long`).
-/

namespace Harvest.Path

open Text (isDigit_of_ascii isDigit_of_mem_toDigits toDigits_ne_nil digitsValue_toDigits)

variable {cs ds rest : List Char}

/-- To go on with a result makes no error and hides none. -/
theorem map_eq_error_iff {α β : Type} {f : α → β} {x : Except TooLong α} {e : TooLong} :
    x.map f = .error e ↔ x = .error e := by
  cases x <;> simp [Except.map]

theorem isKeyChar_iff {c : Char} : isKeyChar c = true ↔ c ≠ '.' ∧ c ≠ '[' ∧ c ≠ ']' := by
  simp [isKeyChar, and_assoc]

/-! ### Indexes in brackets -/

/-- The digits of an index: at least one, of any script. -/
def IsIndex (ds : List Char) : Prop :=
  ds ≠ [] ∧ ∀ d ∈ ds, Text.isDigit d = true

/-- The digits of a number can stand in brackets. -/
theorem isIndex_toDigits (n : Nat) : IsIndex (Nat.toDigits 10 n) :=
  ⟨toDigits_ne_nil n, fun d hd => isDigit_of_ascii (isDigit_of_mem_toDigits d hd)⟩

/-- Digits in brackets. -/
def bracket (ds : List Char) : List Char :=
  '[' :: (ds ++ [']'])

/-- **An index is read where digits stand in brackets**, and nowhere else. -/
theorem bracketed?_eq_some_iff : bracketed? cs = some (ds, rest) ↔
    IsIndex ds ∧ cs = ds ++ ']' :: rest := by
  constructor
  · intro h
    unfold bracketed? at h
    split at h
    next d ds' rest' htake hdrop =>
      cases h
      refine ⟨⟨List.cons_ne_nil d ds', fun c hc => ?_⟩, ?_⟩
      · exact List.mem_takeWhile_imp (htake ▸ hc)
      · rw [← htake, ← hdrop, List.takeWhile_append_dropWhile]
    next => cases h
  · rintro ⟨⟨hne, hdigits⟩, rfl⟩
    obtain ⟨d, ds, rfl⟩ := List.exists_cons_of_ne_nil hne
    have hstop : Text.isDigit ']' = false := rfl
    unfold bracketed?
    rw [List.takeWhile_append_of_pos hdigits, List.dropWhile_append_of_pos hdigits,
      List.takeWhile_cons_of_neg (by simp [hstop]), List.dropWhile_cons_of_neg (by simp [hstop]),
      List.append_nil]
    rfl

/-! ### The steps of the scan -/

theorem splitChars_key {c : Char} (h : isKeyChar c = true) (cs : List Char) :
    splitChars (c :: cs) = (splitChars (cs.dropWhile isKeyChar)).map fun ss =>
      .key (String.ofList (c :: cs.takeWhile isKeyChar)) :: ss := by
  rw [splitChars, if_pos h]

theorem splitChars_dot (cs : List Char) : splitChars ('.' :: cs) = splitChars cs := by
  rw [splitChars, if_neg (by decide), if_neg (by decide)]

theorem splitChars_bracket (h : IsIndex ds) (hle : ds.length ≤ Text.Numeral.maxDigits)
    (rest : List Char) :
    splitChars ('[' :: (ds ++ ']' :: rest)) =
      (splitChars rest).map fun ss => .index (Text.digitsValue ds) :: ss := by
  have hread : bracketed? (ds ++ ']' :: rest) = some (ds, rest) :=
    bracketed?_eq_some_iff.2 ⟨h, rfl⟩
  rw [splitChars, if_neg (by decide), if_pos rfl]
  split
  next ds' rest' heq =>
    cases hread.symm.trans heq
    rw [if_neg (Nat.not_lt.2 hle)]
  next heq => cases hread.symm.trans heq

/-! ### Rendered paths -/

/-- A segment that can be written in a path: a key is not empty and holds no dot or bracket, and an
index has no more digits than a numeral may have. -/
def Segment.Proper : Segment → Prop
  | .key s => s ≠ "" ∧ '.' ∉ s.toList ∧ '[' ∉ s.toList ∧ ']' ∉ s.toList
  | .index n => (Nat.toDigits 10 n).length ≤ Text.Numeral.maxDigits

instance : DecidablePred Segment.Proper
  | .key s => inferInstanceAs
      (Decidable (s ≠ "" ∧ '.' ∉ s.toList ∧ '[' ∉ s.toList ∧ ']' ∉ s.toList))
  | .index n => inferInstanceAs (Decidable ((Nat.toDigits 10 n).length ≤ Text.Numeral.maxDigits))

/-- Some segments as they are written behind others. -/
def renderRest (ss : List Segment) : List Char :=
  ss.flatMap fun s => s.render.toList

theorem toList_join_render (ss : List Segment) :
    (String.join (ss.map Segment.render)).toList = renderRest ss := by
  rw [String.toList_join, List.flatMap_map, renderRest]

/-- No key goes on where a segment follows. -/
theorem not_isKeyChar_of_renderRest {ss : List Segment} {c : Char}
    (h : c ∈ (renderRest ss).head?) : isKeyChar c = false := by
  cases ss with
  | nil => cases h
  | cons s ss =>
    cases s with
    | key s =>
      have hc : (renderRest (.key s :: ss)).head? = some '.' := by
        simp [renderRest, Segment.render]
      cases hc.symm.trans h
      rfl
    | index n =>
      have hc : (renderRest (.index n :: ss)).head? = some '[' := by
        simp [renderRest, Segment.render]
      cases hc.symm.trans h
      rfl

theorem splitChars_key_render {s : String} (h : (Segment.key s).Proper) (ss : List Segment) :
    splitChars (s.toList ++ renderRest ss) =
      (splitChars (renderRest ss)).map fun rest => .key s :: rest := by
  obtain ⟨hne, hdot, hopen, hclose⟩ := h
  have hkey : ∀ c ∈ s.toList, isKeyChar c = true := fun c hc =>
    isKeyChar_iff.2 ⟨ne_of_mem_of_not_mem hc hdot, ne_of_mem_of_not_mem hc hopen,
      ne_of_mem_of_not_mem hc hclose⟩
  have hs : String.ofList s.toList = s := String.ofList_toList
  cases hcs : s.toList with
  | nil =>
    rw [hcs] at hs
    exact absurd hs.symm hne
  | cons c cs =>
    rw [hcs] at hkey hs
    obtain ⟨hc, hcs⟩ := List.forall_mem_cons.1 hkey
    -- the key ends where the next segment starts
    have htake : (cs ++ renderRest ss).takeWhile isKeyChar = cs := by
      rw [List.takeWhile_append_of_pos hcs]
      cases hrest : renderRest ss with
      | nil => exact List.append_nil cs
      | cons d rest =>
        have hd : isKeyChar d = false := not_isKeyChar_of_renderRest (by rw [hrest]; rfl)
        rw [List.takeWhile_cons_of_neg (by simp [hd]), List.append_nil]
    have hdrop : (cs ++ renderRest ss).dropWhile isKeyChar = renderRest ss := by
      have h := List.takeWhile_append_dropWhile (p := isKeyChar) (l := cs ++ renderRest ss)
      rw [htake] at h
      exact List.append_cancel_left h
    rw [List.cons_append, splitChars_key hc, htake, hdrop, hs]

theorem splitChars_renderRest {ss : List Segment} (h : ∀ s ∈ ss, s.Proper) :
    splitChars (renderRest ss) = .ok ss := by
  induction ss with
  | nil =>
    rw [renderRest, List.flatMap_nil, splitChars]
  | cons s ss ih =>
    obtain ⟨hs, hss⟩ := List.forall_mem_cons.1 h
    have hcons : renderRest (s :: ss) = s.render.toList ++ renderRest ss := List.flatMap_cons
    cases s with
    | key s =>
      have htext : (Segment.key s).render.toList = '.' :: s.toList := by
        simp [Segment.render]
      rw [hcons, htext, List.cons_append, splitChars_dot, splitChars_key_render hs, ih hss]
      rfl
    | index n =>
      have htext : (Segment.index n).render.toList ++ renderRest ss =
          '[' :: (Nat.toDigits 10 n ++ ']' :: renderRest ss) := by
        simp [Segment.render, Text.natText]
      rw [hcons, htext, splitChars_bracket (isIndex_toDigits n) hs, ih hss, digitsValue_toDigits]
      rfl

/-- **A rendered path is split into the segments that it was rendered from.** -/
theorem split_render {ss : List Segment} (h : ∀ s ∈ ss, s.Proper) : split (render ss) = .ok ss := by
  cases ss with
  | nil => exact splitChars_renderRest h
  | cons s ss =>
    have hrest := splitChars_renderRest h
    cases s with
    | key s =>
      -- a dot before the first key would make no difference
      have htext : renderRest (.key s :: ss) = '.' :: (render (.key s :: ss)).toList := by
        rw [render, String.toList_append, toList_join_render]
        simp [renderRest, Segment.render]
      rwa [htext, splitChars_dot] at hrest
    | index n =>
      rw [split, render.eq_def]
      simp only
      rwa [toList_join_render]

/-! ### Paths that cannot be split -/

/-- A path holds an index with these digits, which are too many. -/
def HoldsLong (cs ds : List Char) : Prop :=
  IsIndex ds ∧ Text.Numeral.maxDigits < ds.length ∧ bracket ds <:+: cs

/-- What starts with a bracket is not found in what holds none, nor across its end. -/
theorem infix_of_append {a : Char} {g pre l : List Char} (h : a ∉ pre)
    (hg : a :: g <:+: pre ++ l) : a :: g <:+: l := by
  induction pre with
  | nil => exact hg
  | cons b pre ih =>
    rw [List.mem_cons, not_or] at h
    obtain hprefix | hinfix := List.infix_cons_iff.1 hg
    · exact absurd (List.cons_prefix_cons.1 hprefix).1 h.1
    · exact ih h.2 hinfix

/-- Digits in brackets at the head of a path are read as an index. -/
theorem exists_bracketed?_of_append {c : Char} (hds : IsIndex ds) (h : bracket ds <+: c :: cs) :
    c = '[' ∧ ∃ rest, bracketed? cs = some (ds, rest) := by
  obtain ⟨hc, rest, hrest⟩ := List.cons_prefix_cons.1 h
  refine ⟨hc.symm, rest, bracketed?_eq_some_iff.2 ⟨hds, ?_⟩⟩
  rw [← hrest, List.append_assoc, List.singleton_append]

/-- A path that cannot be split holds an index that is too long. -/
theorem holds_long_of_splitChars {e : TooLong} (h : splitChars cs = .error e) :
    ∃ ds, HoldsLong cs ds ∧ e = ⟨ds.length⟩ := by
  have hsuffix {whole tail : List Char} (hs : tail <:+ whole)
      (h : ∃ ds, HoldsLong tail ds ∧ e = ⟨ds.length⟩) :
      ∃ ds, HoldsLong whole ds ∧ e = ⟨ds.length⟩ := by
    obtain ⟨ds, ⟨hds, hlong, hinfix⟩, he⟩ := h
    exact ⟨ds, ⟨hds, hlong, hinfix.trans hs.isInfix⟩, he⟩
  fun_induction splitChars cs with
  | case1 => cases h
  | case2 c cs hc _ ih =>
    have htail : cs.dropWhile isKeyChar <:+ c :: cs :=
      (List.dropWhile_suffix _).trans (List.suffix_cons c cs)
    exact hsuffix htail (ih (map_eq_error_iff.1 h))
  | case3 cs ds rest hread _ hlong _ =>
    cases h
    obtain ⟨hds, rfl⟩ := bracketed?_eq_some_iff.1 hread
    refine ⟨ds, ⟨hds, hlong, ?_⟩, rfl⟩
    have hprefix : bracket ds <+: '[' :: (ds ++ ']' :: rest) := ⟨rest, by simp [bracket]⟩
    exact hprefix.isInfix
  | case4 cs ds rest hread _ _ _ ih =>
    obtain ⟨-, rfl⟩ := bracketed?_eq_some_iff.1 hread
    have htail : rest <:+ '[' :: (ds ++ ']' :: rest) := ⟨'[' :: (ds ++ [']']), by simp⟩
    exact hsuffix htail (ih (map_eq_error_iff.1 h))
  | case5 cs _ _ ih => exact hsuffix (List.suffix_cons '[' cs) (ih h)
  | case6 c cs _ _ ih => exact hsuffix (List.suffix_cons c cs) (ih h)

/-- A path that holds an index that is too long cannot be split. -/
theorem splitChars_of_holds_long (h : HoldsLong cs ds) : ∃ e, splitChars cs = .error e := by
  obtain ⟨hds, hlong, hinfix⟩ := h
  fun_induction splitChars cs with
  | case1 => cases List.infix_nil.1 hinfix
  | case2 c cs hc _ ih =>
    -- no bracket stands in the key
    have hkey : '[' ∉ c :: cs.takeWhile isKeyChar := by
      intro hmem
      have hbad : isKeyChar '[' = true := by
        obtain heq | hmem := List.mem_cons.1 hmem
        · exact heq ▸ hc
        · exact List.mem_takeWhile_imp hmem
      cases hbad
    have hsplit : c :: cs = (c :: cs.takeWhile isKeyChar) ++ cs.dropWhile isKeyChar := by
      rw [List.cons_append, List.takeWhile_append_dropWhile]
    rw [hsplit] at hinfix
    exact (ih (infix_of_append hkey hinfix)).imp fun _ => map_eq_error_iff.2
  | case3 => exact ⟨_, rfl⟩
  | case4 cs ds' rest hread _ hshort _ ih =>
    obtain hprefix | hinfix := List.infix_cons_iff.1 hinfix
    · obtain ⟨-, rest', hread'⟩ := exists_bracketed?_of_append hds hprefix
      cases hread.symm.trans hread'
      exact absurd hlong hshort
    · -- no bracket opens among the digits or where they end
      obtain ⟨⟨-, hdigits⟩, rfl⟩ := bracketed?_eq_some_iff.1 hread
      have hno : '[' ∉ ds' ++ [']'] := by
        intro hmem
        obtain hmem | hmem := List.mem_append.1 hmem
        · cases hdigits _ hmem
        · cases List.mem_singleton.1 hmem
      rw [← List.singleton_append, ← List.append_assoc] at hinfix
      exact (ih (infix_of_append hno hinfix)).imp fun _ => map_eq_error_iff.2
  | case5 cs hread _ ih =>
    obtain hprefix | hinfix := List.infix_cons_iff.1 hinfix
    · obtain ⟨-, rest, hread'⟩ := exists_bracketed?_of_append hds hprefix
      cases hread.symm.trans hread'
    · exact ih hinfix
  | case6 c cs _ hc ih =>
    obtain hprefix | hinfix := List.infix_cons_iff.1 hinfix
    · exact absurd (exists_bracketed?_of_append hds hprefix).1 hc
    · exact ih hinfix

/-- **A path fails to split exactly if it holds an index that is too long.** -/
theorem exists_split_error_iff {path : String} :
    (∃ e, split path = .error e) ↔ ∃ ds, HoldsLong path.toList ds := by
  constructor
  · rintro ⟨e, he⟩
    obtain ⟨ds, hds, -⟩ := holds_long_of_splitChars he
    exact ⟨ds, hds⟩
  · rintro ⟨ds, hds⟩
    exact splitChars_of_holds_long hds

end Harvest.Path
