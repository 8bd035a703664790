import Harvest.Proofs.Path.Split

/-!
# Rendering what was split

Whatever the text of a path, with stray dots and brackets, leading zeros or digits of any script, it
is split into segments that can be written in a path (`proper_of_splitChars`).  So these segments are
rendered to a path that is split into them again, and they are the only ones for which that holds
(`split_render_iff`): to split and to render undo each other, but for the spelling of the path.

An index ends where its bracket closes, so a key behind indexes at the head of a path is read with a
dot in front of it or without one (`splitChars_indexes`).
-/

namespace Harvest.Path

variable {cs ds : List Char} {ss : List Segment}

/-- The characters of a key that the scan reads can be written as a key. -/
theorem proper_key (hne : cs ≠ []) (h : ∀ c ∈ cs, isKeyChar c = true) :
    (Segment.key (String.ofList cs)).Proper := by
  have hno {c : Char} (hc : isKeyChar c = false) : c ∉ cs := by
    intro hmem
    cases hc.symm.trans (h c hmem)
  refine ⟨fun hempty => hne ?_, ?_⟩
  · rw [← String.toList_ofList (l := cs), hempty]
    rfl
  · rw [String.toList_ofList]
    exact ⟨hno rfl, hno rfl, hno rfl⟩

/-- The number of an index that is not too long can be written as an index. -/
theorem proper_index (h : IsIndex ds) (hle : ds.length ≤ Text.Numeral.maxDigits) :
    (Segment.index (Text.digitsValue ds)).Proper :=
  (Text.length_toDigits_le h.1).trans hle

/-- **Every segment that a path is split into can be written in a path.** -/
theorem proper_of_splitChars (h : splitChars cs = .ok ss) : ∀ s ∈ ss, s.Proper := by
  -- to go on with a segment that can be written keeps all of them so
  have hcons {s : Segment} {rest : Except TooLong (List Segment)} (hs : s.Proper)
      (ih : ∀ {ts}, rest = .ok ts → ∀ t ∈ ts, t.Proper) {ts : List Segment}
      (h : rest.map (s :: ·) = .ok ts) : ∀ t ∈ ts, t.Proper := by
    cases rest with
    | error e => cases h
    | ok later =>
      cases h
      exact List.forall_mem_cons.2 ⟨hs, ih rfl⟩
  fun_induction splitChars cs generalizing ss with
  | case1 =>
    cases h
    simp
  | case2 c cs hc _ ih =>
    have hkey : ∀ d ∈ c :: cs.takeWhile isKeyChar, isKeyChar d = true :=
      List.forall_mem_cons.2 ⟨hc, fun d hd => List.mem_takeWhile_imp hd⟩
    exact hcons (proper_key (List.cons_ne_nil c _) hkey) ih h
  | case3 => cases h
  | case4 cs ds rest hread _ hshort _ ih =>
    obtain ⟨hds, -⟩ := bracketed?_eq_some_iff.1 hread
    exact hcons (proper_index hds (Nat.le_of_not_lt hshort)) ih h
  | case5 cs _ _ ih => exact ih h
  | case6 c cs _ _ ih => exact ih h

theorem toList_render_indexes (ns : List Nat) :
    (render (ns.map .index)).toList = renderRest (ns.map .index) := by
  cases ns with
  | nil => rfl
  | cons n ns => exact toList_join_render _

/-- Indexes at the head of a path are read before what follows them, whatever it is. -/
theorem splitChars_indexes {ns : List Nat} (h : ∀ n ∈ ns, (Segment.index n).Proper)
    (cs : List Char) :
    splitChars (renderRest (ns.map .index) ++ cs) =
      (splitChars cs).map (ns.map Segment.index ++ ·) := by
  induction ns with
  | nil =>
    change splitChars cs = (splitChars cs).map id
    cases splitChars cs <;> rfl
  | cons n ns ih =>
    obtain ⟨hn, hns⟩ := List.forall_mem_cons.1 h
    have htext : renderRest ((n :: ns).map .index) ++ cs =
        '[' :: (Nat.toDigits 10 n ++ ']' :: (renderRest (ns.map .index) ++ cs)) := by
      simp [renderRest, Segment.render, Text.natText]
    rw [htext, splitChars_bracket (isIndex_toDigits n) hn, ih hns, Text.digitsValue_toDigits]
    cases splitChars cs <;> rfl

/-- **To split and to render undo each other.**  Segments are split again from the path that they are
rendered to exactly if each of them can be written: a key is not empty and holds no dot or bracket,
and an index has no more digits than a numeral may have.  A key of digits stays a key.  And whatever
path some segments were split from, they are split again from the path that they are rendered to.
Where indexes stand at the head of a path, the first key behind them needs no dot. -/
theorem split_render_iff (ss : List Segment) :
    (split (render ss) = .ok ss ↔ ∀ s ∈ ss, s.Proper) ∧
    (∀ path, split path = .ok ss → split (render ss) = .ok ss) ∧
    ∀ ns : List Nat, (∀ n ∈ ns, (Segment.index n).Proper) → (∀ s ∈ ss, s.Proper) →
      split (render (ns.map .index) ++ render ss) = .ok (ns.map .index ++ ss) := by
  refine ⟨⟨proper_of_splitChars, split_render⟩, fun _ h => split_render (proper_of_splitChars h),
    fun ns hns hss => ?_⟩
  rw [split, String.toList_append, toList_render_indexes, splitChars_indexes hns]
  have hrest : splitChars (render ss).toList = .ok ss := split_render hss
  rw [hrest]
  rfl

/-- A key of digits behind an index; a path with stray brackets and dots and an index of other
digits, with a zero in front; and a key right behind an index. -/
theorem split_render_iff_pages :
    let pages : List Segment := [.key "pages", .index 12, .key "0"]
    let sloppy := "]..pages[[\u0660\u0663]].0["
    let cleaned : List Segment := [.key "pages", .index 3, .key "0"]
    ((∀ s ∈ pages, s.Proper) ∧ render pages = "pages[12].0" ∧
      split "pages[12].0" = .ok pages) ∧
    (split sloppy = .ok cleaned ∧ render cleaned = "pages[3].0" ∧
      split "pages[3].0" = .ok cleaned) ∧
    split "[7]pages[12].0" = .ok (.index 7 :: pages) := by
  intro pages sloppy cleaned
  have hproper : ∀ s ∈ pages, s.Proper := by decide
  have hsloppy : split sloppy = .ok cleaned := by decide +kernel
  have hseven : ∀ n ∈ [7], (Segment.index n).Proper := by decide
  obtain ⟨hiff, -, hbehind⟩ := split_render_iff pages
  exact ⟨⟨hproper, by decide, hiff.2 hproper⟩,
    ⟨hsloppy, by decide, (split_render_iff cleaned).2.1 sloppy hsloppy⟩,
    hbehind [7] hseven hproper⟩

end Harvest.Path
