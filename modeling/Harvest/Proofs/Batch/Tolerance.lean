import Harvest.Proofs.Batch.Records

/-!
# Strict and tolerant runs

A strict run stops at the first failure, a tolerant run puts a placeholder in its place and goes
on.  So either both yield the same records, of which none is a placeholder, or the first
placeholder of the tolerant run carries the message of the strict failure.  This is shown of the
documents of an item (`documentRecords_of_strict`), of an item (`itemRecords_of_strict`) and of
all items (`allRecords_of_strict`), each time with what stands before the failure; for whole runs
it is `strict_agrees_with_tolerant`.
-/

namespace Harvest.Batch

open Extraction

variable {E : Engine} {d : Defaults} {rules : List Rule}

/-- The settings with failures tolerated, or not. -/
def tolerating (d : Defaults) (b : Bool) : Defaults :=
  { d with continueOnFail := b }

@[simp] theorem load_tolerating (b : Bool) : load (tolerating d b) = load d := rfl

/-- No record is a placeholder. -/
def Clean (rs : List Record) : Prop :=
  ∀ r ∈ rs, r.error = none

theorem Clean.append {rs ss : List Record} (hr : Clean rs) (hs : Clean ss) : Clean (rs ++ ss) :=
  fun r h => (List.mem_append.1 h).elim (hr r) (hs r)

theorem not_clean_of_failure {item : Nat} {message : String} (before after : List Record) :
    ¬ Clean (before ++ .failure item message :: after) := by
  intro h
  have := h (.failure item message) (by simp)
  cases this

/-! ### Documents and items -/

variable (d rules) in
/-- A strict run over documents yields the records of all, or stops at the first that fails. -/
theorem documentRecords_of_strict (item : Nat) (documents : List String) :
    (documentRecords E (tolerating d false) rules item documents =
        .ok (documents.map (documentRecord E d rules item)) ∧
      Clean (documents.map (documentRecord E d rules item))) ∨
    ∃ before document after e, documents = before ++ document :: after ∧
      Clean (before.map (documentRecord E d rules item)) ∧
      documentRecord E d rules item document = .failure item (Error.extraction e).message ∧
      documentRecords E (tolerating d false) rules item documents = .error (.extraction e) := by
  induction documents with
  | nil => exact .inl ⟨rfl, by simp [Clean]⟩
  | cons document documents ih =>
    cases h : extractText E d.parser rules document with
    | error e =>
      have hstop : documentRecords E (tolerating d false) rules item (document :: documents) =
          .error (.extraction e) := by
        rw [documentRecords]
        simp only [tolerating, h]
        rfl
      exact .inr ⟨[], document, documents, e, rfl, by simp [Clean], documentRecord_of_error h,
        hstop⟩
    | ok json =>
      have hrecord : documentRecord E d rules item document = .success item json :=
        documentRecord_of_ok h
      have hcons : documentRecords E (tolerating d false) rules item (document :: documents) =
          (documentRecords E (tolerating d false) rules item documents).map
            (.success item json :: ·) := by
        rw [documentRecords]
        simp only [tolerating, h]
      rcases ih with ⟨hd, hclean⟩ | ⟨before, failing, after, e, rfl, hclean, hf, hd⟩
      · refine .inl ⟨by rw [hcons, hd, List.map_cons, hrecord]; rfl, ?_⟩
        rw [List.map_cons, hrecord]
        exact List.forall_mem_cons.2 ⟨rfl, hclean⟩
      · refine .inr ⟨document :: before, failing, after, e, rfl, ?_, hf, by rw [hcons, hd]; rfl⟩
        rw [List.map_cons, hrecord]
        exact List.forall_mem_cons.2 ⟨rfl, hclean⟩

/-- Records of an item that stand before its first failure: those of its first documents. -/
def Before (E : Engine) (d : Defaults) (rules : List Rule) (item : Nat) (v : Value)
    (rs : List Record) : Prop :=
  (rs = [] ∧ ∃ e, load d item v = .error e) ∨
    ∃ before document after, load d item v = .ok (before ++ document :: after) ∧
      rs = before.map (documentRecord E d rules item)

variable (d rules) in
/-- A strict run over an item yields its block, or stops at the first failure in it. -/
theorem itemRecords_of_strict (item : Nat) (v : Value) :
    (itemRecords E (tolerating d false) rules item v = .ok (itemBlock E d rules item v) ∧
      Clean (itemBlock E d rules item v)) ∨
    ∃ mine e after, Before E d rules item v mine ∧ Clean mine ∧
      itemBlock E d rules item v = mine ++ .failure item (Error.message e) :: after ∧
      itemRecords E (tolerating d false) rules item v = .error e := by
  unfold itemRecords loadedRecords
  rw [load_tolerating]
  cases hl : load d item v with
  | error e =>
    have hblock : itemBlock E d rules item v = [.failure item e.message] := by
      rw [itemBlock, hl]
    exact .inr ⟨[], .load e, [], .inl ⟨rfl, e, hl⟩, by simp [Clean], hblock, rfl⟩
  | ok documents =>
    have hblock : itemBlock E d rules item v = documents.map (documentRecord E d rules item) := by
      rw [itemBlock, hl]
    rw [hblock]
    rcases documentRecords_of_strict d rules item documents with
      ⟨hd, hclean⟩ | ⟨before, document, after, e, rfl, hclean, hf, hd⟩
    · exact .inl ⟨by simp only [hd], hclean⟩
    · refine .inr ⟨_, .extraction e, after.map (documentRecord E d rules item),
        .inr ⟨before, document, after, hl, rfl⟩, hclean, ?_, ?_⟩
      · rw [List.map_append, List.map_cons, hf]
      · simp only [hd]
        rfl

/-! ### All items -/

variable (d rules) in
/-- A strict run over items yields all blocks, or stops at the first item that fails. -/
theorem allRecords_of_strict (item : Nat) (vs : List Value) :
    (allRecords E (tolerating d false) rules item vs = .ok (blocksFrom E d rules item vs) ∧
      Clean (blocksFrom E d rules item vs)) ∨
    ∃ us v ws e, vs = us ++ v :: ws ∧
      allRecords E (tolerating d false) rules item us = .ok (blocksFrom E d rules item us) ∧
      Clean (blocksFrom E d rules item us) ∧
      itemRecords E (tolerating d false) rules (item + us.length) v = .error e := by
  induction vs generalizing item with
  | nil => exact .inl ⟨rfl, by simp [Clean]⟩
  | cons v vs ih =>
    rw [blocksFrom_cons]
    -- the first item that fails is this one, or it is found in the rest
    rcases itemRecords_of_strict d rules item v with
      ⟨hv, hclean⟩ | ⟨mine, e, after, -, -, -, hv⟩
    · rcases ih (item + 1) with ⟨hvs, hrest⟩ | ⟨us, w, ws, e, rfl, hus, hrest, hw⟩
      · refine .inl ⟨?_, hclean.append hrest⟩
        simp only [allRecords, hv, hvs]
        rfl
      · refine .inr ⟨v :: us, w, ws, e, rfl, ?_, ?_, ?_⟩
        · simp only [allRecords, hv, hus, blocksFrom_cons]
          rfl
        · rw [blocksFrom_cons]
          exact hclean.append hrest
        · rw [List.length_cons, ← Nat.add_assoc, Nat.add_right_comm]
          exact hw
    · exact .inr ⟨[], v, vs, e, rfl, rfl, by simp [Clean], hv⟩

/-! ### Whole runs -/

/-- A strict run over items stops at the item of an index with a failure.  The records before the
failure, which a tolerant run keeps, are those of the earlier items and of earlier documents of
the item. -/
structure StopsAt (E : Engine) (d : Defaults) (items : List Value) (payload : Value) (e : Error)
    (i : Nat) (earlier mine : List Record) : Prop where
  /-- There is an item of this index. -/
  lt : i < items.length
  /-- The items before it do not fail. -/
  before : (run E (tolerating d false) (items.take i) payload).records = .ok earlier
  /-- The item fails. -/
  fails : (run E (tolerating d false) (items.take (i + 1)) payload).records = .error e
  /-- The records of earlier items are no placeholders. -/
  earlier_clean : ∀ r ∈ earlier, r.error = none ∧ r.item < i
  /-- Nor are those of earlier documents. -/
  mine_clean : ∀ r ∈ mine, r.error = none ∧ r.item = i
  /-- The latter are those of the documents before one that fails; there are none of an item that
  fails as a whole. -/
  documents : mine = [] ∨ ∃ rules v, Rule.parse payload = .ok rules ∧ items[i]? = some v ∧
    Before E d rules i v mine

theorem stopsAt_of_parsed {payload : Value} {us ws : List Value} {v : Value} {e : Error}
    {mine : List Record} (ht : 1 ≤ d.threads) (hp : Rule.parse payload = .ok rules)
    (hus : allRecords E (tolerating d false) rules 0 us = .ok (blocksFrom E d rules 0 us))
    (hclean : Clean (blocksFrom E d rules 0 us))
    (hv : itemRecords E (tolerating d false) rules us.length v = .error e)
    (hbefore : Before E d rules us.length v mine) (hmine : Clean mine)
    (hblock : mine ⊆ itemBlock E d rules us.length v) :
    StopsAt E d (us ++ v :: ws) payload e us.length (blocksFrom E d rules 0 us) mine := by
  have hrun := run_of_parsed (E := E) (d := tolerating d false) ht hp
  have htake : (us ++ v :: ws).take (us.length + 1) = us ++ [v] :=
    List.take_length_add_append 1
  refine ⟨by simp, ?_, ?_, fun r hr => ⟨hclean r hr, ?_⟩, fun r hr => ⟨hmine r hr, ?_⟩,
    .inr ⟨rules, v, hp, by simp, hbefore⟩⟩
  · rw [List.take_left, hrun, hus]
  · rw [htake, hrun]
    exact allRecords_of_fails hus (by rwa [Nat.zero_add]) []
  · have := (item_of_mem_blocksFrom hr).2
    omega
  · exact item_of_mem_itemBlock (hblock hr)

/-- What a strict and a tolerant run over the same items yield: the same records without a
placeholder, or a failure and records of which the first placeholder stands for it. -/
inductive Agree (E : Engine) (d : Defaults) (items : List Value) (payload : Value) : Prop where
  /-- Nothing fails. -/
  | clean {rs : List Record} (hs : (run E (tolerating d false) items payload).records = .ok rs)
      (ht : (run E (tolerating d true) items payload).records = .ok rs) (h : Clean rs)
  /-- Something fails, and there is a first failure. -/
  | failing {e : Error} {i : Nat} {earlier mine after : List Record}
      (hs : (run E (tolerating d false) items payload).records = .error e)
      (ht : (run E (tolerating d true) items payload).records =
        .ok (earlier ++ mine ++ .failure i e.message :: after))
      (h : StopsAt E d items payload e i earlier mine)

theorem agree_of_parsed {payload : Value} (ht : 1 ≤ d.threads)
    (hp : Rule.parse payload = .ok rules) (items : List Value) : Agree E d items payload := by
  have hstrict := run_of_parsed (E := E) (d := tolerating d false) ht hp items
  have htolerant : (run E (tolerating d true) items payload).records =
      .ok (blocksFrom E d rules 0 items) :=
    (run_of_parsed (E := E) (d := tolerating d true) ht hp items).trans
      (allRecords_of_tolerant rfl 0 items)
  rcases allRecords_of_strict d rules 0 items with
    ⟨h, hclean⟩ | ⟨us, v, ws, e, rfl, hus, hclean, hv⟩
  · exact .clean (hstrict.trans h) htolerant hclean
  · have hfail := allRecords_of_fails hus hv ws
    rw [Nat.zero_add] at hv
    rcases itemRecords_of_strict d rules us.length v with
      ⟨hok, -⟩ | ⟨mine, e', after, hbefore, hmine, hblock, hv'⟩
    · rw [hv] at hok
      cases hok
    · cases hv.symm.trans hv'
      -- the tolerant run has the same blocks before the item, and its placeholder behind `mine`
      have hblocks : blocksFrom E d rules 0 (us ++ v :: ws) =
          blocksFrom E d rules 0 us ++ mine ++ .failure us.length (Error.message e) ::
            (after ++ blocksFrom E d rules (us.length + 1) ws) := by
        rw [blocksFrom_append, blocksFrom_cons, Nat.zero_add, hblock]
        simp
      rw [hblocks] at htolerant
      exact .failing (hstrict.trans hfail) htolerant
        (stopsAt_of_parsed ht hp hus hclean hv hbefore hmine (by simp [hblock]))

/-- A payload that is refused fails the first item before it is loaded. -/
theorem agree_of_refused {payload quoted : Value} {shown : String} {reason : Rule.Reason}
    (hp : Rule.parse payload = .error (.refused quoted shown reason)) (items : List Value) :
    Agree E d items payload := by
  cases items with
  | nil => exact .clean rfl rfl (by simp [Clean])
  | cons v vs =>
    have hstrict (ws : List Value) : (run E (tolerating d false) (v :: ws) payload).records =
        .error (.payload (.refused quoted shown reason)) := by
      rw [run, hp]
      rfl
    have htolerant : (run E (tolerating d true) (v :: vs) payload).records =
        .ok ((List.range (vs.length + 1)).map
          (Record.failure · (Rule.PayloadError.refused quoted shown reason).message)) := by
      rw [run, hp]
      rfl
    rw [List.range_succ_eq_map, List.map_cons] at htolerant
    have hstop : StopsAt E d (v :: vs) payload (.payload (.refused quoted shown reason)) 0 [] [] :=
      ⟨by simp, rfl, hstrict [], by simp, by simp, .inl rfl⟩
    exact .failing (hstrict vs) htolerant hstop

/-- **Strict and tolerant runs agree.**  A strict run yields records exactly when the tolerant
run yields no placeholder, and then both yield the same.  Where the strict run fails, the tolerant
run yields records of which the first placeholder has the message of the failure and the index of
the first item that fails; before it stand the records of earlier items and of earlier documents
of that item, none of them a placeholder. -/
theorem strict_agrees_with_tolerant (d : Defaults) (ht : 1 ≤ d.threads) {payload : Value}
    (hp : ∀ error, Rule.parse payload ≠ .error (.tooLong error)) (items : List Value) :
    ((∃ rs, (run E (tolerating d false) items payload).records = .ok rs) ↔
      ∃ rs, (run E (tolerating d true) items payload).records = .ok rs ∧
        ∀ r ∈ rs, r.error = none) ∧
    (∀ rs, (run E (tolerating d false) items payload).records = .ok rs →
      (run E (tolerating d true) items payload).records = .ok rs) ∧
    ∀ e, (run E (tolerating d false) items payload).records = .error e →
      ∃ i earlier mine after,
        (run E (tolerating d true) items payload).records =
          .ok (earlier ++ mine ++ ⟨[("error", .text e.message)], i, some e.message⟩ :: after) ∧
        StopsAt E d items payload e i earlier mine := by
  have hagree : Agree E d items payload := by
    cases h : Rule.parse payload with
    | ok rules => exact agree_of_parsed ht h items
    | error e =>
      cases e with
      | refused quoted shown reason => exact agree_of_refused h items
      | tooLong error => exact absurd h (hp error)
  rcases hagree with ⟨hs, hl, hclean⟩ | ⟨hs, hl, hstop⟩
  · rw [hs, hl]
    refine ⟨⟨fun _ => ⟨_, rfl, hclean⟩, fun _ => ⟨_, rfl⟩⟩, fun rs h => h, fun e h => ?_⟩
    cases h
  · rw [hs, hl]
    refine ⟨⟨fun ⟨rs, h⟩ => ?_, fun ⟨rs, h, hclean⟩ => ?_⟩, fun rs h => ?_, fun e h => ?_⟩
    · cases h
    · cases h
      exact absurd hclean (not_clean_of_failure _ _)
    · cases h
    · cases h
      exact ⟨_, _, _, _, rfl, hstop⟩

/-- The strict run over `uneven` stops at the second document of the first item. -/
theorem strict_agrees_with_tolerant_uneven :
    (1 ≤ ({} : Defaults).threads ∧
      ∀ error, Rule.parse paragraphPayload ≠ .error (.tooLong error)) ∧
    ∃ e, (run Engine.html (tolerating {} false) uneven paragraphPayload).records = .error e ∧
      ∃ i earlier mine after,
        (run Engine.html (tolerating {} true) uneven paragraphPayload).records =
          .ok (earlier ++ mine ++ ⟨[("error", .text e.message)], i, some e.message⟩ :: after) ∧
        StopsAt Engine.html {} uneven paragraphPayload e i earlier mine := by
  have ht : 1 ≤ ({} : Defaults).threads := by decide
  have hp (error : Text.Numeral.TooLong) :
      Rule.parse paragraphPayload ≠ .error (.tooLong error) := by
    rw [parse_paragraphPayload]
    simp
  obtain ⟨e, he⟩ :
      ∃ e, (run Engine.html (tolerating {} false) uneven paragraphPayload).records = .error e :=
    exists_error_of_isOk_eq_false (by decide +kernel)
  exact ⟨⟨ht, hp⟩, e, he, (strict_agrees_with_tolerant {} ht hp uneven).2.2 e he⟩

end Harvest.Batch
