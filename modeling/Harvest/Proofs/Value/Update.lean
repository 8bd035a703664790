import Harvest.Value.Basic
import Mathlib.Data.List.Induction

/-!
# Updating maps

`Entries.update` puts the entries of a list of pairs into a map, one after the other;
`Entries.ofList` updates the empty map.  Such a map answers with the last value of a key
(`get?_ofList_eq_some_iff`), and its keys stand in the order of their first pairs
(`keys_ofList`).  Updating with a map that was built from pairs is updating with the pairs
(`update_ofList`), which is why the results of two runs of rules compose.
-/

namespace Harvest.Entries

/-- A map with the pairs of a list put into it, in order. -/
def update (es : Entries) (pairs : List (String × Value)) : Entries :=
  pairs.foldl (fun acc e => put e.1 e.2 acc) es

@[simp] theorem update_nil (es : Entries) : es.update [] = es := rfl

@[simp] theorem update_cons (es : Entries) (e : String × Value) (pairs : List (String × Value)) :
    es.update (e :: pairs) = update (put e.1 e.2 es) pairs := rfl

theorem update_append (es : Entries) (ps qs : List (String × Value)) :
    es.update (ps ++ qs) = (es.update ps).update qs :=
  List.foldl_append ..

theorem ofList_append (ps qs : List (String × Value)) :
    ofList (ps ++ qs) = (ofList ps).update qs :=
  update_append [] ps qs

/-! ### Keys and answers -/

/-- A map has no answer exactly for what is none of its keys. -/
theorem get?_eq_none_iff {es : Entries} {key : String} : es.get? key = none ↔ key ∉ es.keys := by
  rw [get?, List.lookup_eq_none_iff, keys, List.mem_map]
  constructor
  · rintro h ⟨e, he, rfl⟩
    exact absurd (h e he) (by simp)
  · intro h e he
    exact bne_iff_ne.2 fun heq => h ⟨e, he, heq.symm⟩

theorem keys_append (es fs : Entries) : keys (es ++ fs) = keys es ++ keys fs :=
  List.map_append

/-- The keys of a map of pairs stand in the order of their first pairs. -/
theorem keys_ofList (pairs : List (String × Value)) :
    (ofList pairs).keys = (keys pairs).eraseDups := by
  -- from the back, since a put looks at the keys of all pairs before it
  induction pairs using List.reverseRecOn with
  | nil => rfl
  | append_singleton pairs e ih =>
    have hmem : e.1 ∈ (ofList pairs).keys ↔ e.1 ∈ keys pairs := by
      rw [ih, List.mem_eraseDups]
    have hnew : ((keys [e]).removeAll (keys pairs)).eraseDups =
        if e.1 ∈ keys pairs then [] else [e.1] := by
      change ([e.1].removeAll (keys pairs)).eraseDups = _
      by_cases h : e.1 ∈ keys pairs
      · simp [List.cons_removeAll, h]
      · simp [List.cons_removeAll, List.eraseDups_cons, h]
    rw [ofList_append, update_cons, update_nil, keys_put, keys_append, List.eraseDups_append, ← ih,
      hnew]
    by_cases h : e.1 ∈ keys pairs
    · rw [if_pos (hmem.2 h), if_pos h, List.append_nil]
    · rw [if_neg (mt hmem.1 h), if_neg h]

theorem put_of_not_mem {es : Entries} {key : String} (h : key ∉ es.keys) (v : Value) :
    put key v es = es ++ [(key, v)] := by
  induction es with
  | nil => rfl
  | cons e es ih =>
    obtain ⟨k, w⟩ := e
    simp only [keys, List.map_cons, List.mem_cons, not_or] at h
    rw [put, if_neg (Ne.symm h.1), ih h.2, List.cons_append]

theorem nodup_keys_put {es : Entries} (h : es.keys.Nodup) (key : String) (v : Value) :
    (keys (put key v es)).Nodup := by
  rw [keys_put]
  split_ifs with hmem
  · exact h
  · exact List.nodup_append.2 ⟨h, by simp, by rintro a ha b hb rfl; simp_all⟩

theorem nodup_keys_ofList (pairs : List (String × Value)) : (ofList pairs).keys.Nodup := by
  induction pairs using List.reverseRecOn with
  | nil => exact List.nodup_nil
  | append_singleton pairs e ih =>
    rw [ofList_append]
    exact nodup_keys_put ih e.1 e.2

theorem get?_ofList (pairs : List (String × Value)) (key : String) :
    (ofList pairs).get? key = get? pairs.reverse key := by
  induction pairs using List.reverseRecOn with
  | nil => rfl
  | append_singleton pairs e ih =>
    rw [ofList_append, update_cons, update_nil, get?_put, ih, List.reverse_append]
    exact (get?_cons ..).symm

/-- A map of pairs answers with the value of the last pair of the key. -/
theorem get?_ofList_eq_some_iff {pairs : List (String × Value)} {key : String} {v : Value} :
    (ofList pairs).get? key = some v ↔
      ∃ before after, pairs = before ++ (key, v) :: after ∧ ∀ e ∈ after, e.1 ≠ key := by
  rw [get?_ofList, get?, List.lookup_eq_some_iff]
  constructor
  · rintro ⟨after, before, hp, ha⟩
    refine ⟨before.reverse, after.reverse, ?_, fun e he => ?_⟩
    · rw [← List.reverse_reverse pairs, hp]
      simp
    · exact (bne_iff_ne.1 (ha e (List.mem_reverse.1 he))).symm
  · rintro ⟨before, after, rfl, ha⟩
    refine ⟨after.reverse, before.reverse, by simp, fun e he => ?_⟩
    exact bne_iff_ne.2 (ha e (List.mem_reverse.1 he)).symm

/-! ### Updates compose -/

/-- Puts under two keys commute when the first key is there already. -/
theorem put_comm {es : Entries} {k l : String} (hk : k ∈ es.keys) (hne : k ≠ l) (v w : Value) :
    put k v (put l w es) = put l w (put k v es) := by
  induction es with
  | nil => cases hk
  | cons e es ih =>
    obtain ⟨m, x⟩ := e
    by_cases hm : m = k
    · subst hm
      simp [put, hne]
    · have hk' : k ∈ keys es := by simpa [keys, Ne.symm hm] using hk
      by_cases hl : m = l
      · subst hl
        simp [put, hm]
      · simp [put, hm, hl, ih hk']

theorem put_put (es : Entries) (k : String) (v w : Value) : put k v (put k w es) = put k v es := by
  induction es with
  | nil => simp [put]
  | cons e es ih =>
    obtain ⟨l, x⟩ := e
    by_cases h : l = k
    · simp [put, h]
    · simp [put, h, ih]

theorem mem_keys_put (es : Entries) (k : String) (v : Value) : k ∈ keys (put k v es) := by
  rw [keys_put]
  split_ifs with h
  · exact h
  · simp

/-- A key that later pairs leave alone can be put before them. -/
theorem put_update_of_not_mem {es : Entries} {k : String} (hk : k ∈ es.keys) (v : Value)
    {pairs : List (String × Value)} (hp : k ∉ keys pairs) :
    put k v (es.update pairs) = update (put k v es) pairs := by
  induction pairs generalizing es with
  | nil => rfl
  | cons e pairs ih =>
    simp only [keys, List.map_cons, List.mem_cons, not_or] at hp
    have hk' : k ∈ keys (put e.1 e.2 es) := by
      rw [keys_put]
      split_ifs
      · exact hk
      · exact List.mem_append_left _ hk
    rw [update_cons, ih hk' hp.2, put_comm hk hp.1, update_cons]

/-- To update with a map into which a value was put is to update and then to put. -/
theorem update_put {es fs : Entries} (h : fs.keys.Nodup) (k : String) (v : Value) :
    es.update (put k v fs) = put k v (es.update fs) := by
  induction fs generalizing es with
  | nil => rfl
  | cons e fs ih =>
    obtain ⟨l, w⟩ := e
    have hnd : l ∉ keys fs ∧ (keys fs).Nodup := by simpa [keys] using h
    by_cases hl : l = k
    -- the value is put in place, and no later pair has its key
    · subst hl
      simp only [put, if_true, update_cons]
      rw [put_update_of_not_mem (mem_keys_put es l w) v hnd.1, put_put]
    · simp only [put, hl, if_false, update_cons]
      exact ih hnd.2

/-- **To update with a map of pairs is to update with the pairs.** -/
theorem update_ofList (es : Entries) (pairs : List (String × Value)) :
    es.update (ofList pairs) = es.update pairs := by
  induction pairs using List.reverseRecOn with
  | nil => rfl
  | append_singleton pairs e ih =>
    rw [ofList_append, update_cons, update_nil, update_put (nodup_keys_ofList pairs), ih,
      update_append, update_cons, update_nil]

end Harvest.Entries
