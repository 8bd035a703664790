import Harvest.Output.Sink
import Harvest.Proofs.Batch.Records
import Harvest.Proofs.Extraction.Portable
import Harvest.Proofs.Extraction.Reach
import Harvest.Proofs.Json.Refusal
import Harvest.Proofs.Text.Fold

/-!
# What is extracted mirrors the rules

A map `Mirrors` a list of rules at a node when each of its keys is the name of a rule that searches,
with the value that the last such rule to write there made, when that value is as the rule declares,
and when no rule for all matches misses its key.  What a rule declares is said by `Makes`, for one
node that the rule matches: tidy text, an attribute's text, or a map that mirrors the nested rules at
that node; and by `Conforms` for all that the rule writes.

Main statement: whatever rules yield mirrors them, at every depth (`mirrors_resolve`), and it has a
JSON form; so has every record of a batch, which a sink can only fail to save because of its file
(`output_mirrors_rules`).
-/

namespace Harvest

/-- A rule takes part only if it searches: its selector is there and is not empty. -/
def Rule.Searches (r : Rule) : Prop :=
  ∃ selector, r.selector = some selector ∧ selector ≠ ""

namespace Extraction

variable {ν α β : Type}

/-! ### Values and maps of rules -/

mutual
/-- A value is one that a rule makes of a node. -/
inductive Makes (view : View ν) : Rule → ν → Value → Prop
  /-- A rule for text makes tidy text. -/
  | text {r : Rule} {m : ν} {s : String} (hk : r.kind = .ok .text) (hs : Text.Tidy s) :
      Makes view r m (.text s)
  /-- A rule for an attribute makes text. -/
  | attr {r : Rule} {m : ν} {s : String} (hk : r.kind = .ok .attr) : Makes view r m (.text s)
  /-- A rule for a map makes one that mirrors its nested rules. -/
  | object {r : Rule} {m : ν} {rules : List Rule} {es : Entries} (hk : r.kind = .ok .object)
      (hn : r.nested = .ok rules) (h : Mirrors view m rules es) : Makes view r m (.map es)

/-- Values are those that a rule makes of some nodes, one for each and in order. -/
inductive MakesAll (view : View ν) : Rule → List ν → List Value → Prop
  | nil {r : Rule} : MakesAll view r [] []
  | cons {r : Rule} {m : ν} {ms : List ν} {v : Value} {vs : List Value} (h : Makes view r m v)
      (hs : MakesAll view r ms vs) : MakesAll view r (m :: ms) (v :: vs)

/-- A value is as a rule declares what it writes, at a node where it is applied. -/
inductive Conforms (view : View ν) : ν → Rule → Value → Prop
  /-- The value of the first match. -/
  | first {node m : ν} {ms : List ν} {r : Rule} {selector : String} {v : Value}
      (hm : r.multi ≠ some true) (hs : r.selector = some selector)
      (hf : view.find node selector = .nodes (m :: ms)) (h : Makes view r m v) :
      Conforms view node r v
  /-- The list of the values of all matches. -/
  | all {node : ν} {ms : List ν} {r : Rule} {selector : String} {vs : List Value}
      (hm : r.multi = some true) (hs : r.selector = some selector)
      (hf : view.find node selector = .nodes ms) (h : MakesAll view r ms vs) :
      Conforms view node r (.list vs)

/-- A map mirrors a list of rules that are applied at a node. -/
inductive Mirrors (view : View ν) : ν → List Rule → Entries → Prop
  /-- Every key is there once, every entry is what the last rule to write it wrote, what a rule
  wrote is as it declares, and a rule for all matches has its key. -/
  | intro {node : ν} {rules : List Rule} {es : Entries} (nodup : es.keys.Nodup)
      (last : ∀ key v, es.get? key = some v → ∃ before r after,
        rules = before ++ r :: after ∧ r.name = key ∧ r.Searches ∧
          written view node r = some v ∧
          ∀ r' ∈ after, r'.name = key → written view node r' = none)
      (conforms : ∀ r ∈ rules, ∀ v, written view node r = some v → Conforms view node r v)
      (present : ∀ r ∈ rules, r.Searches → r.multi = some true → r.name ∈ es.keys) :
      Mirrors view node rules es
end

/-! ### What a rule writes -/

variable {view : View ν} {node : ν}

theorem searches_of_applyRule {r : Rule} {v : Value}
    (h : (applyRule view node r).outcome = .ok (some v)) : r.Searches := by
  unfold applyRule apply at h
  split at h
  · cases h
  · cases h
  next selector hne hs => exact ⟨selector, hs, hne⟩

theorem applyRule_of_searches {r : Rule} {selector : String} (hs : r.selector = some selector)
    (hne : selector ≠ "") :
    (applyRule view node r).outcome =
      (collect r r.plan (fun m => follow view r r.plan m) (view.find node selector)).outcome := by
  unfold applyRule apply
  split
  next h => cases hs.symm.trans h
  next h => cases hs.symm.trans h; exact absurd rfl hne
  next s _ h =>
    cases hs.symm.trans h
    rw [Run.bind_of_ok rfl]

/-- What a rule wrote is what its run yields. -/
theorem written_eq_some_iff {r : Rule} {v : Value} :
    written view node r = some v ↔ (applyRule view node r).outcome = .ok (some v) := by
  refine ⟨fun h => ?_, written_of_outcome⟩
  cases ho : (applyRule view node r).outcome with
  | error failure =>
    rw [written, resolve_singleton, Run.map, ho] at h
    cases h
  | ok w => rw [← h, written_of_outcome ho]

theorem exists_outcome_applyRule {rules : List Rule} {es : Entries}
    (h : (resolve view node rules).outcome = .ok es) {r : Rule} (hr : r ∈ rules) :
    ∃ stored, (applyRule view node r).outcome = .ok stored := by
  induction rules generalizing es with
  | nil => cases hr
  | cons r' rules ih =>
    rw [resolve_cons, Run.outcome_bind_eq_ok_iff] at h
    obtain ⟨stored, hstored, h⟩ := h
    obtain ⟨fs, hfs, -⟩ := Run.outcome_map_eq_ok_iff.1 h
    rcases List.mem_cons.1 hr with rfl | hr
    · exact ⟨stored, hstored⟩
    · exact ih hfs hr

theorem Run.outcome_forAll_eq_ok {f : α → Run ν β} {a : α} {as : List α} {bs : List β}
    (h : (Run.forAll f (a :: as)).outcome = .ok bs) :
    ∃ b rest, (f a).outcome = .ok b ∧ (Run.forAll f as).outcome = .ok rest ∧ bs = b :: rest := by
  obtain ⟨b, hb, h⟩ := Run.outcome_bind_eq_ok_iff.1 h
  obtain ⟨rest, hrest, rfl⟩ := Run.outcome_map_eq_ok_iff.1 h
  exact ⟨b, rest, hb, hrest, rfl⟩

/-- What a rule stores of the answer to its search, if it stores anything. -/
theorem collect_eq_ok {r : Rule} {p : Plan} {value : ν → Run ν Value} {answer : Answer ν}
    {stored : Option Value} (h : (collect r p value answer).outcome = .ok stored) :
    (r.multi ≠ some true ∧ stored = none) ∨
    (r.multi ≠ some true ∧ ∃ m ms v, answer = .nodes (m :: ms) ∧ stored = some v ∧
      (value m).outcome = .ok v) ∨
    r.multi = some true ∧ ∃ ms vs, answer = .nodes ms ∧ stored = some (.list vs) ∧
      (Run.forAll value ms).outcome = .ok vs := by
  unfold collect at h
  split at h
  · cases h
  · cases h
  · split at h
    · obtain ⟨-, -, h⟩ := Run.outcome_bind_eq_ok_iff.1 h
      cases h
    next hm =>
      cases h
      exact .inl ⟨hm, rfl⟩
  next ms =>
    split at h
    next hm =>
      obtain ⟨-, -, h⟩ := Run.outcome_bind_eq_ok_iff.1 h
      obtain ⟨vs, hvs, rfl⟩ := Run.outcome_map_eq_ok_iff.1 h
      exact .inr (.inr ⟨hm, ms, vs, rfl, rfl, hvs⟩)
    next hm =>
      split at h
      · cases h
        exact .inl ⟨hm, rfl⟩
      next m ms =>
        obtain ⟨-, -, h⟩ := Run.outcome_bind_eq_ok_iff.1 h
        obtain ⟨v, hv, rfl⟩ := Run.outcome_map_eq_ok_iff.1 h
        exact .inr (.inl ⟨hm, m, ms, v, rfl, rfl, hv⟩)

/-- An attribute that was read is a text. -/
theorem exists_text_of_readAttribute {name : Option String} {v : Value}
    (h : (readAttribute view name node).outcome = .ok v) : ∃ s, v = .text s := by
  unfold readAttribute at h
  split at h
  · cases h
    exact ⟨"", rfl⟩
  · cases h
    exact ⟨"", rfl⟩
  · obtain ⟨a, -, h⟩ := Run.outcome_bind_eq_ok_iff.1 h
    split at h
    next s _ =>
      cases h
      exact ⟨s, rfl⟩
    · cases h

/-! ### Whatever rules yield mirrors them -/

theorem mirrors_of_conforms {rules : List Rule} {es : Entries}
    (h : (resolve view node rules).outcome = .ok es)
    (hrules : ∀ r ∈ rules, ∀ v, (applyRule view node r).outcome = .ok (some v) →
      Conforms view node r v) : Mirrors view node rules es := by
  -- the map is made of the writes of the rules, in their order
  have hes := eq_ofList_writes h
  refine .intro ?_ (fun key v hv => ?_) (fun r hr v hv => ?_) (fun r hr hs hm => ?_)
  · rw [hes]
    exact Entries.nodup_keys_ofList _
  · rw [hes, get?_ofList_writes_iff] at hv
    obtain ⟨before, r, after, hsplit, hname, hwritten, hlast⟩ := hv
    have hsearches := searches_of_applyRule (written_eq_some_iff.1 hwritten)
    exact ⟨before, r, after, hsplit, hname, hsearches, hwritten, hlast⟩
  · exact hrules r hr v (written_eq_some_iff.1 hv)
  · obtain ⟨stored, hstored⟩ := exists_outcome_applyRule h hr
    obtain ⟨selector, hselector, hne⟩ := hs
    have hcollect := hstored
    rw [applyRule_of_searches hselector hne] at hcollect
    obtain ⟨hno, -⟩ | ⟨hno, -⟩ | ⟨-, ms, vs, -, rfl, -⟩ := collect_eq_ok hcollect
    · exact absurd hm hno
    · exact absurd hm hno
    · rw [hes, Entries.keys_ofList, List.mem_eraseDups, keys_writes]
      refine List.mem_map.2 ⟨r, List.mem_filter.2 ⟨hr, ?_⟩, rfl⟩
      rw [written_eq_some_iff.2 hstored]
      rfl

/-- The value of a node is as the rule declares, when that holds of its inner rules. -/
theorem makes_follow {r : Rule}
    (ih : ∀ r' ∈ r.inner, ∀ (node : ν) v, (applyRule view node r').outcome = .ok (some v) →
      Conforms view node r' v) {m : ν} {v : Value}
    (h : (follow view r r.plan m).outcome = .ok v) : Makes view r m v := by
  have hp := Rule.planned_plan r
  generalize r.plan = p at hp h
  cases hp with
  | text hk hn =>
    cases h
    exact .text hk (Text.tidy_fold _)
  | attr hk hn =>
    obtain ⟨s, rfl⟩ := exists_text_of_readAttribute h
    exact .attr hk
  | object hk hn =>
    rw [Rule.inner_of_nested hk hn] at ih
    rw [follow] at h
    obtain ⟨es, hes, rfl⟩ := Run.outcome_map_eq_ok_iff.1 h
    exact .object hk hn (mirrors_of_conforms hes fun r' hr' => ih r' hr' m)
  | flawed _ => cases h

theorem makesAll_forAll {r : Rule} {value : ν → Run ν Value}
    (hvalue : ∀ m v, (value m).outcome = .ok v → Makes view r m v) {ms : List ν} {vs : List Value}
    (h : (Run.forAll value ms).outcome = .ok vs) : MakesAll view r ms vs := by
  induction ms generalizing vs with
  | nil =>
    cases h
    exact .nil
  | cons m ms ih =>
    obtain ⟨v, rest, hv, hrest, rfl⟩ := Run.outcome_forAll_eq_ok h
    exact .cons (hvalue m v hv) (ih hrest)

/-- **What a rule writes is as it declares.** -/
theorem conforms_applyRule {r : Rule} {node : ν} {v : Value}
    (h : (applyRule view node r).outcome = .ok (some v)) : Conforms view node r v := by
  induction r using Rule.inner_induction generalizing node v with
  | step r ih =>
    obtain ⟨selector, hs, hne⟩ := searches_of_applyRule h
    rw [applyRule_of_searches hs hne] at h
    -- the inner rules matter only where the value of a single match is made
    have hvalue (m : ν) (v : Value) : (follow view r r.plan m).outcome = .ok v → Makes view r m v :=
      makes_follow fun r' hr' _ _ => ih r' hr'
    obtain ⟨-, ⟨⟩⟩ | ⟨hm, m, ms, w, hf, ⟨⟩, hv⟩ | ⟨hm, ms, vs, hf, ⟨⟩, hvs⟩ := collect_eq_ok h
    · exact .first hm hs hf (hvalue m v hv)
    · exact .all hm hs hf (makesAll_forAll hvalue hvs)

/-- **Whatever rules yield mirrors them.** -/
theorem mirrors_resolve {rules : List Rule} {es : Entries}
    (h : (resolve view node rules).outcome = .ok es) : Mirrors view node rules es :=
  mirrors_of_conforms h fun _ _ _ => conforms_applyRule

end Extraction

/-! ### Whatever rules yield has a JSON form -/

namespace Json

theorem exists_write_of_portable {limit : Option Nat} {v : Value} (h : Portable limit v)
    (l : Layout) : ∃ s, write l v = .ok s := by
  -- whether there is a JSON form does not depend on the layout
  obtain ⟨s, hs, -⟩ := exists_writeAt respaces_id blank_none 0 v h
  exact exists_write_iff.2 (exists_write_iff.1 ⟨s, hs⟩)

end Json

namespace Output

/-- A record that has a JSON form is saved, unless the store refuses the file. -/
theorem result_save_of_line {record : Value} {text : String} (h : line record = .ok text)
    (s : Store) (o : Sink) (item : Int) :
    (o.save s record item).result = .ok () ∨
      ∃ fault, (o.save s record item).result = .error (.store fault) := by
  cases o with
  | lines o =>
    simp only [Sink.save, Lines.save, h]
    cases s.append o.path (Text.Utf8.encode (text ++ "\n")) with
    | error fault => exact .inr ⟨fault, rfl⟩
    | ok s' => exact .inl rfl
  | listing o =>
    simp only [Sink.save, Listing.save, h]
    exact .inl trivial

end Output

open Extraction

/-- **The output mirrors the rules and can always be written.**  Whatever a tree answers, a map that
rules yield at a node mirrors them and has a JSON form in any layout.  Each record of a batch has a
JSON form, too, and a sink that is to save it can only fail because of its file. -/
theorem output_mirrors_rules :
    (∀ (ν : Type) (view : View ν) (node : ν) (rules : List Rule) (es : Entries),
      (resolve view node rules).outcome = .ok es →
        Mirrors view node rules es ∧ ∀ l, ∃ text, Json.write l (.map es) = .ok text) ∧
    ∀ E d items payload records, (Batch.run E d items payload).records = .ok records →
      ∀ r ∈ records, (∀ l, ∃ text, Json.write l (.map r.json) = .ok text) ∧
        ∀ (s : Store) (o : Output.Sink) (item : Int),
          (o.save s (.map r.json) item).result = .ok () ∨
            ∃ fault, (o.save s (.map r.json) item).result = .error (.store fault) := by
  refine ⟨fun ν view node rules es h => ⟨mirrors_resolve h, fun l => ?_⟩,
    fun E d items payload records h r hr => ?_⟩
  · have hportable : Json.Portable none (.map es) :=
      yields_fill node _ [] ⟨List.nodup_nil, trivial⟩ es h
    exact Json.exists_write_of_portable hportable l
  · have hportable : Json.Portable none (.map r.json) :=
      Batch.allPortable_runWith E d items _ records h r hr
    refine ⟨Json.exists_write_of_portable hportable, fun s o item => ?_⟩
    obtain ⟨text, htext⟩ := Json.exists_write_of_portable hportable ⟨none⟩
    have hline : Output.line (.map r.json) = .ok text := by rw [Output.line, htext]
    exact Output.result_save_of_line hline s o item

/-- A tree with two entries below the root, and a title in each. -/
def library : View Nat where
  find node selector :=
    if selector = "li" ∧ node = 0 then .nodes [1, 2]
    else if selector = "b" then .nodes [node + 2]
    else .nodes []
  text node := if node = 3 then " A \n title " else "Another"
  attr _ _ := .null

/-- The entries of a library; and the records of a batch, of which one is a placeholder for a document
and one for an item. -/
theorem output_mirrors_rules_library :
    let es : Entries := [("entries", .list [
      .map [("title", .text "A title")], .map [("title", .text "Another")]])]
    ((resolve library 0 [listing]).outcome = .ok es ∧ Mirrors library 0 [listing] es) ∧
    ∃ records, (Batch.run Engine.html { continueOnFail := true } Batch.uneven
        Batch.paragraphPayload).records = .ok records ∧
      records.map (·.error.isSome) = [false, false, true, false, true] ∧
      ∀ r ∈ records, (∀ l, ∃ text, Json.write l (.map r.json) = .ok text) ∧
        ∀ (s : Store) (o : Output.Sink) (item : Int),
          (o.save s (.map r.json) item).result = .ok () ∨
            ∃ fault, (o.save s (.map r.json) item).result = .error (.store fault) := by
  intro es
  have htitle : title.plan = .text := by
    rw [Rule.plan, show title.kind = .ok .text from rfl]
    rfl
  have hlisting : listing.plan = .object [(title, .text)] := by
    have hnested : listing.nested = .ok [title] := rfl
    rw [Rule.plan_of_kind_object rfl hnested, Rule.plans, List.map_singleton, htitle]
  have hfirst : nodeText library 3 = "A title" := by decide +kernel
  have hsecond : nodeText library 4 = "Another" := by decide +kernel
  have h : (resolve library 0 [listing]).outcome = .ok es := by
    have hsteps : Rule.plans [listing] = [(listing, .object [(title, .text)])] := by
      rw [Rule.plans, List.map_singleton, hlisting]
    rw [resolve, hsteps]
    change Except.ok [("entries", Value.list [.map [("title", .text (nodeText library 3))],
      .map [("title", .text (nodeText library 4))]])] = _
    rw [hfirst, hsecond]
  refine ⟨⟨h, (output_mirrors_rules.1 Nat library 0 [listing] es h).1⟩, ?_⟩
  have hkinds : (Batch.run Engine.html { continueOnFail := true } Batch.uneven
      Batch.paragraphPayload).records.toOption.map (·.map (·.error.isSome)) =
        some [false, false, true, false, true] := by decide +kernel
  obtain ⟨records, hrecords⟩ : ∃ records, (Batch.run Engine.html { continueOnFail := true }
      Batch.uneven Batch.paragraphPayload).records = .ok records :=
    Batch.exists_of_isOk (by decide +kernel)
  rw [hrecords] at hkinds
  exact ⟨records, hrecords, Option.some.inj hkinds, output_mirrors_rules.2 _ _ _ _ records hrecords⟩

end Harvest
