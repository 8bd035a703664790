import Harvest.Proofs.Extraction.Reach
import Harvest.Proofs.Extraction.ReadAhead
import Harvest.Proofs.Rule.Source

/-!
# The spellings of fields

A field of a rule may go by more than one name.  A map is spelled anew (`Rule.respell`) when keys of
it are replaced by other names of the same fields; as long as no field has two spellings in the map
(`Rule.SpelledOnce`), each field is found as before, under another key.  So the map is refused as
before, though not for faults at the same place, or describes the same rule
(`Rule.matched_ofEntries_respell`).

`Rule.Respelled` relates entries of payloads when some of the maps in them are spelled anew, the
entries themselves or maps in the lists of their sources, at any depth, and each in its own way.  Such
payloads make no difference to an extraction (`attempt_of_respelled`).  Keys are not integers, so a
flaw can be told in one spelling exactly if it can in the other (`Rule.spelledShort`).
-/

namespace Harvest

namespace Rule

open Validation

/-! ### Keys -/

/-- The names of each field of a rule. -/
def spellings : List (List String) :=
  [nameField.names, selectorField.names, declaredField.names, sourceField.names, multiField.names]

/-- A way to spell keys anew: a key is kept, or another name of the same field takes its place. -/
def Respells (σ : String → String) : Prop :=
  ∀ key, σ key = key ∨ ∃ names ∈ spellings, key ∈ names ∧ σ key ∈ names

/-- No field of a map has two spellings. -/
def SpelledOnce (es : Entries) : Prop :=
  ∀ names ∈ spellings, ∀ key ∈ names, ∀ key' ∈ names, key ∈ es.keys → key' ∈ es.keys → key = key'

instance (es : Entries) : Decidable (SpelledOnce es) :=
  inferInstanceAs (Decidable (∀ names ∈ spellings, ∀ key ∈ names, ∀ key' ∈ names,
    key ∈ es.keys → key' ∈ es.keys → key = key'))

/-- A map with its keys spelled anew. -/
def respell (σ : String → String) (es : Entries) : Entries :=
  es.map fun e => (σ e.1, e.2)

/-- The second names of the fields that have two. -/
def secondNames : List (String × String) :=
  [("varName", "var_name"), ("valueType", "value_type"), ("valueBy", "value_by")]

/-- The way to spell some fields by their second names. -/
def secondSpelling (fields : List String) (key : String) : String :=
  if key ∈ fields then (secondNames.lookup key).getD key else key

theorem respells_secondSpelling (fields : List String) : Respells (secondSpelling fields) := by
  intro key
  unfold secondSpelling
  split
  · by_cases hkey : key ∈ ["varName", "valueType", "valueBy"]
    · refine .inr ?_
      simp only [List.mem_cons, List.not_mem_nil, or_false] at hkey
      obtain rfl | rfl | rfl := hkey
      · exact ⟨nameField.names, by decide, by decide, by decide⟩
      · exact ⟨declaredField.names, by decide, by decide, by decide⟩
      · exact ⟨sourceField.names, by decide, by decide, by decide⟩
    · have hnone : secondNames.lookup key = none := by
        rw [List.lookup_eq_none_iff]
        simpa [secondNames] using hkey
      exact .inl (by rw [hnone]; rfl)
  · exact .inl rfl

theorem eq_of_mem_spellings : ∀ names ∈ spellings, ∀ names' ∈ spellings, ∀ key ∈ names,
    key ∈ names' → names = names' := by
  decide

section

variable {σ : String → String} {es : Entries} {names : List String}

theorem mem_names_iff (hσ : Respells σ) (hn : names ∈ spellings) (key : String) :
    σ key ∈ names ↔ key ∈ names := by
  obtain heq | ⟨names', hn', hkey, hkey'⟩ := hσ key
  · rw [heq]
  · constructor
    · intro h
      rwa [eq_of_mem_spellings names hn names' hn' _ h hkey']
    · intro h
      rwa [eq_of_mem_spellings names hn names' hn' _ h hkey]

theorem keys_respell (σ : String → String) (es : Entries) :
    (respell σ es).keys = es.keys.map σ := by
  simp [respell, Entries.keys]

theorem SpelledOnce.respell (h : SpelledOnce es) (hσ : Respells σ) :
    SpelledOnce (respell σ es) := by
  intro names hn key hkey key' hkey' hmem hmem'
  rw [keys_respell] at hmem hmem'
  obtain ⟨k, hk, rfl⟩ := List.mem_map.1 hmem
  obtain ⟨k', hk', rfl⟩ := List.mem_map.1 hmem'
  rw [mem_names_iff hσ hn] at hkey hkey'
  rw [h names hn k hkey k' hkey' hk hk']

theorem SpelledOnce.tail {e : String × Value} (h : SpelledOnce (e :: es)) : SpelledOnce es :=
  fun names hn key hkey key' hkey' hmem hmem' => h names hn key hkey key' hkey'
    (List.mem_cons_of_mem _ hmem) (List.mem_cons_of_mem _ hmem')

/-- Where no field has two spellings, the name that a field is found under is its only key. -/
theorem firstOf_eq_find? (h : SpelledOnce es) (hn : names ∈ spellings) :
    firstOf es names = es.find? fun e => names.contains e.1 := by
  induction es with
  | nil => exact List.findSome?_eq_none_iff.2 fun _ _ => rfl
  | cons e es ih =>
    obtain ⟨key, v⟩ := e
    by_cases hkey : key ∈ names
    · rw [List.find?_cons_of_pos (by simpa using hkey)]
      -- the names of the field before this one are no keys of the map
      have hothers (name : String) (hname : name ∈ names) (hne : name ≠ key) :
          Entries.get? ((key, v) :: es) name = none := by
        refine Entries.get?_eq_none_iff.2 fun hmem => hne ?_
        exact h names hn name hname key hkey hmem List.mem_cons_self
      have hfound : (firstOf ((key, v) :: es) names).isSome := by
        rw [firstOf, List.findSome?_isSome_iff]
        exact ⟨key, hkey, by rw [Entries.get?_cons, if_pos rfl]; rfl⟩
      obtain ⟨x, hx⟩ := Option.isSome_iff_exists.1 hfound
      obtain ⟨name, hname, hv⟩ := List.exists_of_findSome?_eq_some hx
      by_cases hne : name = key
      · subst hne
        rw [Entries.get?_cons, if_pos rfl] at hv
        rw [hx, ← hv]
        rfl
      · rw [hothers name hname hne] at hv
        cases hv
    · rw [List.find?_cons_of_neg (by simpa using hkey), ← ih h.tail, firstOf, firstOf,
        ← List.head?_filterMap, ← List.head?_filterMap]
      refine congrArg List.head? (List.filterMap_congr fun name hname => ?_)
      rw [Entries.get?_cons, if_neg (ne_of_mem_of_not_mem hname hkey)]

theorem firstOf_respell (hσ : Respells σ) (h : SpelledOnce es) (hn : names ∈ spellings) :
    firstOf (respell σ es) names = (firstOf es names).map fun e => (σ e.1, e.2) := by
  rw [firstOf_eq_find? (h.respell hσ) hn, firstOf_eq_find? h hn, respell, List.find?_map]
  congr 2
  funext e
  simp [mem_names_iff hσ hn]

/-! ### Maps -/

theorem matched_read_respell {α : Type} (hσ : Respells σ) (h : SpelledOnce es) (f : FieldSpec α)
    (hf : f.names ∈ spellings) : Matched AnyErrors Eq (f.read es) (f.read (respell σ es)) := by
  unfold FieldSpec.read
  rw [firstOf_respell hσ h hf]
  cases firstOf es f.names with
  | none => exact .ok rfl
  | some e =>
    simp only [Option.map_some]
    cases f.rule e.2 with
    | ok a => exact .ok rfl
    | error faults => exact .error trivial

theorem matched_zip {α β : Type} {x x' : Checked α} {y y' : Checked β}
    (hx : Matched AnyErrors Eq x x') (hy : Matched AnyErrors Eq y y') :
    Matched AnyErrors Eq (x.zip y) (x'.zip y') := by
  cases hx with
  | ok hx =>
    cases hy with
    | ok hy => exact .ok (by rw [hx, hy])
    | error _ => exact .error trivial
  | error _ => cases hy <;> exact .error trivial

/-- **A map that is spelled anew describes the same rule**, or is refused like the map. -/
theorem matched_ofEntries_respell (hσ : Respells σ) (h : SpelledOnce es) :
    Matched AnyErrors Eq (ofEntries es) (ofEntries (respell σ es)) := by
  have hname := matched_read_respell hσ h nameField (by decide)
  have hselector := matched_read_respell hσ h selectorField (by decide)
  have hdeclared := matched_read_respell hσ h declaredField (by decide)
  have hsource := matched_read_respell hσ h sourceField (by decide)
  have hmulti := matched_read_respell hσ h multiField (by decide)
  have hall := matched_zip hname (matched_zip hselector (matched_zip hdeclared
    (matched_zip hsource hmulti)))
  unfold ofEntries
  exact hall.mapResults fun fields fields' heq => by rw [heq]

end

/-! ### Entries and payloads -/

mutual

/-- An entry of a payload, and the entry with some of the maps in it spelled anew. -/
inductive Respelled : Value → Value → Prop where
  /-- Nothing is spelled anew. -/
  | same (v : Value) : Respelled v v
  /-- A map is spelled anew, and maps inside it are. -/
  | map {es es' : Entries} {σ : String → String} (hσ : Respells σ) (hone : SpelledOnce es)
      (h : List.Forall₂ (FieldUpTo RespelledSource) (respell σ es) es') :
      Respelled (.map es) (.map es')
  /-- Maps inside a rule are spelled anew. -/
  | rule {name : String} {selector : Option String} {declared source source' : Value}
      {multi : Option Bool} (h : RespelledSource source source') :
      Respelled (.rule name selector declared source multi)
        (.rule name selector declared source' multi)

/-- The source of a rule, and the source with entries of its list spelled anew. -/
inductive RespelledSource : Value → Value → Prop where
  /-- Nothing is spelled anew. -/
  | same (v : Value) : RespelledSource v v
  /-- Entries of the list are spelled anew. -/
  | list {vs vs' : List Value} (h : List.Forall₂ Respelled vs vs') :
      RespelledSource (.list vs) (.list vs')

end

/-- A payload, and the payload with some of the maps in it spelled anew; payloads that are written as
text are decoded for that. -/
inductive PayloadRespelled : Value → Value → Prop where
  /-- Nothing is spelled anew. -/
  | same (payload : Value) : PayloadRespelled payload payload
  /-- The payload is a list. -/
  | list {payload payload' : Value} {vs vs' : List Value} (hp : decode payload = .ok (.list vs))
      (hp' : decode payload' = .ok (.list vs')) (h : List.Forall₂ Respelled vs vs') :
      PayloadRespelled payload payload'
  /-- The payload is one entry. -/
  | entry {payload payload' v v' : Value} (hp : decode payload = .ok v)
      (hp' : decode payload' = .ok v') (h : Respelled v v') : PayloadRespelled payload payload'

theorem matched_ofEntry_respelled {v v' : Value} (h : Respelled v v') :
    Matched AnyErrors (UpToSource RespelledSource) (ofEntry v) (ofEntry v') := by
  cases h with
  | same v => exact .refl (fun _ => trivial) (UpToSource.refl .same) _
  | map hσ hone hfields =>
    rw [ofEntry_map, ofEntry_map]
    have hspelled := matched_ofEntries_respell hσ hone
    have hread : Matched AnyErrors (UpToSource RespelledSource) _ _ :=
      (matched_ofEntries_of_fields .same hfields).imp (fun _ _ _ => trivial) fun _ _ h => h
    exact (hspelled.trans hread fun _ _ _ _ _ _ heq h => heq ▸ h).mapErrors fun _ _ _ => trivial
  | rule h => exact .ok ⟨rfl, rfl, rfl, rfl, h⟩

theorem matched_ofList_respelled {vs vs' : List Value} (h : List.Forall₂ Respelled vs vs') :
    Matched AnyErrors (List.Forall₂ (UpToSource RespelledSource)) (ofList vs) (ofList vs') :=
  matched_ofList_of_entries (h.imp fun _ _ => matched_ofEntry_respelled)

/-! ### Integers that are too long -/

/-- Spelling maps in a value anew makes no difference to whether something in it is too long. -/
def SpelledShort (v : Value) : Prop :=
  ∀ v', Respelled v v' → v'.isShort = v.isShort

theorem allShort_of_forall₂ {vs vs' : List Value}
    (h : List.Forall₂ (fun v v' => v'.isShort = v.isShort) vs vs') :
    Value.allShort vs' = Value.allShort vs := by
  induction h with
  | nil => rfl
  | cons hv _ ih => rw [Value.allShort, Value.allShort, hv, ih]

theorem entriesShort_of_forall₂ {es es' : Entries}
    (h : List.Forall₂ (fun e e' => e'.2.isShort = e.2.isShort) es es') :
    Value.entriesShort es' = Value.entriesShort es := by
  induction h with
  | nil => rfl
  | cons he _ ih => rw [Value.entriesShort, Value.entriesShort, he, ih]

theorem entriesShort_respell (σ : String → String) (es : Entries) :
    Value.entriesShort (respell σ es) = Value.entriesShort es := by
  induction es with
  | nil => rfl
  | cons e es ih =>
    obtain ⟨key, v⟩ := e
    exact congrArg (v.isShort && ·) ih

theorem RespelledSource.isShort_eq {v v' : Value} (h : RespelledSource v v')
    (ih : ∀ w, w.depth < v.depth → SpelledShort w) : v'.isShort = v.isShort := by
  cases h with
  | same => rfl
  | @list vs vs' h =>
    have hmem : ∀ w ∈ vs, SpelledShort w := fun w hw => ih w (Value.depth_lt_of_mem_list hw)
    exact allShort_of_forall₂ (((List.forall₂_and_left _ _).2 ⟨hmem, h⟩).imp fun _ _ h => h.1 _ h.2)

theorem spelledShort (v : Value) : SpelledShort v := by
  refine (measure Value.depth).wf.induction v fun v ih v' h => ?_
  cases h with
  | same => rfl
  | rule h =>
    rw [Value.isShort, Value.isShort, h.isShort_eq fun w hw => ih w ?_]
    exact Nat.lt_trans hw (Nat.lt_succ_of_le (Nat.le_max_right ..))
  | @map es es' σ _ _ h =>
    rw [Value.isShort, Value.isShort, ← entriesShort_respell σ es]
    -- a key that is spelled anew has the value that it had
    have hmem : ∀ e ∈ respell σ es, ∀ w, w.depth < e.2.depth → SpelledShort w := by
      intro e he w hw
      obtain ⟨e, hmem, rfl⟩ := List.mem_map.1 he
      have hlt : e.2.depth < (Value.map es).depth := Value.depth_lt_of_mem_map hmem
      exact ih w (Nat.lt_trans hw hlt)
    refine entriesShort_of_forall₂ (((List.forall₂_and_left _ _).2 ⟨hmem, h⟩).imp ?_)
    rintro e e' ⟨ih, h⟩
    cases h with
    | same => rfl
    | source _ h => exact h.isShort_eq ih

/-- Two flaws can both be told, or neither can. -/
def BothTold (flaw flaw' : Flaw) : Prop :=
  flaw' = .untold ↔ flaw = .untold

/-- Rules with sources that are spelled anew act alike, whatever their flaws say if they can be
told. -/
theorem simulation_respelled : Simulation BothTold (UpToSource RespelledSource) := by
  refine simulation_of_sources (E := AnyErrors) .same (fun _ => Iff.rfl) (fun v v' h => ?_) ?_
  · cases h with
    | same => exact .inl rfl
    | list h => exact .inr ⟨_, _, rfl, rfl, matched_ofList_respelled h⟩
  · intro v v' reason reason' h _
    rw [BothTold, Flaw.showing_eq_untold_iff (by simp), Flaw.showing_eq_untold_iff (by simp),
      h.isShort_eq fun w _ => spelledShort w]

theorem entriesOf_respelled {v v' : Value} (h : Respelled v v') :
    List.Forall₂ Respelled (entriesOf v) (entriesOf v') := by
  have hentry := h
  cases h with
  | same => exact List.forall₂_same.2 fun v _ => .same v
  | rule => exact .cons hentry .nil
  | @map es es' σ _ _ h =>
    -- only the empty map has no entries, and it stays empty
    cases es with
    | nil =>
      cases h
      exact .nil
    | cons e es =>
      cases h
      exact .cons hentry .nil

end Rule

/-! ### Who is to blame -/

/-- Who is to blame for a failure: the kind of the complaint, and the name and the declared kind of
the rule, where there is one. -/
structure Blame where
  /-- The kind of the complaint. -/
  kind : Complaint.Kind
  /-- The name of the rule. -/
  rule : Option String
  /-- The declared kind of the rule. -/
  declared : Option Value

/-- Who is to blame for a payload without rules. -/
def Rule.PayloadError.blame (e : Rule.PayloadError) : Blame :=
  ⟨e.complaint.kind, e.complaint.rule, none⟩

/-- Who is to blame for an extraction that fails. -/
def Extraction.Failure.blame (f : Extraction.Failure) : Blame :=
  ⟨f.told.1.kind, f.told.1.rule, f.told.2⟩

namespace Rule

/-- Who is to blame for a payload that is refused does not depend on the reason. -/
theorem blame_refusal {payload payload' : Value} (h : payload'.isShort = payload.isShort)
    (reason reason' : Reason) :
    (refusal payload' reason').blame = (refusal payload reason).blame := by
  rcases refusal_cases payload reason with ⟨shown, hshown, he⟩ | ⟨hlong, he⟩ <;>
    rcases refusal_cases payload' reason' with ⟨shown', hshown', he'⟩ | ⟨hlong', he'⟩ <;>
    rw [he, he']
  · rfl
  · rw [hlong', ← payload.isSome_shown?, hshown] at h
    cases h
  · rw [hlong, ← payload'.isSome_shown?, hshown'] at h
    cases h

theorem matched_comesTo {payload payload' : Value} {x x' : Except Reason (List Rule)}
    {R : Rule → Rule → Prop} (hx : ComesTo payload x) (hx' : ComesTo payload' x')
    (hshort : payload'.isShort = payload.isShort) (h : Matched AnyErrors (List.Forall₂ R) x x') :
    Matched (fun e e' => e'.blame = e.blame) (List.Forall₂ R) (parse payload) (parse payload') := by
  rw [hx, hx']
  exact h.mapErrors fun _ _ _ => blame_refusal hshort _ _

/-- **Payloads that differ in spelling** are both refused, or hold rules that differ in the spelling
of their sources. -/
theorem matched_parse_respelled {payload payload' : Value} (h : PayloadRespelled payload payload') :
    Matched (fun e e' => e'.blame = e.blame) (List.Forall₂ (UpToSource RespelledSource))
      (parse payload) (parse payload') := by
  cases h with
  | same =>
    refine .refl ?_ (fun rules => ?_) _
    · exact fun _ => rfl
    · exact List.forall₂_same.2 fun r _ => .refl .same r
  | list hp hp' h =>
    refine matched_comesTo (comesTo_of_decode hp) (comesTo_of_decode hp') ?_ ?_
    · rw [← isShort_of_decode hp, ← isShort_of_decode hp']
      exact allShort_of_forall₂ (h.imp fun v v' h => spelledShort v v' h)
    · rw [entriesOf_list, entriesOf_list]
      exact matched_ofList_respelled h
  | entry hp hp' h =>
    refine matched_comesTo (comesTo_of_decode hp) (comesTo_of_decode hp') ?_ ?_
    · rw [← isShort_of_decode hp, ← isShort_of_decode hp']
      exact spelledShort _ _ h
    · exact matched_ofList_respelled (entriesOf_respelled h)

end Rule

namespace Extraction

open Rule

variable {ν : Type} {view : View ν} {node : ν}

/-! ### Attempts -/

/-- What comes of applying the rules of a payload to a node: the accesses, in order, and the map that
is made or who is to blame.  Without rules there is no access. -/
def attempt (view : View ν) (node : ν) (payload : Value) :
    List (Access ν) × Except Blame Entries :=
  match parse payload with
  | .error e => ([], .error e.blame)
  | .ok rules =>
    let run := resolve view node rules
    (run.accesses, run.outcome.mapError Failure.blame)

theorem blame_of_alike {f f' : Failure}
    (h : Failure.Alike BothTold (UpToSource RespelledSource) f f') : f'.blame = f.blame := by
  cases h with
  | same f => rfl
  | @flaw r r' flaw flaw' h htold =>
    by_cases hflaw : flaw = .untold
    · rw [hflaw, htold.2 hflaw]
      rfl
    · rw [Failure.ofFlaw_of_ne hflaw, Failure.ofFlaw_of_ne (mt htold.1 hflaw)]
      unfold Failure.blame
      rw [told_rule, told_rule, h.name, h.declared]

/-- **The spelling of fields makes no difference.**  In a payload some maps are spelled anew, in each
of which no field had two spellings: entries of the payload, or entries of the sources in it, at any
depth.  Then both payloads hold rules or neither does, and whatever they are applied to, what comes of
it is the same: the accesses, and the map that is made or who is to blame. -/
theorem attempt_of_respelled {payload payload' : Value} (h : PayloadRespelled payload payload') :
    ((∃ rules, parse payload = .ok rules) ↔ ∃ rules, parse payload' = .ok rules) ∧
    ∀ (ν : Type) (view : View ν) (node : ν),
      attempt view node payload' = attempt view node payload := by
  have hmatched := matched_parse_respelled h
  refine ⟨hmatched.isOk_iff, fun ν view node => ?_⟩
  unfold attempt
  match parse payload, parse payload', hmatched with
  | .error e, .error e', .error hblame => simp only [hblame]
  | .ok rules, .ok rules', .ok hrules =>
    have halike : Run.Alike _ (resolve view node rules) (resolve view node rules') :=
      resolve_alike simulation_respelled hrules node
    obtain ⟨haccesses, houtcome⟩ := halike
    simp only [haccesses]
    match (resolve view node rules).outcome, (resolve view node rules').outcome, houtcome with
    | .ok _, .ok _, .ok rfl => rfl
    | .error f, .error f', .error hf =>
      exact congrArg _ (congrArg Except.error (blame_of_alike hf))

/-- The rule for titles, written as a map with one field under its second name. -/
def titleRespelled : Value :=
  .map [("var_name", .text "title"), ("selector", .text "b"), ("valueType", .text "text")]

/-- The rule for all entries, written with the second names of its fields. -/
def entriesRespelled : Value :=
  .map [("var_name", .text "entries"), ("selector", .text "li"), ("value_type", .text "object"),
    ("value_by", .list [titleRespelled]), ("multi", .bool true)]

theorem respelled_titleEntry : Respelled titleEntry titleRespelled :=
  .map (respells_secondSpelling ["varName"]) (by decide)
    (List.forall₂_same.2 fun e _ => .same e)

/-- Two rules are spelled anew, one inside the other and each in its own way.  In a tree where the
second of two entries cannot be searched for a title, the nested one is to blame either way. -/
theorem attempt_of_respelled_entries :
    PayloadRespelled (entriesWith titleEntry) entriesRespelled ∧
    attempt catalogue 0 entriesRespelled = attempt catalogue 0 (entriesWith titleEntry) ∧
    (attempt catalogue 0 entriesRespelled).2 =
      .error ⟨.rule, some "title", some (.text "text")⟩ := by
  have hsource : FieldUpTo RespelledSource ("value_by", .list [titleEntry])
      ("value_by", .list [titleRespelled]) :=
    .source (by decide) (.list (.cons respelled_titleEntry .nil))
  have hentry : Respelled (entriesWith titleEntry) entriesRespelled :=
    .map (respells_secondSpelling ["varName", "valueType", "valueBy"]) (by decide)
      (.cons (.same _) (.cons (.same _) (.cons (.same _) (.cons hsource (.cons (.same _) .nil)))))
  have h : PayloadRespelled (entriesWith titleEntry) entriesRespelled := .entry rfl rfl hentry
  have hsame := (attempt_of_respelled h).2 Nat catalogue 0
  refine ⟨h, hsame, hsame ▸ ?_⟩
  have htitle : titleRule.plan = .text := by
    rw [Rule.plan_eq]
    rfl
  let r : Rule := ⟨"entries", some "li", .text "object", .list [titleEntry], some true⟩
  have hr : r.plan = .object [(titleRule, .text)] := by
    have hnested : r.nested = .ok [titleRule] := rfl
    rw [Rule.plan_of_kind_object rfl hnested, Rule.plans, List.map_singleton, htitle]
  have hrules : parse (entriesWith titleEntry) = .ok [r] := rfl
  rw [attempt, hrules]
  simp only [resolve, Rule.plans, List.map_singleton, hr]
  rfl

end Extraction

end Harvest
