import Harvest.Proofs.Batch.EntryPoints
import Harvest.Proofs.Command.Supply
import Harvest.Proofs.Rule.Payload
import Harvest.Proofs.Rule.Source

/-!
# Rules that are read ahead

A payload may hold maps that are still to be read and rules that have been read before, side by
side and at every depth: a source is kept as it was written, and its list is read whenever its rule
is reached.  `Rule.Ahead` relates an entry to the same entry with some of the maps in it, itself or
maps in the lists of its source, replaced by the rules that they describe, and `Rule.PayloadAhead`
relates payloads in the same way.

What is read ahead is read no differently.  A map and the map with its sources replaced are refused
for the same faults or describe rules that differ in their sources alone
(`Rule.matched_ofEntries`), so entries, lists and nested rules match as well, and that makes the
relation of the rules a simulation (`Rule.simulation_ahead`).

Main statement: payloads that differ by reading ahead are refused for the same reason or resolve to
the same, access by access, at every node of every tree, and rules that have been read are read as
they are (`resolve_of_read_ahead`).
-/

namespace Harvest

namespace Rule

open Validation

/-! ### Reading ahead -/

mutual

/-- An entry of a payload, and the entry with some of the maps in it read ahead. -/
inductive Ahead : Value → Value → Prop where
  /-- Nothing is read ahead. -/
  | same (v : Value) : Ahead v v
  /-- Of a map, only maps inside are read ahead. -/
  | map {es es' : Entries} (h : List.Forall₂ AheadField es es') : Ahead (.map es) (.map es')
  /-- Of a rule, maps inside are read ahead. -/
  | rule {name : String} {selector : Option String} {declared source source' : Value}
      {multi : Option Bool} (h : AheadSource source source') :
      Ahead (.rule name selector declared source multi) (.rule name selector declared source' multi)
  /-- A map is read ahead itself, after maps inside. -/
  | read {es es' : Entries} {r : Rule} (h : List.Forall₂ AheadField es es')
      (hr : ofEntries es' = .ok r) : Ahead (.map es) r.toValue

/-- A field of a map, and the field with maps read ahead if it is a source. -/
inductive AheadField : String × Value → String × Value → Prop where
  /-- Nothing is read ahead. -/
  | same (e : String × Value) : AheadField e e
  /-- The field is a source. -/
  | source {key : String} {v v' : Value} (hkey : key ∈ sourceField.names) (h : AheadSource v v') :
      AheadField (key, v) (key, v')

/-- The source of a rule, and the source with some of the maps of its list read ahead. -/
inductive AheadSource : Value → Value → Prop where
  /-- Nothing is read ahead. -/
  | same (v : Value) : AheadSource v v
  /-- Entries of the list are read ahead. -/
  | list {vs vs' : List Value} (h : List.Forall₂ Ahead vs vs') :
      AheadSource (.list vs) (.list vs')

end

/-! ### Integers that are too long -/

theorem forall_mem_of_forall₂ {α β : Type} {R : α → β → Prop} {as : List α} {bs : List β}
    (h : List.Forall₂ R as bs) {P : β → Prop} (hR : ∀ a ∈ as, ∀ b, R a b → P b) : ∀ b ∈ bs, P b := by
  induction h with
  | nil => simp
  | cons hab _ ih =>
    obtain ⟨ha, has⟩ := List.forall_mem_cons.1 hR
    exact List.forall_mem_cons.2 ⟨ha _ hab, ih has⟩

/-- A value in which nothing is too long keeps that when maps in it are read ahead. -/
def StaysShort (v : Value) : Prop :=
  ∀ v', Ahead v v' → v.isShort = true → v'.isShort = true

theorem AheadSource.isShort {v v' : Value} (h : AheadSource v v')
    (ih : ∀ w, w.depth < v.depth → StaysShort w) (hv : v.isShort = true) : v'.isShort = true := by
  cases h with
  | same => exact hv
  | list h =>
    rw [Value.isShort, Value.allShort_iff] at hv ⊢
    exact forall_mem_of_forall₂ h fun w hw w' h =>
      ih w (Value.depth_lt_of_mem_list hw) w' h (hv w hw)

theorem AheadField.isShort {e e' : String × Value} (h : AheadField e e')
    (ih : ∀ w, w.depth < e.2.depth → StaysShort w) (he : e.2.isShort = true) :
    e'.2.isShort = true := by
  cases h with
  | same => exact he
  | source _ h => exact h.isShort ih he

/-- **Reading ahead makes nothing too long.**  It leaves out fields that no rule has, so an integer may
be lost, but none is added. -/
theorem staysShort (v : Value) : StaysShort v := by
  refine (measure Value.depth).wf.induction v fun v ih v' h hv => ?_
  have hentries {es es' : Entries} (heq : v = .map es) (hfields : List.Forall₂ AheadField es es') :
      ∀ e ∈ es', e.2.isShort = true := by
    subst heq
    rw [Value.isShort, Value.entriesShort_iff] at hv
    refine forall_mem_of_forall₂ hfields fun e he e' h => h.isShort (fun w hw => ih w ?_) (hv e he)
    exact Nat.lt_trans hw (Value.depth_lt_of_mem_map he)
  cases h with
  | same => exact hv
  | map h => rw [Value.isShort, Value.entriesShort_iff]; exact hentries rfl h
  | read h hr => exact isShort_of_ofEntries hr (hentries rfl h)
  | rule h =>
    rw [Value.isShort, Bool.and_eq_true] at hv ⊢
    refine ⟨hv.1, h.isShort (fun w hw => ih w ?_) hv.2⟩
    exact Nat.lt_trans hw (Nat.lt_succ_of_le (Nat.le_max_right ..))

/-! ### Entries, lists and nested rules -/

/-- The source of a rule, and the source with maps of its list read ahead; if `short`, nothing in the
list is too long. -/
inductive SourceAhead (short : Bool) : Value → Value → Prop where
  /-- Nothing is read ahead. -/
  | same (v : Value) : SourceAhead short v v
  /-- Entries of the list are read ahead. -/
  | list {vs vs' : List Value} (h : List.Forall₂ Ahead vs vs')
      (hs : short = true → (Value.list vs).isShort = true) : SourceAhead short (.list vs) (.list vs')

/-- A rule, and the rule with some of the maps of its source read ahead. -/
abbrev AheadRule (short : Bool) : Rule → Rule → Prop :=
  UpToSource (SourceAhead short)

/-- What may become of a flaw where sources are read ahead: it stays, or it can be told only then. -/
def FlawAhead (short : Bool) (flaw flaw' : Flaw) : Prop :=
  flaw' = flaw ∨ short = false ∧ flaw = .untold ∧ ∃ reason, flaw' = .nestedRules reason

variable {short : Bool}

theorem AheadSource.sourceAhead {v v' : Value} (h : AheadSource v v')
    (hs : short = true → v.isShort = true) : SourceAhead short v v' := by
  cases h with
  | same v => exact .same v
  | list h => exact .list h hs

theorem SourceAhead.typeName_eq {v v' : Value} (h : SourceAhead short v v') :
    v'.typeName = v.typeName := by
  cases h <;> rfl

theorem AheadField.upTo {e e' : String × Value} (h : AheadField e e')
    (hs : short = true → e.2.isShort = true) : FieldUpTo (SourceAhead short) e e' := by
  cases h with
  | same e => exact .same e
  | source hkey h => exact .source hkey (h.sourceAhead hs)

/-- **Maps are read alike.**  A map and the map with others read ahead in its sources are refused
for the same faults, or describe rules that differ in what is read ahead in their sources. -/
theorem matched_ofEntries {es es' : Entries} (h : List.Forall₂ AheadField es es')
    (hs : short = true → (Value.map es).isShort = true) :
    Matched Eq (AheadRule short) (ofEntries es) (ofEntries es') := by
  have hshort : ∀ e ∈ es, short = true → e.2.isShort = true := fun e he hshort =>
    Value.entriesShort_iff.1 (hs hshort) e he
  have hfields : List.Forall₂ (FieldUpTo (SourceAhead short)) es es' :=
    ((List.forall₂_and_left _ _).2 ⟨hshort, h⟩).imp fun _ _ h => h.2.upTo h.1
  exact matched_ofEntries_of_fields .same hfields

theorem matched_ofEntry {v v' : Value} (h : Ahead v v') (hs : short = true → v.isShort = true) :
    Matched Eq (AheadRule short) (ofEntry v) (ofEntry v') := by
  cases h with
  | same v => exact .refl (fun _ => rfl) (UpToSource.refl .same) _
  | map hes =>
    rw [ofEntry_map, ofEntry_map]
    exact (matched_ofEntries hes hs).mapErrors fun _ _ h => by rw [h]
  | rule hsource =>
    refine .ok ⟨rfl, rfl, rfl, rfl, hsource.sourceAhead fun hshort => ?_⟩
    exact (Bool.and_eq_true _ _ ▸ hs hshort : _ ∧ _).2
  | @read es es' r hes hr =>
    -- the rule that was read ahead is the one that is read now
    have hmatched := matched_ofEntries hes hs
    rw [hr] at hmatched
    rw [ofEntry_map]
    exact hmatched.mapErrors fun _ _ h => by rw [h]

theorem matched_ofList {vs vs' : List Value} (h : List.Forall₂ Ahead vs vs')
    (hs : short = true → (Value.list vs).isShort = true) :
    Matched Eq (List.Forall₂ (AheadRule short)) (ofList vs) (ofList vs') := by
  have hshort : ∀ v ∈ vs, short = true → v.isShort = true := fun v hv hshort =>
    Value.allShort_iff.1 (hs hshort) v hv
  exact matched_ofList_of_entries (((List.forall₂_and_left _ _).2 ⟨hshort, h⟩).imp fun _ _ h =>
    matched_ofEntry h.2 h.1)

/-- A list of rules that is refused is so for the same reason when it is read ahead, but the reason may
be told only then. -/
theorem SourceAhead.flawAhead {v v' : Value} (h : SourceAhead short v v') (reason : String) :
    FlawAhead short (.showing v fun _ => .nestedRules reason)
      (.showing v' fun _ => .nestedRules reason) := by
  cases h with
  | same => exact .inl rfl
  | @list vs vs' h hs =>
    cases hv : (Value.list vs).isShort with
    | true =>
      have hv' : (Value.list vs').isShort = true :=
        (AheadSource.list h).isShort (fun w _ => staysShort w) hv
      obtain ⟨_, heq⟩ := Flaw.showing_of_short hv fun _ => .nestedRules reason
      obtain ⟨_, heq'⟩ := Flaw.showing_of_short hv' fun _ => .nestedRules reason
      exact .inl (heq'.trans heq.symm)
    | false =>
      have hno : short = false := Bool.eq_false_iff.2 fun hshort => by simp [hs hshort] at hv
      rw [Flaw.showing_of_long hv]
      cases hv' : (Value.list vs').isShort with
      | true =>
        obtain ⟨_, heq'⟩ := Flaw.showing_of_short hv' fun _ => .nestedRules reason
        exact .inr ⟨hno, rfl, reason, heq'⟩
      | false => exact .inl (Flaw.showing_of_long hv' _)

/-- Rules that differ in what is read ahead in their sources act alike, flaws included, as far as
these can be told. -/
theorem simulation_ahead : Simulation (FlawAhead short) (AheadRule short) := by
  refine simulation_of_sources (E := Eq) .same (fun _ => .inl rfl) (fun v v' h => ?_) ?_
  · cases h with
    | same => exact .inl rfl
    | list h hs => exact .inr ⟨_, _, rfl, rfl, matched_ofList h hs⟩
  · rintro v v' reason _ h rfl
    exact h.flawAhead reason.message

/-! ### Payloads -/

/-- A payload, and the payload with some of the maps in it read ahead; of one that is written as text
these are the maps that it spells. -/
inductive PayloadAhead : Value → Value → Prop where
  /-- Nothing is read ahead. -/
  | same (payload : Value) : PayloadAhead payload payload
  /-- The payload is a list. -/
  | list {payload : Value} {vs vs' : List Value} (hp : Spells payload (.list vs))
      (h : List.Forall₂ Ahead vs vs') : PayloadAhead payload (.list vs')
  /-- The payload is one map. -/
  | map {payload v' : Value} {es : Entries} (hp : Spells payload (.map es))
      (h : Ahead (.map es) v') : PayloadAhead payload v'
  /-- The payload is one rule. -/
  | rule {v' : Value} (r : Rule) (h : Ahead r.toValue v') : PayloadAhead r.toValue v'

theorem entriesOf_list (vs : List Value) : entriesOf (.list vs) = vs := by
  cases vs <;> rfl

/-- Rules that have been read are read as they are. -/
theorem ofList_toValue (rules : List Rule) : ofList (rules.map toValue) = .ok rules := by
  induction rules with
  | nil => rfl
  | cons r rules ih =>
    rw [List.map_cons, ofList, ih]
    rfl

theorem parse_toValue (rules : List Rule) : parse (.list (rules.map toValue)) = .ok rules := by
  have h : ComesTo (.list (rules.map toValue)) _ := comesTo_of_decode rfl
  rw [h, entriesOf_list, ofList_toValue]
  rfl

theorem comesTo_toValue (r : Rule) : ComesTo r.toValue (.ok [r]) := rfl

/-- The text of a payload can be shown, and whatever has been read from it. -/
theorem isShort_of_decode {payload v : Value} (h : decode payload = .ok v) :
    v.isShort = payload.isShort := by
  cases decode_eq_ok_iff.1 h with
  | read htext hread =>
    rw [Json.isShort_of_read hread]
    cases htext <;> rfl
  | itself => rfl

/-- A payload that has no integer too long to be read. -/
def Legible (payload : Value) : Prop :=
  ∀ n, decode payload ≠ .error (.tooLong (.read n))

theorem Legible.decode_eq {payload v : Value} (h : Legible payload) (hp : Spells payload v) :
    decode payload = .ok v :=
  (decode_of_spells hp).resolve_right fun ⟨n, hlong⟩ => h n hlong

theorem isShort_of_payloadAhead {payload payload' : Value} (h : PayloadAhead payload payload')
    (hlegible : Legible payload) (hshort : payload.isShort = true) : payload'.isShort = true := by
  cases h with
  | same => exact hshort
  | @list _ vs vs' hp h =>
    have hvs : (Value.list vs).isShort = true :=
      (isShort_of_decode (hlegible.decode_eq hp)).trans hshort
    rw [Value.isShort, Value.allShort_iff] at hvs ⊢
    exact forall_mem_of_forall₂ h fun v hv v' h => staysShort v v' h (hvs v hv)
  | map hp h =>
    exact staysShort _ _ h ((isShort_of_decode (hlegible.decode_eq hp)).trans hshort)
  | rule r h => exact staysShort _ _ h hshort

/-- Two payloads come to the same, except that one is read ahead. -/
def ComeAhead (payload payload' : Value) : Prop :=
  ∃ x x', ComesTo payload x ∧ ComesTo payload' x' ∧
    Matched Eq (List.Forall₂ (AheadRule payload.isShort)) x x'

theorem comeAhead_of_entry {payload v v' : Value} (hp : decode payload = .ok v)
    (hv : entriesOf v = [v]) (hp' : decode v' = .ok v') (hv' : entriesOf v' = [v'])
    (h : Ahead v v') : ComeAhead payload v' := by
  refine ⟨_, _, comesTo_of_decode hp, comesTo_of_decode hp', ?_⟩
  rw [hv, hv']
  refine matched_ofList (.cons h .nil) fun hshort => ?_
  rw [Value.isShort, Value.allShort_iff, List.forall_mem_singleton, isShort_of_decode hp]
  exact hshort

/-- **What payloads come to.**  Payloads that differ by reading ahead are one, or they come to the
same but for what is read ahead.  Only the empty map comes to no rules, and to one without a
selector where it is read ahead. -/
theorem comeAhead_of_payloadAhead {payload payload' : Value} (h : PayloadAhead payload payload')
    (hlegible : Legible payload) :
    payload' = payload ∨ ComeAhead payload payload' ∨
      ∃ r : Rule, r.selector = none ∧ ComesTo payload (.ok []) ∧ ComesTo payload' (.ok [r]) := by
  cases h with
  | same => exact .inl rfl
  | @list _ vs vs' hp h =>
    have hp := hlegible.decode_eq hp
    refine .inr (.inl ⟨_, _, comesTo_of_decode hp, comesTo_of_decode rfl, ?_⟩)
    rw [entriesOf_list, entriesOf_list]
    exact matched_ofList h fun hshort => (isShort_of_decode hp).trans hshort
  | rule r h =>
    have hr : ComeAhead r.toValue payload' := by
      cases h with
      | same => exact comeAhead_of_entry rfl rfl rfl rfl (.same _)
      | rule h => exact comeAhead_of_entry rfl rfl rfl rfl (.rule h)
    exact .inr (.inl hr)
  | @map _ _ es hp h =>
    have hp := hlegible.decode_eq hp
    cases es with
    | nil =>
      -- by itself the empty map is passed over, but the rule that it describes is not
      have hnone : ComesTo payload (.ok []) := comesTo_of_decode hp
      cases h with
      | same => exact .inr (.inl ⟨_, _, hnone, comesTo_of_decode rfl, .ok .nil⟩)
      | map hes =>
        cases hes
        exact .inr (.inl ⟨_, _, hnone, comesTo_of_decode rfl, .ok .nil⟩)
      | @read _ _ r hes hr =>
        cases hes
        have hselector : r.selector = none := by
          rw [← Except.ok.inj hr]
          rfl
        exact .inr (.inr ⟨r, hselector, hnone, comesTo_toValue r⟩)
    | cons e es =>
      refine .inr (.inl ?_)
      cases h with
      | same => exact comeAhead_of_entry hp rfl rfl rfl (.same _)
      | map hes =>
        cases hes with
        | cons he hes => exact comeAhead_of_entry hp rfl rfl rfl (.map (.cons he hes))
      | read hes hr => exact comeAhead_of_entry hp rfl rfl rfl (.read hes hr)

end Rule

namespace Extraction

open Rule

variable {ν : Type} {view : View ν} {node : ν} {short : Bool}

/-! ### What a caller sees -/

/-- What a caller is told of a failure: the complaint, and the declared kind of the rule that is to
blame, where one is. -/
def Failure.told (f : Failure) : Complaint × Option Value :=
  (f.complaint,
    match f with
    | .rule r _ => some r.declared
    | _ => none)

/-- What a caller sees of an extraction: the accesses that it makes, in order, and the map that it
yields or what is told of its failure. -/
def Run.seen (x : Run ν Entries) : List (Access ν) × Except (Complaint × Option Value) Entries :=
  (x.accesses, x.outcome.mapError Failure.told)

theorem told_rule (r : Rule) (flaw : Flaw) :
    (Failure.rule r flaw).told = (⟨.rule, r.message flaw, some r.name⟩, some r.declared) := rfl

/-- A rule whose source is read ahead is blamed in the same words for the same flaw. -/
theorem told_ofFlaw {r r' : Rule} (h : AheadRule short r r') (flaw : Flaw) :
    (Failure.ofFlaw r' flaw).told = (Failure.ofFlaw r flaw).told := by
  by_cases hflaw : flaw = .untold
  · rw [hflaw]
    rfl
  · have hmessage : r'.message flaw = r.message flaw := by
      unfold Rule.message
      rw [h.name, h.selector, h.source.typeName_eq]
    rw [Failure.ofFlaw_of_ne hflaw, Failure.ofFlaw_of_ne hflaw, told_rule, told_rule, hmessage,
      h.name, h.declared]

/-- One extraction fails for an integer with too many digits where another, after the same accesses,
blames a rule for its source. -/
def Run.Blurs (x y : Run ν Entries) : Prop :=
  x.accesses = y.accesses ∧ x.outcome = .error .longInteger ∧
    ∃ r reason, y.outcome = .error (.rule r (.nestedRules reason))

theorem seen_or_blurs_of_ahead {rules rules' : List Rule}
    (h : List.Forall₂ (AheadRule short) rules rules') :
    (resolve view node rules').seen = (resolve view node rules).seen ∨
      short = false ∧ (resolve view node rules).Blurs (resolve view node rules') := by
  obtain ⟨haccesses, houtcome⟩ : Run.Alike (Failure.Alike (FlawAhead short) (AheadRule short))
    (resolve view node rules) (resolve view node rules') := resolve_alike simulation_ahead h node
  unfold Run.seen Run.Blurs
  rw [haccesses]
  match (resolve view node rules).outcome, (resolve view node rules').outcome, houtcome with
  | .ok _, .ok _, .ok rfl => exact .inl rfl
  | .error _, .error _, .error (.same f) => exact .inl rfl
  | .error _, .error _, .error (.flaw hr (.inl rfl)) =>
    exact .inl (congrArg _ (congrArg Except.error (told_ofFlaw hr _)))
  | .error _, .error _, .error (.flaw hr (.inr ⟨hno, rfl, reason, rfl⟩)) =>
    exact .inr ⟨hno, rfl, rfl, _, reason, rfl⟩

/-- A rule without a selector is as good as none. -/
theorem resolve_of_no_selector {r : Rule} (h : r.selector = none) :
    resolve view node [r] = resolve view node [] := by
  rw [resolve_singleton, applyRule, apply, h]
  rfl

/-- **Reading ahead changes nothing, as far as failures can be told.**  In a payload some maps are
replaced by the rules that they describe: entries of the payload, or entries of the sources in it, at
any depth.  Then both payloads are refused for the same reason, each shown as it is, or both hold
rules.  In that case an extraction makes the same accesses and yields the same map, or fails with the
same complaint about a rule of the same declared kind, at every node of every tree.

A map may hold an integer with too many digits in a field that no rule has.  Read ahead, it is lost.
So a text may have rules only then: before that it cannot be read.  And a payload that is refused, or
a rule whose source is, may be blamed only then: before that, the failure is the one of the integer.
No other difference can be seen, and none where the payload has no such integer.

In particular rules that have been read are read as they are. -/
theorem resolve_of_read_ahead {payload payload' : Value} (h : PayloadAhead payload payload') :
    ((∃ reason shown shown', parse payload = .error (.refused payload shown reason) ∧
        parse payload' = .error (.refused payload' shown' reason)) ∨
      (∃ n, parse payload = .error (.tooLong (.read n))) ∨
      (payload.isShort = false ∧ parse payload = .error (.tooLong .written) ∧
        (parse payload' = .error (.tooLong .written) ∨
          ∃ shown reason, parse payload' = .error (.refused payload' shown reason))) ∨
      ∃ rules rules', parse payload = .ok rules ∧ parse payload' = .ok rules' ∧
        ∀ (ν : Type) (view : View ν) (node : ν),
          (resolve view node rules').seen = (resolve view node rules).seen ∨
            payload.isShort = false ∧ (resolve view node rules).Blurs (resolve view node rules')) ∧
    ∀ rules : List Rule, parse (.list (rules.map toValue)) = .ok rules := by
  refine ⟨?_, parse_toValue⟩
  by_cases hread : ∃ n, decode payload = .error (.tooLong (.read n))
  · obtain ⟨n, hn⟩ := hread
    exact .inr (.inl ⟨n, by rw [parse, hn]⟩)
  have hlegible : Legible payload := not_exists.1 hread
  obtain rfl | ⟨x, x', hx, hx', hmatched⟩ | ⟨r, hr, hnone, hone⟩ :=
    comeAhead_of_payloadAhead h hlegible
  · cases hp : parse payload' with
    | ok rules => exact .inr (.inr (.inr ⟨rules, rules, rfl, rfl, fun _ _ _ => .inl rfl⟩))
    | error e =>
      cases e with
      | refused quoted shown reason =>
        obtain rfl := (parse_eq_refused_iff.1 hp).1
        exact .inl ⟨reason, shown, shown, rfl, rfl⟩
      | tooLong error =>
        cases error with
        | read n => exact .inr (.inl ⟨n, rfl⟩)
        | written => exact .inr (.inr (.inl ⟨(parse_eq_written_iff.1 hp).1, rfl, .inl rfl⟩))
  · cases hmatched with
    | ok hrules =>
      exact .inr (.inr (.inr ⟨_, _, hx, hx', fun _ _ _ => seen_or_blurs_of_ahead hrules⟩))
    | @error reason _ heq =>
      cases heq
      have hp : parse payload = .error (refusal payload reason) := hx
      have hp' : parse payload' = .error (refusal payload' reason) := hx'
      -- what could be shown before can be shown when maps are read ahead
      rcases refusal_cases payload reason with ⟨shown, hshown, he⟩ | ⟨hlong, he⟩ <;>
        rcases refusal_cases payload' reason with ⟨shown', hshown', he'⟩ | ⟨hlong', he'⟩ <;>
        rw [he] at hp <;> rw [he'] at hp'
      · exact .inl ⟨reason, shown, shown', hp, hp'⟩
      · have hshort : payload.isShort = true := by rw [← payload.isSome_shown?, hshown]; rfl
        cases hlong'.symm.trans (isShort_of_payloadAhead h hlegible hshort)
      · exact .inr (.inr (.inl ⟨hlong, hp, .inr ⟨shown', reason, hp'⟩⟩))
      · exact .inr (.inr (.inl ⟨hlong, hp, .inl hp'⟩))
  · refine .inr (.inr (.inr ⟨_, _, hnone, hone, fun ν view node => .inl ?_⟩))
    rw [resolve_of_no_selector hr]

/-- A rule for titles, written as a map. -/
def titleEntry : Value :=
  .map [("varName", .text "title"), ("selector", .text "b"), ("valueType", .text "text")]

/-- The rule that it describes. -/
def titleRule : Rule :=
  ⟨"title", some "b", .text "text", .null, some false⟩

/-- A rule for all entries, written as a map, that has another nested in it. -/
def entriesWith (inner : Value) : Value :=
  .map [("varName", .text "entries"), ("selector", .text "li"), ("valueType", .text "object"),
    ("valueBy", .list [inner]), ("multi", .bool true)]

theorem ahead_titleEntry : Ahead titleEntry titleRule.toValue :=
  .read (List.forall₂_same.2 fun e _ => .same e) rfl

/-- The nested rule is read ahead, and nobody can tell. -/
theorem resolve_of_read_ahead_title :
    PayloadAhead (entriesWith titleEntry) (entriesWith titleRule.toValue) ∧
    (∃ rules rules', parse (entriesWith titleEntry) = .ok rules ∧
      parse (entriesWith titleRule.toValue) = .ok rules' ∧
      ∀ (ν : Type) (view : View ν) (node : ν),
        (resolve view node rules').seen = (resolve view node rules).seen) ∧
    parse (.list [titleRule.toValue]) = .ok [titleRule] := by
  have hsource :
      AheadField ("valueBy", .list [titleEntry]) ("valueBy", .list [titleRule.toValue]) :=
    .source (by decide) (.list (.cons ahead_titleEntry .nil))
  have h : PayloadAhead (entriesWith titleEntry) (entriesWith titleRule.toValue) :=
    .map (.itself nofun nofun) (.map (.cons (.same _) (.cons (.same _) (.cons (.same _)
      (.cons hsource (.cons (.same _) .nil))))))
  obtain ⟨halike, hread⟩ := resolve_of_read_ahead h
  refine ⟨h, ?_, hread [titleRule]⟩
  have hp : parse (entriesWith titleEntry) =
    .ok [⟨"entries", some "li", .text "object", .list [titleEntry], some true⟩] := rfl
  obtain ⟨reason, shown, -, hrefused, -⟩ | ⟨n, hlong⟩ | ⟨hlong, -⟩ |
    ⟨rules, rules', hrules, hrules', hseen⟩ := halike
  · cases hp.symm.trans hrefused
  · cases hp.symm.trans hlong
  · cases hlong
  · refine ⟨rules, rules', hrules, hrules', fun ν view node => (hseen ν view node).resolve_right ?_⟩
    rintro ⟨hlong, -⟩
    cases hlong

/-- A map has an integer of one digit too many, in a field that no rule has.  As a text it cannot be
read, but the rule that it describes can; and where it comes before an entry that is none, the entry
is blamed only where the map is read ahead. -/
theorem parse_of_read_ahead_long :
    let n : Int := 10 ^ Text.Numeral.maxDigits
    let r : Rule := ⟨"", none, .null, .null, some false⟩
    let text : Value := .text (Json.entryText "extra" n)
    let payload : Value := .list [.map [("extra", .int n)], .int 5]
    let payload' : Value := .list [r.toValue, .int 5]
    (PayloadAhead text r.toValue ∧ parse r.toValue = .ok [r] ∧
      ∃ digits, parse text = .error (.tooLong (.read digits))) ∧
    PayloadAhead payload payload' ∧ parse payload = .error (.tooLong .written) ∧
      ∃ shown, parse payload' = .error (.refused payload' shown (.entry "int")) := by
  intro n r text payload payload'
  have hahead : Ahead (.map [("extra", .int n)]) r.toValue :=
    .read (List.forall₂_same.2 fun e _ => .same e) rfl
  have hlong : (Value.map [("extra", .int n)]).isShort = false := by decide +kernel
  have hspells : Spells text (.map [("extra", .int n)]) :=
    .read .text (Json.readChars_entryText "extra" n)
  have hdigits : ∃ digits, parse text = .error (.tooLong (.read digits)) := by
    obtain hdecode | ⟨digits, hdigits⟩ := decode_of_spells hspells
    · -- what can be read has no such integer
      cases hlong.symm.trans (isShort_of_decode hdecode)
    · exact ⟨digits, by rw [parse, hdigits]⟩
  have hp : parse payload = .error (refusal payload (.entry "int")) := rfl
  have hlongs : payload.isShort = false := by decide +kernel
  refine ⟨⟨.map hspells hahead, rfl, hdigits⟩, ?_, hp.trans (congrArg _ (refusal_of_long hlongs)),
    _, rfl⟩
  exact .list (.itself nofun nofun) (.cons hahead (.cons (.same _) .nil))

end Extraction

end Harvest
