import Harvest.Rule.Plan
import Mathlib.Tactic.SplitIfs

/-!
# Usable rules

`Rule.plan` reads a rule by a chain of checks.  `Rule.Unusable` says without them, on the declared
kind and the source as they were written, which rules no node can be given to, and
`Rule.unusable_iff` proves that these are the rules whose plan is flawed.  `Rule.Untellable` says in
the same way of which of them the flaw cannot be told (`Rule.plan_eq_untold_iff`).  `Rule.Planned`
lists what a plan can be and why; proofs about plans split on it.

The rules nested in an object rule (`Rule.inner`) are smaller than the rule, so what holds of a
rule as soon as it holds of its inner rules holds of all rules (`Rule.inner_induction`).
-/

namespace Harvest.Rule

/-! ### What is usable -/

/-- The declared kind in its plain spelling, without blanks around it and in small letters. -/
def word? (r : Rule) : Option String :=
  r.declared.text?.map fun s => String.ofList (Text.lower (Text.trim s.toList))

/-- A value stands for a rule: it is one already, or it is a map that describes one. -/
def Describes (v : Value) : Prop :=
  (∃ name selector declared source multi, v = .rule name selector declared source multi) ∨
    ∃ es r, v = .map es ∧ ofEntries es = .ok r

/-- The ways in which a rule can be applied to no node. -/
inductive Unusable (r : Rule) : Prop where
  /-- The declared kind is no text, or is none of the known words. -/
  | kind (h : ∀ word, r.word? = some word → word ∉ ["text", "attr", "attribute", "object"])
  /-- A rule for texts or attributes has a source that is neither absent nor a name. -/
  | name {word : String} (h : r.word? = some word) (hw : word ∈ ["text", "attr", "attribute"])
      (hnull : r.source ≠ .null) (htext : ∀ s, r.source ≠ .text s)
  /-- A rule for maps has a source that is not a list of rules. -/
  | rules (h : r.word? = some "object")
      (hs : ¬ ∃ vs, r.source = .list vs ∧ ∀ v ∈ vs, Describes v)

/-- The words for a kind. -/
def Kind.words : Kind → List String
  | .text => ["text"]
  | .attr => ["attr", "attribute"]
  | .object => ["object"]

theorem lookup_spellings_iff {word : String} {k : Kind} :
    Kind.spellings.lookup word = some k ↔ word ∈ k.words := by
  by_cases h : word ∈ ["text", "attr", "attribute", "object"]
  · simp only [List.mem_cons, List.not_mem_nil, or_false] at h
    rcases h with rfl | rfl | rfl | rfl <;> cases k <;> decide
  · have hnone : Kind.spellings.lookup word = none := by
      rw [List.lookup_eq_none_iff]
      simpa [Kind.spellings] using h
    rw [hnone]
    cases k <;> simp_all [Kind.words]

theorem kind_eq_ok_iff {r : Rule} {k : Kind} :
    r.kind = .ok k ↔ ∃ word, r.word? = some word ∧ word ∈ k.words := by
  have hkind : r.kind = (r.word?.bind fun w => Kind.spellings.lookup w).elim
      (.error (.showing r.declared .kind)) .ok := by
    unfold kind word? Kind.ofText?
    rw [Option.bind_map, Function.comp_def]
  rw [hkind]
  cases r.word? with
  | none => simp
  | some word =>
    simp only [Option.bind_some, Option.some.injEq, exists_eq_left', ← lookup_spellings_iff]
    cases Kind.spellings.lookup word <;> simp

theorem exists_ofEntry_iff {v : Value} : (∃ r, ofEntry v = .ok r) ↔ Describes v := by
  unfold ofEntry Describes
  cases v with
  | rule name selector declared source multi => simp
  | map es => cases h : ofEntries es <;> simp [Validation.Checked.report, Except.mapError, h]
  | _ => simp

theorem exists_ofList_iff {vs : List Value} :
    (∃ rs, ofList vs = .ok rs) ↔ ∀ v ∈ vs, Describes v := by
  induction vs with
  | nil => simp [ofList]
  | cons v vs ih =>
    rw [List.forall_mem_cons, ← ih, ← exists_ofEntry_iff, ofList]
    cases hv : ofEntry v with
    | error reason => simp
    | ok r => cases hvs : ofList vs <;> simp [Except.map]

theorem exists_nested_iff {r : Rule} :
    (∃ rules, r.nested = .ok rules) ↔ ∃ vs, r.source = .list vs ∧ ∀ v ∈ vs, Describes v := by
  simp only [nested_eq_ok_iff, ← exists_ofList_iff]
  constructor
  · rintro ⟨rules, vs, hs, hrules⟩
    exact ⟨vs, hs, rules, hrules⟩
  · rintro ⟨vs, hs, rules, hrules⟩
    exact ⟨rules, vs, hs, hrules⟩

theorem exists_attributeName_iff {r : Rule} :
    (∃ name, r.attributeName = .ok name) ↔ r.source = .null ∨ ∃ s, r.source = .text s := by
  unfold attributeName
  split
  next h => simp [h]
  next s h => simp [h]
  next h1 h2 => simpa using ⟨h1, h2⟩

/-! ### What a plan can be -/

/-- A plan by its checks; that nesting ends is no part of it. -/
theorem plan_eq (r : Rule) : r.plan =
    match r.kind with
    | .error flaw => .flawed flaw
    | .ok .text =>
      match r.attributeName with
      | .error flaw => .flawed flaw
      | .ok _ => .text
    | .ok .attr =>
      match r.attributeName with
      | .error flaw => .flawed flaw
      | .ok name => .attr name
    | .ok .object =>
      match r.nested with
      | .error flaw => .flawed flaw
      | .ok rules => .object (plans rules) := by
  cases hk : r.kind with
  | error flaw => rw [plan, hk]
  | ok k =>
    cases k with
    | text =>
      rw [plan]
      cases r.attributeName <;> simp only [hk]
    | attr =>
      rw [plan]
      cases r.attributeName <;> simp only [hk]
    | object =>
      cases hn : r.nested with
      | error flaw =>
        rw [plan, hk]
        simp only
        split
        next flaw' h => rw [hn] at h; cases h; rfl
        next rules h => rw [hn] at h; cases h
      | ok rules => exact plan_of_kind_object hk hn

/-- What the plan of a rule can be, with the checks that led to it. -/
inductive Planned (r : Rule) : Plan → Prop where
  /-- Texts. -/
  | text {name : Option String} (hk : r.kind = .ok .text) (hn : r.attributeName = .ok name) :
      Planned r .text
  /-- Attributes. -/
  | attr {name : Option String} (hk : r.kind = .ok .attr) (hn : r.attributeName = .ok name) :
      Planned r (.attr name)
  /-- Maps. -/
  | object {rules : List Rule} (hk : r.kind = .ok .object) (hn : r.nested = .ok rules) :
      Planned r (.object (plans rules))
  /-- Nothing. -/
  | flawed {flaw : Flaw} (h : r.Unusable) : Planned r (.flawed flaw)

theorem unusable_of_kind {r : Rule} {flaw : Flaw} (h : r.kind = .error flaw) : r.Unusable := by
  refine .kind fun word hw hmem => ?_
  have hno (k : Kind) : ¬ ∃ word, r.word? = some word ∧ word ∈ k.words := by
    rw [← kind_eq_ok_iff, h]
    simp
  simp only [List.mem_cons, List.not_mem_nil, or_false] at hmem
  rcases hmem with rfl | rfl | rfl | rfl
  · exact hno .text ⟨_, hw, by decide⟩
  · exact hno .attr ⟨_, hw, by decide⟩
  · exact hno .attr ⟨_, hw, by decide⟩
  · exact hno .object ⟨_, hw, by decide⟩

theorem unusable_of_attributeName {r : Rule} {k : Kind} {flaw : Flaw} (hk : r.kind = .ok k)
    (hne : k ≠ .object) (hn : r.attributeName = .error flaw) : r.Unusable := by
  obtain ⟨word, hw, hmem⟩ := kind_eq_ok_iff.1 hk
  have hno : ¬ ∃ name, r.attributeName = .ok name := by simp [hn]
  rw [exists_attributeName_iff, not_or, not_exists] at hno
  refine .name hw ?_ hno.1 hno.2
  cases k <;> simp_all [Kind.words]

theorem unusable_of_nested {r : Rule} {flaw : Flaw} (hk : r.kind = .ok .object)
    (hn : r.nested = .error flaw) : r.Unusable := by
  obtain ⟨word, hw, hmem⟩ := kind_eq_ok_iff.1 hk
  have hno : ¬ ∃ rules, r.nested = .ok rules := by simp [hn]
  cases List.mem_singleton.1 hmem
  exact .rules hw (mt exists_nested_iff.2 hno)

theorem planned_plan (r : Rule) : Planned r r.plan := by
  rw [plan_eq]
  split
  next flaw hk => exact .flawed (unusable_of_kind hk)
  next hk =>
    split
    next flaw hn => exact .flawed (unusable_of_attributeName hk (by decide) hn)
    next name hn => exact .text hk hn
  next hk =>
    split
    next flaw hn => exact .flawed (unusable_of_attributeName hk (by decide) hn)
    next name hn => exact .attr hk hn
  next hk =>
    split
    next flaw hn => exact .flawed (unusable_of_nested hk hn)
    next rules hn => exact .object hk hn

/-- A rule that can be used has a known kind, and a source that fits it. -/
theorem not_unusable {r : Rule} {k : Kind} (hk : r.kind = .ok k)
    (hname : k ≠ .object → ∃ name, r.attributeName = .ok name)
    (hrules : k = .object → ∃ rules, r.nested = .ok rules) : ¬ r.Unusable := by
  obtain ⟨word, hw, hmem⟩ := kind_eq_ok_iff.1 hk
  rintro (hno | ⟨hw', hword, hnull, htext⟩ | ⟨hw', hno⟩)
  · exact hno word hw (by cases k <;> simp_all [Kind.words])
  · cases hw.symm.trans hw'
    have hne : k ≠ .object := by
      rintro rfl
      cases List.mem_singleton.1 hmem
      exact absurd hword (by decide)
    rcases exists_attributeName_iff.1 (hname hne) with h | ⟨s, h⟩
    · exact hnull h
    · exact htext s h
  · cases hw.symm.trans hw'
    have hobject : k = .object := by cases k <;> simp_all [Kind.words]
    exact hno (exists_nested_iff.1 (hrules hobject))

/-- **The rules that cannot be used are those whose plan is flawed.** -/
theorem unusable_iff {r : Rule} : r.Unusable ↔ ∃ flaw, r.plan = .flawed flaw := by
  constructor
  · intro h
    have hp := planned_plan r
    generalize r.plan = p at hp ⊢
    cases hp with
    | text hk hn => exact absurd h (not_unusable hk (fun _ => ⟨_, hn⟩) (absurd · (by decide)))
    | attr hk hn => exact absurd h (not_unusable hk (fun _ => ⟨_, hn⟩) (absurd · (by decide)))
    | object hk hn => exact absurd h (not_unusable hk (fun hne => absurd rfl hne) fun _ => ⟨_, hn⟩)
    | flawed => exact ⟨_, rfl⟩
  · rintro ⟨flaw, hp⟩
    have h := planned_plan r
    rw [hp] at h
    cases h with
    | flawed h => exact h

/-! ### Flaws that cannot be told -/

/-- The ways in which the flaw of a rule cannot be told: a value that its message would show has an
integer with too many digits. -/
inductive Untellable (r : Rule) : Prop where
  /-- The value is the declared kind, which is no text then. -/
  | declared (h : r.declared.isShort = false)
  /-- The value is the source, a list with an entry that stands for no rule. -/
  | source {vs : List Value} (h : r.word? = some "object") (hs : r.source = .list vs)
      (hbad : ¬ ∀ v ∈ vs, Describes v) (hlong : r.source.isShort = false)

theorem Flaw.showing_eq_untold_iff {v : Value} {flaw : String → Flaw}
    (h : ∀ shown, flaw shown ≠ .untold) : Flaw.showing v flaw = .untold ↔ v.isShort = false := by
  cases hv : v.isShort with
  | true =>
    obtain ⟨shown, hshown⟩ := Flaw.showing_of_short hv flaw
    simp [hshown, h]
  | false => simp [Flaw.showing_of_long hv]

theorem isShort_of_word? {r : Rule} {word : String} (h : r.word? = some word) :
    r.declared.isShort = true := by
  unfold word? at h
  cases hd : r.declared with
  | text s => rfl
  | _ => rw [hd] at h; cases h

theorem kind_eq_untold_iff {r : Rule} : r.kind = .error .untold ↔ r.declared.isShort = false := by
  rw [kind]
  cases h : r.declared.text?.bind Kind.ofText? with
  | none =>
    rw [Option.elim_none, Except.error.injEq]
    exact Flaw.showing_eq_untold_iff (by simp)
  | some k =>
    obtain ⟨word, hword, -⟩ := kind_eq_ok_iff.1 (show r.kind = .ok k by rw [kind, h]; rfl)
    simp [isShort_of_word? hword]

theorem attributeName_ne_untold {r : Rule} {k : Kind} (hk : r.kind = .ok k) :
    r.attributeName ≠ .error .untold := by
  obtain ⟨word, hword, -⟩ := kind_eq_ok_iff.1 hk
  unfold attributeName
  split
  · simp
  · simp
  · rw [Ne, Except.error.injEq, Flaw.showing_eq_untold_iff (by simp), isShort_of_word? hword]
    simp

theorem nested_eq_untold_iff {r : Rule} : r.nested = .error .untold ↔
    ∃ vs, r.source = .list vs ∧ (¬ ∀ v ∈ vs, Describes v) ∧ r.source.isShort = false := by
  unfold nested
  split
  next vs hs =>
    have huntold (reason : Reason) :
        Flaw.showing r.source (fun _ => .nestedRules reason.message) = .untold ↔
          r.source.isShort = false :=
      Flaw.showing_eq_untold_iff (by simp)
    simp only [mapError_eq_error_iff, huntold, ← exists_ofList_iff]
    cases hvs : ofList vs <;> simp [hs, hvs]
  next hno => simpa using fun vs hs => absurd hs (hno vs)

/-- The flaw of a plan is the one of the first check that fails. -/
theorem plan_eq_flawed_iff {r : Rule} {flaw : Flaw} : r.plan = .flawed flaw ↔
    r.kind = .error flaw ∨
      (r.kind = .ok .text ∨ r.kind = .ok .attr) ∧ r.attributeName = .error flaw ∨
      r.kind = .ok .object ∧ r.nested = .error flaw := by
  rw [plan_eq]
  cases hk : r.kind with
  | error flaw' => simp
  | ok k =>
    -- the nested rules of an object rule are checked, and the name that any other rule has
    cases k with
    | object => cases hn : r.nested <;> simp
    | text | attr => cases hn : r.attributeName <;> simp

/-- **The flaw of a rule cannot be told exactly if the message would show an integer with too many
digits.** -/
theorem plan_eq_untold_iff {r : Rule} : r.plan = .flawed .untold ↔ r.Untellable := by
  rw [plan_eq_flawed_iff, kind_eq_untold_iff]
  constructor
  · rintro (hlong | ⟨hk, hn⟩ | ⟨hk, hn⟩)
    · exact .declared hlong
    · exact absurd hn (hk.elim attributeName_ne_untold attributeName_ne_untold)
    · obtain ⟨word, hword, hmem⟩ := kind_eq_ok_iff.1 hk
      cases List.mem_singleton.1 hmem
      obtain ⟨vs, hs, hbad, hlong⟩ := nested_eq_untold_iff.1 hn
      exact .source hword hs hbad hlong
  · rintro (hlong | ⟨hword, hs, hbad, hlong⟩)
    · exact .inl hlong
    · have hk : r.kind = .ok .object := kind_eq_ok_iff.2 ⟨_, hword, List.mem_singleton_self _⟩
      exact .inr (.inr ⟨hk, nested_eq_untold_iff.2 ⟨_, hs, hbad, hlong⟩⟩)

/-- The message for a flaw that can be told starts with the name of the rule. -/
theorem exists_message_eq (r : Rule) {flaw : Flaw} (h : flaw ≠ .untold) :
    ∃ rest, r.message flaw = r.name ++ ": " ++ rest := by
  cases flaw with
  | untold => exact absurd rfl h
  | _ => exact ⟨_, rfl⟩

/-! ### Inner rules -/

/-- The rules that a rule for maps applies to each of its nodes; other rules have none. -/
def inner (r : Rule) : List Rule :=
  match r.kind, r.nested with
  | .ok .object, .ok rules => rules
  | _, _ => []

theorem inner_of_kind {r : Rule} {k : Kind} (hk : r.kind = .ok k) (hne : k ≠ .object) :
    r.inner = [] := by
  unfold inner
  split
  next h _ => exact absurd (Except.ok.inj (hk.symm.trans h)) hne
  next => rfl

theorem inner_of_nested {r : Rule} {rules : List Rule} (hk : r.kind = .ok .object)
    (hn : r.nested = .ok rules) : r.inner = rules := by
  rw [inner, hk, hn]

theorem depth_lt_of_mem_inner {r r' : Rule} (h : r' ∈ r.inner) :
    r'.source.depth < r.source.depth := by
  unfold inner at h
  split at h
  next rules _ hn => exact depth_lt_of_mem_nested hn h
  next => cases h

/-- Induction from the inner rules to the rule that holds them. -/
@[elab_as_elim]
theorem inner_induction {P : Rule → Prop} (step : ∀ r, (∀ r' ∈ r.inner, P r') → P r) (r : Rule) :
    P r :=
  step r fun r' h =>
    have := depth_lt_of_mem_inner h
    inner_induction step r'
  termination_by r.source.depth

end Harvest.Rule
