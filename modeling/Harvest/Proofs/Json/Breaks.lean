import Harvest.Proofs.Json.Line
import Harvest.Text.Lines

/-!
# JSON text and line breaks

A text file is read with its line breaks unified, so what a reader gets need not be what was written.
To unify line breaks is to respace a text (`Respaces`): text without carriage returns stays as it is,
and white space stays white space.

`ReadsThrough` says of a text what `ReadsAs` says of it, with the whole text respaced before it is
read.  Where two texts meet a carriage return and a line feed may become one, but both are white
space; so texts can be put together piece by piece (`ReadsThrough.append`), and every piece that is
white space or has no carriage return in it goes through (`lexesThrough_spaces`, `ReadsAs.through`).
-/

namespace Harvest

/-! ### Unified line breaks -/

namespace Text

theorem unifyBreaks_cons_of_ne {c : Char} (h : c ≠ '\r') (cs : List Char) :
    unifyBreaks (c :: cs) = c :: unifyBreaks cs := by
  rw [unifyBreaks.eq_def]
  split
  next heq => cases heq
  next heq =>
    cases heq
    exact absurd rfl h
  next heq =>
    cases heq
    rw [if_neg h]

theorem unifyBreaks_append {cs : List Char} (h : '\r' ∉ cs) (rest : List Char) :
    unifyBreaks (cs ++ rest) = cs ++ unifyBreaks rest := by
  induction cs with
  | nil => rfl
  | cons c cs ih =>
    simp only [List.mem_cons, not_or] at h
    rw [List.cons_append, unifyBreaks_cons_of_ne (Ne.symm h.1), ih h.2, List.cons_append]

/-- A line break is unified alone, or together with the line feed behind it. -/
theorem unifyBreaks_return (cs : List Char) :
    unifyBreaks ('\r' :: cs) = '\n' :: unifyBreaks cs ∨
      ∃ ds, cs = '\n' :: ds ∧ unifyBreaks ('\r' :: cs) = '\n' :: unifyBreaks ds := by
  rw [unifyBreaks.eq_def]
  split
  next heq => cases heq
  next ds heq =>
    cases heq
    exact .inr ⟨ds, rfl, rfl⟩
  next heq =>
    cases heq
    exact .inl rfl

end Text

namespace Json

variable {f : List Char → List Char} {p q : List Char → Prop} {cs ds : List Char}
  {ts us : List Token}

/-! ### Respaced text -/

/-- What may be done to a text before it is read: text without carriage returns stays as it is, and
white space makes no difference. -/
structure Respaces (f : List Char → List Char) : Prop where
  nil : f [] = []
  append : ∀ {cs}, '\r' ∉ cs → ∀ rest, f (cs ++ rest) = cs ++ f rest
  space : ∀ {c}, isSpace c = true → ∀ rest, tokens (f (c :: rest)) = tokens (f rest)
  ends : ∀ {cs}, Ends cs → Ends (f cs)

theorem respaces_id : Respaces id where
  nil := rfl
  append _ _ := rfl
  space h rest := tokens_space h rest
  ends h := h

/-- **To unify line breaks is to respace a text.** -/
theorem respaces_unifyBreaks : Respaces Text.unifyBreaks where
  nil := rfl
  append := Text.unifyBreaks_append
  space {c} h rest := by
    by_cases hc : c = '\r'
    · subst hc
      have hfeed : isSpace '\n' = true := rfl
      obtain heq | ⟨ds, rfl, heq⟩ := Text.unifyBreaks_return rest
      · rw [heq, tokens_space hfeed]
      · rw [heq, Text.unifyBreaks_cons_of_ne (by decide)]
    · rw [Text.unifyBreaks_cons_of_ne hc, tokens_space h]
  ends {cs} h := by
    cases cs with
    | nil => exact h
    | cons c cs =>
      by_cases hc : c = '\r'
      · subst hc
        obtain heq | ⟨ds, -, heq⟩ := Text.unifyBreaks_return cs
        · rw [heq]
          exact ends_cons rfl _
        · rw [heq]
          exact ends_cons rfl _
      · rw [Text.unifyBreaks_cons_of_ne hc]
        exact ends_cons (h c rfl) _

/-- Text that is read as these tokens when it is respaced, together with what follows it, which is
as `p` says. -/
def ReadsThrough (f : List Char → List Char) (p : List Char → Prop) (cs : List Char)
    (ts : List Token) : Prop :=
  ∀ rest, p rest → ∃ ls, tokens (f (cs ++ rest)) = ls ++ tokens (f rest) ∧
    ls.map Located.token = ts

/-- Text that is read as these tokens when it is respaced, whatever follows it. -/
abbrev LexesThrough (f : List Char → List Char) (cs : List Char) (ts : List Token) : Prop :=
  ReadsThrough f (fun _ => True) cs ts

/-- Text that is read as these tokens when it is respaced, where no more of a number follows it. -/
abbrev SpellsThrough (f : List Char → List Char) (cs : List Char) (ts : List Token) : Prop :=
  ReadsThrough f Ends cs ts

/-! ### Pieces of text -/

/-- What has no carriage return in it goes through as it is. -/
theorem ReadsAs.through (h : ReadsAs p cs ts) (hf : Respaces f) (hno : '\r' ∉ cs)
    (hp : ∀ rest, p rest → p (f rest)) : ReadsThrough f p cs ts := by
  intro rest hrest
  rw [hf.append hno]
  exact h (f rest) (hp rest hrest)

theorem Lexes.through (h : Lexes cs ts) (hf : Respaces f) (hno : '\r' ∉ cs) :
    LexesThrough f cs ts :=
  ReadsAs.through h hf hno fun _ _ => trivial

theorem Spells.through (h : Spells cs ts) (hf : Respaces f) (hno : '\r' ∉ cs) :
    SpellsThrough f cs ts :=
  ReadsAs.through h hf hno fun _ => hf.ends

theorem LexesThrough.spells (h : LexesThrough f cs ts) : SpellsThrough f cs ts :=
  fun rest _ => h rest trivial

/-- White space is passed over. -/
theorem lexesThrough_spaces (hf : Respaces f) (h : ∀ c ∈ cs, isSpace c = true) :
    LexesThrough f cs [] := by
  induction cs with
  | nil => exact fun _ _ => ⟨[], rfl, rfl⟩
  | cons c cs ih =>
    obtain ⟨hc, hcs⟩ := List.forall_mem_cons.1 h
    intro rest _
    rw [List.cons_append, hf.space hc]
    exact ih hcs rest trivial

/-- Two texts in a row are read as the tokens of both. -/
theorem ReadsThrough.append (hc : ReadsThrough f q cs ts) (hd : ReadsThrough f p ds us)
    (hpq : ∀ rest, p rest → q (ds ++ rest)) : ReadsThrough f p (cs ++ ds) (ts ++ us) := by
  intro rest hrest
  obtain ⟨ls, hls, rfl⟩ := hc (ds ++ rest) (hpq rest hrest)
  obtain ⟨ms, hms, rfl⟩ := hd rest hrest
  exact ⟨ls ++ ms, by rw [List.append_assoc, hls, hms, List.append_assoc], List.map_append⟩

theorem LexesThrough.append (hc : LexesThrough f cs ts) (hd : ReadsThrough f p ds us) :
    ReadsThrough f p (cs ++ ds) (ts ++ us) :=
  ReadsThrough.append hc hd fun _ _ => trivial

theorem SpellsThrough.append (hc : SpellsThrough f cs ts) (hd : SpellsThrough f ds us)
    (he : Ends ds) : SpellsThrough f (cs ++ ds) (ts ++ us) :=
  ReadsThrough.append hc hd fun _ hrest => he.append hrest

/-- The tokens of a whole text. -/
theorem SpellsThrough.tokens_eq (h : SpellsThrough f cs ts) (hf : Respaces f) :
    (tokens (f cs)).map Located.token = ts := by
  obtain ⟨ls, hls, htokens⟩ := h [] (by simp [Ends])
  rw [List.append_nil, hf.nil, tokens, List.append_nil] at hls
  rw [hls, htokens]

end Json

end Harvest
