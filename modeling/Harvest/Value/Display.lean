import Harvest.Decimal.Layout
import Harvest.Text.Quoted
import Harvest.Value.Basic

/-!
# Values in messages

`Value.quoted?` writes a value so that its kind can be told from the text: texts are quoted, lists
stand in brackets, maps in braces and tuples in parentheses.  `Value.shown?` is the same but for a
text, which is shown bare.

An integer with more than `Text.Numeral.maxDigits` digits is not written, and neither is a value with
such an integer anywhere in it (`Value.isShort`, `isSome_quoted?`, `isSome_shown?`).
-/

namespace Harvest.Value

/-- A name for a truth value. -/
def boolText (b : Bool) : String :=
  if b then "True" else "False"

/-- A text between quotes, or the absent value. -/
def optionalText : Option String → String
  | some s => Text.Quoted.text s
  | none => "None"

/-- A truth value, or the absent value. -/
def optionalBool : Option Bool → String
  | some b => boolText b
  | none => "None"

/-- A list of texts inside a pair of brackets. -/
def enclosed (opening closing : String) (parts : List String) : String :=
  opening ++ ", ".intercalate parts ++ closing

mutual
/-- A value so that its kind can be told from the text, if its integers can be written. -/
def quoted? : Value → Option String
  | null => some "None"
  | bool b => some (boolText b)
  | int n => if Text.Numeral.isLong n then none else some (Text.intText n)
  | float x => some (Decimal.plain.float x)
  | text s => some (Text.Quoted.text s)
  | bytes bs => some (Text.Quoted.bytes bs)
  | buffer bs => some ("bytearray(" ++ Text.Quoted.bytes bs ++ ")")
  | list vs => (quotedAll? vs).map (enclosed "[" "]")
  | tuple [v] => (quoted? v).map fun s => "(" ++ s ++ ",)"
  | tuple vs => (quotedAll? vs).map (enclosed "(" ")")
  | map es => (quotedEntries? es).map (enclosed "\x7b" "\x7d")
  | rule name selector declared source multi =>
    (quoted? declared).bind fun declared =>
      (quoted? source).map fun source =>
        "Rule(var_name=" ++ Text.Quoted.text name ++ ", selector=" ++ optionalText selector ++
          ", value_type=" ++ declared ++ ", value_by=" ++ source ++
          ", multi=" ++ optionalBool multi ++ ")"

/-- Each value of a list, quoted. -/
def quotedAll? : List Value → Option (List String)
  | [] => some []
  | v :: vs => (quoted? v).bind fun s => (quotedAll? vs).map (s :: ·)

/-- Each entry of a map, quoted. -/
def quotedEntries? : List (String × Value) → Option (List String)
  | [] => some []
  | (k, v) :: es =>
    (quoted? v).bind fun s => (quotedEntries? es).map ((Text.Quoted.text k ++ ": " ++ s) :: ·)
end

/-- A value in a message: a text is shown bare, a rule as its fields. -/
def shown? : Value → Option String
  | text s => some s
  | rule name selector declared source multi =>
    (quoted? declared).bind fun declared =>
      (quoted? source).map fun source =>
        "var_name=" ++ Text.Quoted.text name ++ " selector=" ++ optionalText selector ++
          " value_type=" ++ declared ++ " value_by=" ++ source ++ " multi=" ++ optionalBool multi
  | v => quoted? v

/-! ### Values that can be written -/

mutual
/-- Whether no integer in a value has too many digits. -/
def isShort : Value → Bool
  | int n => !Text.Numeral.isLong n
  | list vs => allShort vs
  | tuple vs => allShort vs
  | map es => entriesShort es
  | rule _ _ declared source _ => isShort declared && isShort source
  | _ => true

/-- Whether no integer in some values has too many digits. -/
def allShort : List Value → Bool
  | [] => true
  | v :: vs => isShort v && allShort vs

/-- Whether no integer in some entries has too many digits. -/
def entriesShort : List (String × Value) → Bool
  | [] => true
  | (_, v) :: es => isShort v && entriesShort es
end

theorem allShort_iff {vs : List Value} : allShort vs = true ↔ ∀ v ∈ vs, v.isShort = true := by
  induction vs with
  | nil => simp [allShort]
  | cons v vs ih => simp [allShort, ih]

theorem entriesShort_iff {es : List (String × Value)} :
    entriesShort es = true ↔ ∀ e ∈ es, e.2.isShort = true := by
  induction es with
  | nil => simp [entriesShort]
  | cons e es ih => simp [entriesShort, ih]

theorem isSome_bind_map {α β γ : Type} (x : Option α) (y : Option β) (f : α → β → γ) :
    (x.bind fun a => y.map (f a)).isSome = (x.isSome && y.isSome) := by
  cases x <;> simp

mutual
/-- A value can be quoted if its integers can be written. -/
theorem isSome_quoted? : (v : Value) → (quoted? v).isSome = v.isShort
  | null => by simp [quoted?, isShort]
  | bool _ => by simp [quoted?, isShort]
  | int n => by cases h : Text.Numeral.isLong n <;> simp [quoted?, isShort, h]
  | float _ => by simp [quoted?, isShort]
  | text _ => by simp [quoted?, isShort]
  | bytes _ => by simp [quoted?, isShort]
  | buffer _ => by simp [quoted?, isShort]
  | list vs => by simp [quoted?, isShort, isSome_quotedAll? vs]
  | tuple [] => by simp [quoted?, isShort, quotedAll?, allShort]
  | tuple [v] => by simp [quoted?, isShort, allShort, isSome_quoted? v]
  | tuple (v :: w :: vs) => by simp [quoted?, isShort, isSome_quotedAll? (v :: w :: vs)]
  | map es => by simp [quoted?, isShort, isSome_quotedEntries? es]
  | rule _ _ declared source _ => by
    rw [quoted?, isShort, isSome_bind_map, isSome_quoted? declared, isSome_quoted? source]

theorem isSome_quotedAll? : (vs : List Value) → (quotedAll? vs).isSome = allShort vs
  | [] => by simp [quotedAll?, allShort]
  | v :: vs => by
    rw [quotedAll?, allShort, isSome_bind_map, isSome_quoted? v, isSome_quotedAll? vs]

theorem isSome_quotedEntries? :
    (es : List (String × Value)) → (quotedEntries? es).isSome = entriesShort es
  | [] => by simp [quotedEntries?, entriesShort]
  | (_, v) :: es => by
    rw [quotedEntries?, entriesShort, isSome_bind_map, isSome_quoted? v, isSome_quotedEntries? es]
end

/-- A value can be shown if its integers can be written. -/
theorem isSome_shown? (v : Value) : (shown? v).isSome = v.isShort := by
  cases v with
  | text s => simp [shown?, isShort]
  | rule name selector declared source multi =>
    rw [shown?, isShort, isSome_bind_map, isSome_quoted?, isSome_quoted?]
  | _ => exact isSome_quoted? _

end Harvest.Value
