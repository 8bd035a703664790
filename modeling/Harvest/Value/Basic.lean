/-!
# Dynamic values

Input records, rule payloads and extracted records are trees of dynamic values.  `Value` has the
kinds that data files know (null, booleans, integers, floating-point numbers, text, lists and maps),
two kinds of binary data, tuples, and rules that have been read already.

A map keeps its keys in the order of their first insertion; `Entries` is that list of pairs, with
`put` and `get?`.  Main statements: `get?_put` (a map answers with the last value put) and
`keys_put` (a key keeps its place).
-/

namespace Harvest

/-- A dynamic value. -/
inductive Value where
  /-- The absent value. -/
  | null
  /-- A truth value. -/
  | bool (b : Bool)
  /-- An integer of any size. -/
  | int (n : Int)
  /-- A floating-point number. -/
  | float (x : Float)
  /-- A text. -/
  | text (s : String)
  /-- Binary data. -/
  | bytes (bs : List UInt8)
  /-- Binary data in a buffer that its owner may change. -/
  | buffer (bs : List UInt8)
  /-- A list. -/
  | list (vs : List Value)
  /-- A list of fixed length. -/
  | tuple (vs : List Value)
  /-- Values under text keys, in the order of insertion. -/
  | map (entries : List (String × Value))
  /-- An extraction rule: its name, selector, declared type, source and cardinality. -/
  | rule (name : String) (selector : Option String) (declared source : Value) (multi : Option Bool)
  deriving Inhabited

/-- The pairs of a map, each key once. -/
abbrev Entries := List (String × Value)

namespace Entries

/-- The value under a key. -/
def get? (es : Entries) (key : String) : Option Value :=
  es.lookup key

/-- The keys, in order. -/
def keys (es : Entries) : List String :=
  es.map Prod.fst

/-- The entries with a value put under a key; a key that is there keeps its place. -/
def put (key : String) (v : Value) : Entries → Entries
  | [] => [(key, v)]
  | (k, w) :: es => if k = key then (key, v) :: es else (k, w) :: put key v es

/-- The entries of a list of pairs, in which a later pair replaces an earlier one of its key. -/
def ofList (es : List (String × Value)) : Entries :=
  es.foldl (fun acc e => put e.1 e.2 acc) []

@[simp] theorem get?_nil (key : String) : get? [] key = none := rfl

theorem get?_cons (k key : String) (v : Value) (es : Entries) :
    get? ((k, v) :: es) key = if key = k then some v else get? es key := by
  by_cases h : key = k
  · simp [get?, h]
  · simp [get?, List.lookup_cons, beq_false_of_ne h, h]

theorem mem_of_get? {es : Entries} {key : String} {v : Value} (h : get? es key = some v) :
    (key, v) ∈ es := by
  obtain ⟨before, after, rfl, -⟩ := List.lookup_eq_some_iff.1 h
  exact List.mem_append_right _ List.mem_cons_self

/-- A map answers with the last value put under a key. -/
theorem get?_put (key k : String) (v : Value) (es : Entries) :
    get? (put key v es) k = if k = key then some v else get? es k := by
  induction es with
  | nil => simp [put, get?_cons]
  | cons e es ih =>
    obtain ⟨k', w⟩ := e
    by_cases h : k' = key
    · subst h
      by_cases hk : k = k' <;> simp [put, get?_cons, hk]
    · by_cases hk : k = k'
      · subst hk
        simp [put, get?_cons, h]
      · simp [put, get?_cons, h, hk, ih]

/-- An entry of a map with a value put into it is new, or an entry of the map. -/
theorem mem_put {key : String} {v : Value} {e : String × Value} {es : Entries}
    (h : e ∈ put key v es) : e = (key, v) ∨ e ∈ es := by
  induction es with
  | nil => exact .inl (List.mem_singleton.1 h)
  | cons e' es ih =>
    rw [put] at h
    split at h
    · exact (List.mem_cons.1 h).imp id (List.mem_cons_of_mem _)
    · rcases List.mem_cons.1 h with rfl | h
      · exact .inr List.mem_cons_self
      · exact (ih h).imp id (List.mem_cons_of_mem _)

/-- A key that is put keeps its place, and a new one comes last. -/
theorem keys_put (key : String) (v : Value) (es : Entries) :
    keys (put key v es) = if key ∈ keys es then keys es else keys es ++ [key] := by
  induction es with
  | nil => simp [put, keys]
  | cons e es ih =>
    obtain ⟨k, w⟩ := e
    by_cases h : k = key
    · simp [put, keys, h]
    · simp only [keys] at ih
      by_cases hm : key ∈ es.map Prod.fst <;> simp [put, keys, h, Ne.symm h, ih, hm]

end Entries

namespace Value

/-- The name of a value's kind. -/
def typeName : Value → String
  | null => "NoneType"
  | bool _ => "bool"
  | int _ => "int"
  | float _ => "float"
  | text _ => "str"
  | bytes _ => "bytes"
  | buffer _ => "bytearray"
  | list _ => "list"
  | tuple _ => "tuple"
  | map _ => "dict"
  | rule .. => "Rule"

/-- Whether a value counts as empty: null, false, zero, or nothing inside. -/
def isEmpty : Value → Bool
  | null => true
  | bool b => !b
  | int n => n == 0
  | float x => x == 0.0
  | text s => s.isEmpty
  | bytes bs => bs.isEmpty
  | buffer bs => bs.isEmpty
  | list vs => vs.isEmpty
  | tuple vs => vs.isEmpty
  | map es => es.isEmpty
  | rule .. => false

/-- The bytes of binary data of either kind. -/
def binary? : Value → Option (List UInt8)
  | bytes bs => some bs
  | buffer bs => some bs
  | _ => none

/-- The text of a text value. -/
def text? : Value → Option String
  | text s => some s
  | _ => none

/-- A value as a list: the elements of a list or tuple, and any other value alone. -/
def toList : Value → List Value
  | list vs => vs
  | tuple vs => vs
  | v => [v]

end Value

end Harvest
