import Harvest.Text.Digit
import Harvest.Value.Basic

/-!
# Property paths

A property path such as `pages[0].html` leads to a value inside a record.  `Path.split` cuts it into
keys and list indexes, skipping dots and stray brackets; `Path.render` writes segments back as a
path.  `Path.lookup` follows a path: a key that holds dots is tried as it stands first, an index may
also be written as a key, and a negative index counts from the end.  `Path.has` and `Path.get` say
whether the path leads to a value, and to which.

A path can fail to split: an index may have no more than `Text.Numeral.maxDigits` digits.
-/

namespace Harvest.Path

/-- A step of a path. -/
inductive Segment where
  /-- A key, or an index written like a key. -/
  | key (s : String)
  /-- An index in brackets. -/
  | index (n : Nat)
  deriving Repr, DecidableEq

/-- A bracketed index has this many digits, which is too many. -/
structure TooLong where
  /-- The number of digits. -/
  digits : Nat
  deriving Repr, DecidableEq

/-- Whether a character can stand in a key. -/
def isKeyChar (c : Char) : Bool :=
  c != '.' && c != '[' && c != ']'

/-- The digits of a bracketed index behind its opening bracket, and what follows the closing one. -/
def bracketed? (cs : List Char) : Option (List Char × List Char) :=
  match cs.takeWhile Text.isDigit, cs.dropWhile Text.isDigit with
  | d :: ds, ']' :: rest => some (d :: ds, rest)
  | _, _ => none

theorem length_lt_of_bracketed? {cs ds rest : List Char} (h : bracketed? cs = some (ds, rest)) :
    rest.length < cs.length := by
  unfold bracketed? at h
  split at h
  next d ds' rest' _ hrest =>
    simp only [Option.some.injEq, Prod.mk.injEq] at h
    have := (List.dropWhile_sublist Text.isDigit (l := cs)).length_le
    rw [hrest, List.length_cons] at this
    rw [← h.2]
    omega
  next => cases h

/-- The segments of a path. -/
def splitChars : List Char → Except TooLong (List Segment)
  | [] => .ok []
  | c :: cs =>
    if isKeyChar c then
      have := (List.dropWhile_sublist isKeyChar (l := cs)).length_le
      (splitChars (cs.dropWhile isKeyChar)).map fun ss =>
        .key (String.ofList (c :: cs.takeWhile isKeyChar)) :: ss
    else if c = '[' then
      match h : bracketed? cs with
      | some (ds, rest) =>
        have := length_lt_of_bracketed? h
        if Text.Numeral.maxDigits < ds.length then .error ⟨ds.length⟩
        else (splitChars rest).map fun ss => .index (Text.digitsValue ds) :: ss
      | none => splitChars cs
    else splitChars cs
  termination_by cs => cs.length
  decreasing_by all_goals simp only [List.length_cons]; omega

/-- The segments of a path. -/
def split (path : String) : Except TooLong (List Segment) :=
  splitChars path.toList

/-- A segment as it is written behind others. -/
def Segment.render : Segment → String
  | .key s => "." ++ s
  | .index n => "[" ++ Text.natText n ++ "]"

/-- The path of a list of segments: numbers in brackets, a dot before each key but a first one. -/
def render : List Segment → String
  | [] => ""
  | .key s :: ss => s ++ String.join (ss.map Segment.render)
  | ss => String.join (ss.map Segment.render)

/-- The key that a segment stands for in a map. -/
def Segment.text : Segment → String
  | .key s => s
  | .index n => Text.natText n

/-- The index that a segment stands for in a list, if it is one. -/
def Segment.toInt? : Segment → Option Int
  | .key s => (Text.Numeral.read s).toOption
  | .index n => some n

/-- The element at an index; a negative index counts from the end. -/
def elementAt? (vs : List Value) (i : Int) : Option Value :=
  if 0 ≤ i then vs[i.toNat]?
  else if -(vs.length : Int) ≤ i then vs[(vs.length + i).toNat]?
  else none

/-- The value one step below a value. -/
def step? (v : Value) (s : Segment) : Option Value :=
  match v with
  | .map es => Entries.get? es s.text
  | .list vs => s.toInt?.bind (elementAt? vs)
  | .tuple vs => s.toInt?.bind (elementAt? vs)
  | _ => none

/-- The value that a list of segments leads to. -/
def follow? (v : Value) : List Segment → Option Value
  | [] => some v
  | s :: ss => (step? v s).bind (follow? · ss)

/-- The value under a key that is spelled like the whole path. -/
def verbatim? (v : Value) (path : String) : Option Value :=
  match v with
  | .map es => Entries.get? es path
  | _ => none

/-- The value that a path leads to, if there is one. -/
def lookup (v : Value) (path : String) : Except TooLong (Option Value) :=
  match verbatim? v path with
  | some found => .ok (some found)
  | none => (split path).map (follow? v)

/-- Whether a path leads to a value. -/
def has (v : Value) (path : String) : Except TooLong Bool :=
  (lookup v path).map Option.isSome

/-- The value that a path leads to, or a default where it leads nowhere. -/
def get (v : Value) (path : String) (default : Value) : Except TooLong Value :=
  (lookup v path).map fun found => found.getD default

end Harvest.Path
