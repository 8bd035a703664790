import Harvest.Text.Digit

/-!
# Words of a command line

A command line is a list of words.  `Word.readAll` tells options from plain words, given the
spellings of the options: a long option may be cut short as long as it stays unique and may have a
value behind an equals sign, a short one may have its value right behind it.  A word that only looks
like an option is one that is unknown, unless it is a negative number or holds a space.  Two dashes
end the options.
-/

namespace Harvest.Command

/-- A word of a command line, where `ω` are the options. -/
inductive Word (ω : Type) where
  /-- A word that is no option. -/
  | plain (s : String)
  /-- An option as it is spelled in full, with a value that is attached to it. -/
  | option (choice : ω) (spelling : String) (attached : Option String)
  /-- A word that looks like an option. -/
  | unknown (s : String)
  /-- The end of the options. -/
  | separator
  deriving Repr, DecidableEq

namespace Word

variable {ω : Type}

/-- The word that ends the options. -/
def separatorText : String := "--"

/-- The text of a word that is no option. -/
def text : Word ω → String
  | plain s => s
  | option _ spelling _ => spelling
  | unknown s => s
  | separator => separatorText

/-- Whether a word ends the options. -/
def isSeparator : Word ω → Bool
  | separator => true
  | _ => false

/-- Whether a word is neither an option nor looks like one. -/
def isPositional : Word ω → Bool
  | plain _ => true
  | separator => true
  | _ => false

/-- The parts of a text before and behind its first equals sign. -/
def cutAtEquals (cs : List Char) : Option (List Char × List Char) :=
  match cs.dropWhile (· != '=') with
  | [] => none
  | _ :: value => some (cs.takeWhile (· != '='), value)

/-- Whether characters are one or more digits. -/
def areDigits (cs : List Char) : Bool :=
  !cs.isEmpty && cs.all Text.isDigit

/-- Whether a text is a minus sign and a number, which may have a point; a line feed may follow. -/
def isNegativeNumber (cs : List Char) : Bool :=
  let cs := if cs.getLast? == some '\n' then cs.dropLast else cs
  match cs with
  | '-' :: cs =>
    areDigits cs ||
      match cs.dropWhile Text.isDigit with
      | '.' :: places => areDigits places
      | _ => false
  | _ => false

/-- The options that a word may stand for, by a long spelling cut short or by a short spelling with
a value behind it. -/
def candidates (table : List (String × ω)) (cs : List Char) :
    List (ω × String × Option String) :=
  match cs with
  | '-' :: '-' :: _ =>
    let (front, attached) :=
      match cutAtEquals cs with
      | some (front, value) => (front, some (String.ofList value))
      | none => (cs, none)
    table.filterMap fun (spelling, choice) =>
      if front.isPrefixOf spelling.toList then some (choice, spelling, attached) else none
  | '-' :: c :: value =>
    table.filterMap fun (spelling, choice) =>
      if spelling.toList = ['-', c] then some (choice, spelling, some (String.ofList value))
      else none
  | _ => []

/-- The option that a word spells out in full, alone or before an equals sign. -/
def exact (table : List (String × ω)) (s : String) : Option (Word ω) :=
  match table.lookup s with
  | some choice => some (option choice s none)
  | none =>
    (cutAtEquals s.toList).bind fun (front, value) =>
      let spelling := String.ofList front
      (table.lookup spelling).map fun choice =>
        option choice spelling (some (String.ofList value))

/-- A word by itself.  The error lists the options that it might stand for. -/
def read (table : List (String × ω)) (s : String) : Except (List String) (Word ω) :=
  let cs := s.toList
  if cs.head? != some '-' then .ok (plain s)
  else
    match exact table s with
    | some w => .ok w
    | none =>
      if cs.length = 1 then .ok (plain s)
      else
        match candidates table cs with
        | [(choice, spelling, attached)] => .ok (option choice spelling attached)
        | [] => .ok (if isNegativeNumber cs || cs.contains ' ' then plain s else unknown s)
        | several => .error (several.map fun (_, spelling, _) => spelling)

/-- A word that might stand for several options. -/
structure Ambiguous where
  /-- The word. -/
  word : String
  /-- The spellings of the options. -/
  spellings : List String
  deriving Repr, DecidableEq

/-- The words of a command line. -/
def readAll (table : List (String × ω)) : List String → Except Ambiguous (List (Word ω))
  | [] => .ok []
  | s :: rest =>
    if s = separatorText then .ok (separator :: rest.map plain)
    else
      match read table s with
      | .error spellings => .error ⟨s, spellings⟩
      | .ok w => (readAll table rest).map (w :: ·)

end Word

end Harvest.Command
