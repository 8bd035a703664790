import Harvest.Text.Quoted

/-!
# File paths

A `FilePath` is a list of names, read from a text with slashes between them.  Names that lead
nowhere, which are empty or a single dot, are left out; two dots lead to the folder above and stay.
`FilePath.text` writes a path, and the path without names is a single dot.
-/

namespace Harvest

/-- A path to a file or folder. -/
structure FilePath where
  /-- Whether it starts at the top of all folders. -/
  absolute : Bool
  /-- The names on the way. -/
  names : List String
  deriving Repr, DecidableEq

namespace FilePath

/-- The parts of a text between slashes. -/
def parts : List Char → List (List Char)
  | [] => [[]]
  | c :: cs =>
    if c = '/' then [] :: parts cs
    else
      match parts cs with
      | [] => [[c]]
      | p :: ps => (c :: p) :: ps

/-- Whether a part of a path is a name. -/
def isName (part : List Char) : Bool :=
  part != [] && part != ['.']

/-- The path that a text spells. -/
def ofText (s : String) : FilePath :=
  let cs := s.toList
  ⟨cs.head? == some '/', ((parts cs).filter isName).map String.ofList⟩

/-- The text of a path. -/
def text (p : FilePath) : String :=
  if p.absolute then "/" ++ "/".intercalate p.names
  else if p.names.isEmpty then "."
  else "/".intercalate p.names

/-- The path without its last name. -/
def parent (p : FilePath) : FilePath :=
  { p with names := p.names.dropLast }

/-- Whether a path holds the null character, which no name may hold. -/
def hasNull (p : FilePath) : Bool :=
  p.names.any fun name => name.toList.contains '\x00'

theorem length_parent_lt {p : FilePath} (h : p.names ≠ []) :
    p.parent.names.length < p.names.length := by
  have := List.length_pos_iff.2 h
  simp only [parent, List.length_dropLast]
  omega

end FilePath

end Harvest
