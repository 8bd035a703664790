import Harvest.Command.Run
import Harvest.Extraction.Document

/-!
# The program

`main` performs a command line on the disk.  The files that the command line names are taken into a
`Store`, the command line is executed on it, and what has changed is written back.
-/

namespace Harvest

/-- What the disk holds at a location. -/
def look (l : Location) : IO (Option Entry) := do
  try
    let content ← IO.FS.readBinFile (FilePath.text ⟨true, l⟩)
    return some (.file content.toList)
  catch
    | .inappropriateType .. => return some .folder
    | _ => return none

/-- The store with what the disk holds on the way along names from a location. -/
def takeAlong (s : Store) (l : Location) : List String → IO Store
  | [] => return s
  | name :: names =>
    match Store.step l name with
    | .error _ => return s
    | .ok l => do
      match ← look l with
      | none => return s
      | some (.file content) => return s.putFile l content
      | some .folder => takeAlong (s.putFolders l) l names

/-- The store with what the disk holds on the way along a path. -/
def take (s : Store) (path : String) : IO Store :=
  let p := FilePath.ofText path
  takeAlong s (if p.absolute then [] else s.here) p.names

/-- The disk is given an entry. -/
def give : Location × Entry → IO Unit
  | (l, .folder) => IO.FS.createDirAll (FilePath.text ⟨true, l⟩)
  | (l, .file content) =>
    IO.FS.writeBinFile (FilePath.text ⟨true, l⟩) (ByteArray.mk content.toArray)

/-- The paths that some options name. -/
def Command.Options.paths (o : Command.Options) : List String :=
  [o.config] ++ o.rules.toList ++ o.inputs ++ o.output.toList

/-- The store that a command line works on. -/
def takeStore (args : List String) : IO Store := do
  let here ← IO.currentDir
  let s := Store.empty (FilePath.ofText here.toString).names
  match Command.Options.parse args with
  | .ok (some o) => o.paths.foldlM take s
  | _ => return s

end Harvest

open Harvest in
def main (args : List String) : IO UInt32 := do
  let s ← takeStore args
  let outcome := Command.execute Extraction.Engine.html s args
  for line in outcome.log do
    IO.eprintln line.text
  IO.print outcome.printed
  if let some e := outcome.usage then
    IO.eprint e.page.usage
    IO.eprintln e.message
  (outcome.store.changes s).forM give
  return outcome.exit.toUInt32
