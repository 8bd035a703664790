import Harvest.Store.FilePath
import Harvest.Text.Lines

/-!
# Stores of files

A `Store` holds files and folders, each at a `Location`, the list of names that leads to it from the
top.  Operations take a `FilePath`, which is followed from the working folder (`Store.locate`), and
fail with a `Fault` that names the path.

`Store.read`, `Store.write` and `Store.append` work on the bytes of a file; `Store.makeFolders` makes
a folder and those above it.  Main statements: `get?_put` (a location holds what was put there last)
and `read_write` (a file that was written holds what was written).
-/

namespace Harvest

/-- The names that lead to a file or folder from the top. -/
abbrev Location := List String

/-- What a store holds at a location. -/
inductive Entry where
  /-- A file with these bytes. -/
  | file (content : List UInt8)
  /-- A folder. -/
  | folder
  deriving Repr, DecidableEq

/-- Files and folders. -/
structure Store where
  /-- The working folder, from which relative paths start. -/
  here : Location
  /-- Everything below the top. -/
  entries : List (Location × Entry)
  deriving Repr

namespace Store

/-! ### Locations -/

/-- What is at a location; the top is a folder. -/
def get? (s : Store) (l : Location) : Option Entry :=
  if l = [] then some .folder else s.entries.lookup l

/-- A list of entries with an entry at a location, in place of the one that was there. -/
def putEntry (l : Location) (e : Entry) : List (Location × Entry) → List (Location × Entry)
  | [] => [(l, e)]
  | (l', e') :: es => if l' = l then (l, e) :: es else (l', e') :: putEntry l e es

/-- The store with an entry at a location. -/
def put (s : Store) (l : Location) (e : Entry) : Store :=
  { s with entries := putEntry l e s.entries }

/-- The locations on the way to a location, itself included. -/
def way (l : Location) : List Location :=
  (List.range l.length).map fun n => l.take (n + 1)

/-- The store with a folder at a location and at every location above it. -/
def putFolders (s : Store) (l : Location) : Store :=
  (way l).foldl (fun s l => if (s.get? l).isSome then s else s.put l .folder) s

/-- The store that holds nothing but its working folder. -/
def empty (here : Location) : Store :=
  putFolders ⟨here, []⟩ here

/-- The store with a file at a location, and with folders above it. -/
def putFile (s : Store) (l : Location) (content : List UInt8) : Store :=
  (s.putFolders l.dropLast).put l (.file content)

/-- The entries of a store that an older store does not have in the same way. -/
def changes (s old : Store) : List (Location × Entry) :=
  s.entries.filter fun e => old.get? e.1 != some e.2

/-! ### Paths -/

/-- Why an operation fails at a location. -/
inductive Cause where
  /-- Nothing is there. -/
  | missing
  /-- Something is there already. -/
  | taken
  /-- What is there is no folder. -/
  | notFolder
  /-- What is there is a folder. -/
  | isFolder
  /-- The name is too long. -/
  | longName
  deriving Repr, DecidableEq

/-- The number and the wording of a cause. -/
def Cause.message : Cause → String
  | missing => "[Errno 2] No such file or directory"
  | taken => "[Errno 17] File exists"
  | notFolder => "[Errno 20] Not a directory"
  | isFolder => "[Errno 21] Is a directory"
  | longName => "[Errno 36] File name too long"

/-- Why an operation on a path fails. -/
inductive Fault where
  /-- The store refuses it. -/
  | refused (cause : Cause) (path : FilePath)
  /-- The path holds the null character. -/
  | null
  deriving Repr, DecidableEq

/-- The message of a fault. -/
def Fault.message : Fault → String
  | refused cause path => cause.message ++ ": " ++ Text.Quoted.text path.text
  | null => "embedded null byte"

/-- The longest name, in bytes. -/
def maxName : Nat := 255

/-- The longest path, in bytes. -/
def maxPath : Nat := 4095

/-- The location that a name leads to from a folder. -/
def step (l : Location) (name : String) : Except Cause Location :=
  if name = ".." then .ok l.dropLast
  else if maxName < name.utf8ByteSize then .error .longName
  else .ok (l ++ [name])

/-- Whether a location is a folder, and if not, why. -/
def enter (s : Store) (l : Location) : Except Cause Unit :=
  match s.get? l with
  | none => .error .missing
  | some (.file _) => .error .notFolder
  | some .folder => .ok ()

/-- The location that names lead to; all but the last must be folders. -/
def follow (s : Store) : Location → List String → Except Cause Location
  | l, [] => .ok l
  | l, name :: names =>
    match s.enter l with
    | .error cause => .error cause
    | .ok () =>
      match step l name with
      | .error cause => .error cause
      | .ok l => s.follow l names

/-- The location that a path leads to. -/
def locate (s : Store) (p : FilePath) : Except Fault Location :=
  if p.hasNull then .error .null
  else if maxPath < p.text.utf8ByteSize then .error (.refused .longName p)
  else (s.follow (if p.absolute then [] else s.here) p.names).mapError (.refused · p)

/-! ### Operations -/

/-- Whether something is at a path. -/
def contains (s : Store) (p : FilePath) : Except Fault Bool :=
  match s.locate p with
  | .ok l => .ok (s.get? l).isSome
  | .error (.refused .longName p) => .error (.refused .longName p)
  | .error _ => .ok false

/-- Whether a folder is at a path. -/
def isFolder (s : Store) (p : FilePath) : Bool :=
  match s.locate p with
  | .ok l => s.get? l = some .folder
  | .error _ => false

/-- The bytes of a file. -/
def read (s : Store) (p : FilePath) : Except Fault (List UInt8) :=
  match s.locate p with
  | .error e => .error e
  | .ok l =>
    match s.get? l with
    | none => .error (.refused .missing p)
    | some .folder => .error (.refused .isFolder p)
    | some (.file content) => .ok content

/-- The store in which a file has other bytes, which are made of the old ones. -/
def change (s : Store) (p : FilePath) (f : List UInt8 → List UInt8) : Except Fault Store :=
  match s.locate p with
  | .error e => .error e
  | .ok l =>
    match s.get? l with
    | none => .ok (s.put l (.file (f [])))
    | some .folder => .error (.refused .isFolder p)
    | some (.file content) => .ok (s.put l (.file (f content)))

/-- The store in which a file has these bytes and no others. -/
def write (s : Store) (p : FilePath) (content : List UInt8) : Except Fault Store :=
  s.change p fun _ => content

/-- The store in which these bytes stand at the end of a file. -/
def append (s : Store) (p : FilePath) (content : List UInt8) : Except Fault Store :=
  s.change p (· ++ content)

/-- The store with a new folder. -/
def makeFolder (s : Store) (p : FilePath) : Except Fault Store :=
  match s.locate p with
  | .error e => .error e
  | .ok l =>
    match s.get? l with
    | some _ => .error (.refused .taken p)
    | none => .ok (s.put l .folder)

/-- The store with a folder that may have been there, and why there is none. -/
def settleFolder (s : Store) (p : FilePath) : Store × Option Fault :=
  match s.makeFolder p with
  | .ok s => (s, none)
  | .error e => (s, if s.isFolder p then none else some e)

/-- The store with a folder and those above it, as far as they can be made, and the reason where
they cannot. -/
def makeFolders (s : Store) (p : FilePath) : Store × Option Fault :=
  match s.makeFolder p with
  | .error (.refused .missing _) =>
    if h : p.names = [] then s.settleFolder p
    else
      have := FilePath.length_parent_lt h
      match s.makeFolders p.parent with
      | (s, some e) => (s, some e)
      | (s, none) => s.settleFolder p
  | _ => s.settleFolder p
  termination_by p.names.length

/-! ### Text files -/

/-- Why a text cannot be read. -/
inductive ReadError where
  /-- The file cannot be read. -/
  | fault (fault : Fault)
  /-- The file is no UTF-8. -/
  | encoding (error : Text.Utf8.DecodeError)
  deriving Repr, DecidableEq

/-- The message of an error. -/
def ReadError.message : ReadError → String
  | fault e => e.message
  | encoding e => e.message

/-- The text of bytes, with every line break as one line feed. -/
def textOf (content : List UInt8) : Except ReadError String :=
  match Text.Utf8.decode content with
  | .error e => .error (.encoding e)
  | .ok s => .ok (String.ofList (Text.unifyBreaks s.toList))

/-- The text of a file. -/
def readText (s : Store) (p : FilePath) : Except ReadError String :=
  match s.read p with
  | .error e => .error (.fault e)
  | .ok content => textOf content

/-! ### Looking up what was put -/

theorem lookup_putEntry (l l' : Location) (e : Entry) (es : List (Location × Entry)) :
    (putEntry l e es).lookup l' = if l' = l then some e else es.lookup l' := by
  induction es with
  | nil => by_cases h : l' = l <;> simp [putEntry, List.lookup_cons, h, beq_false_of_ne]
  | cons x es ih =>
    obtain ⟨k, w⟩ := x
    by_cases hk : k = l
    · subst hk
      by_cases h : l' = k <;> simp [putEntry, List.lookup_cons, h, beq_false_of_ne]
    · by_cases h : l' = k
      · subst h
        simp [putEntry, hk]
      · simp [putEntry, List.lookup_cons, hk, beq_false_of_ne h, ih]

/-- A location holds what was put there last. -/
theorem get?_put (s : Store) {l : Location} (l' : Location) (e : Entry) (h : l ≠ []) :
    (s.put l e).get? l' = if l' = l then some e else s.get? l' := by
  unfold get? put
  by_cases hl : l' = []
  · subst hl
    simp [Ne.symm h]
  · simp [hl, lookup_putEntry]

/-! ### Reading what was written -/

/-- A file that is put where no folder was leaves every way open. -/
theorem follow_put {s : Store} {l : Location} {content : List UInt8} (hl : l ≠ [])
    (hf : s.get? l ≠ some .folder) {names : List String} {a b : Location}
    (h : s.follow a names = .ok b) : (s.put l (.file content)).follow a names = .ok b := by
  induction names generalizing a with
  | nil => exact h
  | cons name names ih =>
    have ha : s.enter a = .ok () := by
      unfold follow at h
      split at h
      · cases h
      next he => exact he
    have hne : a ≠ l := by
      rintro rfl
      unfold enter at ha
      split at ha <;> simp_all
    have ha' : (s.put l (.file content)).enter a = .ok () := by
      unfold enter at ha ⊢
      rw [get?_put s a _ hl, if_neg hne]
      exact ha
    unfold follow at h ⊢
    rw [ha] at h
    rw [ha']
    revert h
    cases step a name with
    | error cause => simp
    | ok c => exact ih

theorem locate_put {s : Store} {l : Location} {content : List UInt8} (hl : l ≠ [])
    (hf : s.get? l ≠ some .folder) {p : FilePath} {b : Location}
    (h : s.locate p = .ok b) : (s.put l (.file content)).locate p = .ok b := by
  unfold locate at h ⊢
  split at h
  · cases h
  · split at h
    · cases h
    · next hn hp =>
      rw [if_neg hn, if_neg hp]
      cases hw : s.follow (if p.absolute then [] else s.here) p.names with
      | error cause =>
        rw [hw] at h
        cases h
      | ok c =>
        rw [hw] at h
        rw [show (s.put l (.file content)).here = s.here from rfl, follow_put hl hf hw]
        exact h

/-- What a change of a file comes down to. -/
theorem change_eq_ok {s s' : Store} {p : FilePath} {f : List UInt8 → List UInt8}
    (h : s.change p f = .ok s') :
    ∃ l old, s.locate p = .ok l ∧ l ≠ [] ∧ s.get? l ≠ some .folder ∧
      (old = (match s.get? l with | some (.file content) => content | _ => [])) ∧
      s' = s.put l (.file (f old)) := by
  unfold change at h
  split at h
  · cases h
  next l hl =>
    split at h
    next hg =>
      cases h
      refine ⟨l, [], hl, ?_, by simp [hg], by simp [hg], rfl⟩
      rintro rfl
      simp [get?] at hg
    · cases h
    next content hg =>
      cases h
      refine ⟨l, content, hl, ?_, by simp [hg], by simp [hg], rfl⟩
      rintro rfl
      simp [get?] at hg

/-- A file that was written holds what was written. -/
theorem read_write {s s' : Store} {p : FilePath} {content : List UInt8}
    (h : s.write p content = .ok s') : s'.read p = .ok content := by
  obtain ⟨l, old, hl, hne, hf, -, rfl⟩ := change_eq_ok h
  unfold read
  rw [locate_put hne hf hl]
  simp [get?_put s l _ hne]

end Store

end Harvest
