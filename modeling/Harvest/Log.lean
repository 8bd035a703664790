/-!
# Log lines

A run tells what it does in log lines (`Log.Line`), each with a `Log.Level` and the part of the
program that it comes from.  A piece of a run is a `Told`: the lines that it tells, and what it
yields or why it fails.  Pieces are sequenced with `Told.bind`: a piece that fails is the last to
tell anything (`Told.error_bind`).
-/

namespace Harvest.Log

/-- How much a line matters. -/
inductive Level where
  /-- Details. -/
  | debug
  /-- The course of a run. -/
  | info
  /-- What ended a run. -/
  | error
  deriving Repr, DecidableEq

/-- The name of a level. -/
def Level.name : Level → String
  | .debug => "DEBUG"
  | .info => "INFO"
  | .error => "ERROR"

/-- A line of the log. -/
structure Line where
  /-- How much it matters. -/
  level : Level
  /-- The part of the program it comes from. -/
  origin : String
  /-- What it says. -/
  message : String
  deriving Repr, DecidableEq

/-- Whether a line is shown; details are shown on demand only. -/
def Line.isShown (verbose : Bool) (line : Line) : Bool :=
  verbose || line.level != .debug

/-- A line as text. -/
def Line.text (line : Line) : String :=
  line.level.name ++ " " ++ line.origin ++ ": " ++ line.message

/-- A piece of a run: the lines that it tells, and its outcome. -/
structure Told (ε α : Type) where
  /-- The lines. -/
  log : List Line
  /-- What it yields. -/
  outcome : Except ε α

namespace Told

variable {ε ε' α β : Type}

/-- The piece that yields an outcome and tells nothing. -/
def of (outcome : Except ε α) : Told ε α :=
  ⟨[], outcome⟩

/-- The piece that tells one line. -/
def say (level : Level) (origin message : String) : Told ε Unit :=
  ⟨[⟨level, origin, message⟩], .ok ()⟩

/-- A piece and, unless it fails, the piece that its result leads to. -/
def bind (x : Told ε α) (f : α → Told ε β) : Told ε β :=
  match x.outcome with
  | .error e => ⟨x.log, .error e⟩
  | .ok a => ⟨x.log ++ (f a).log, (f a).outcome⟩

/-- A piece with its failure changed. -/
def mapError (f : ε → ε') (x : Told ε α) : Told ε' α :=
  ⟨x.log, x.outcome.mapError f⟩

instance : Monad (Told ε) where
  pure a := of (.ok a)
  bind := bind

@[simp] theorem error_bind (log : List Line) (e : ε) (f : α → Told ε β) :
    bind ⟨log, .error e⟩ f = ⟨log, .error e⟩ := rfl

theorem bind_assoc {γ : Type} (x : Told ε α) (f : α → Told ε β) (g : β → Told ε γ) :
    (x.bind f).bind g = x.bind fun a => (f a).bind g := by
  obtain ⟨log, outcome⟩ := x
  cases outcome with
  | error e => rfl
  | ok a =>
    unfold bind
    cases h : (f a).outcome <;> simp [h]

end Told

end Harvest.Log
