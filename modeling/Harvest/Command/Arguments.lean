import Harvest.Command.Usage

/-!
# Arguments

`Options` are what a command line asks for.  `Options.parse` reads them from its words: the first
plain words are the configuration and the inputs, which must stand together, and options may stand
anywhere in front of a separator.  An option that occurs twice counts the last time.

Asking for help stops the reading at once, and so does the first problem.
-/

namespace Harvest.Command

/-- What a command line asks for. -/
structure Options where
  /-- The file of the configuration. -/
  config : String
  /-- The input files. -/
  inputs : List String
  /-- The file for the records, unless the value given for it was a separator. -/
  output : Option String
  /-- A file of rules, in place of those of the configuration. -/
  rules : Option String := none
  /-- Whether the inputs hold records. -/
  items : Bool := false
  /-- Whether failures become placeholders, whatever the configuration says. -/
  continueOnFail : Bool := false
  /-- The number of threads, in place of that of the configuration. -/
  threads : Option Int := none
  /-- Whether to stop before anything is extracted. -/
  dryRun : Bool := false
  /-- Whether to tell details. -/
  verbose : Bool := false
  deriving Repr, DecidableEq

/-- Why the reading of a command line stops. -/
inductive Stop where
  /-- Help is asked for. -/
  | help (page : Page)
  /-- The command line is wrong. -/
  | usage (error : UsageError)
  deriving Repr, DecidableEq

/-! ### Options -/

/-- The options that one word sets: `flags` and then `last`, with the value that is attached to it.
Behind an option without a value, in its short spelling, the next short option may follow. -/
structure Bundle where
  /-- The options in front of the last. -/
  flags : List Choice
  /-- The last option. -/
  last : Choice
  /-- Its value. -/
  attached : Option String
  deriving Repr, DecidableEq

/-- The options of a word that starts with an option and goes on with some characters, where
`short` says whether the option is in its short spelling. -/
def bundle (p : Page) (choice : Choice) (short : Bool) : List Char → Except Problem Bundle
  | [] =>
    if choice.takesValue then .ok ⟨[], choice, some ""⟩ else .error (.ignoredValue choice "")
  | c :: cs =>
    if choice.takesValue then .ok ⟨[], choice, some (String.ofList (c :: cs))⟩
    else
      match if short then p.options.lookup (String.ofList ['-', c]) else none with
      | none => .error (.ignoredValue choice (String.ofList (c :: cs)))
      | some next =>
        if cs.isEmpty then .ok ⟨[choice], next, none⟩
        else (bundle p next true cs).map fun b => { b with flags := choice :: b.flags }

/-- The options of a word. -/
def bundleOf (p : Page) (choice : Choice) (spelling : String) :
    Option String → Except Problem Bundle
  | none => .ok ⟨[], choice, none⟩
  | some attached => bundle p choice (spelling.toList[1]? != some '-') attached.toList

/-- A value as it counts: a separator counts as none. -/
def valueOf (s : String) : Option String :=
  if s = Word.separatorText then none else some s

/-- The options that a bundle sets, each with its value, and the words that are left behind it. -/
def Bundle.settings (b : Bundle) (rest : List (Word Choice)) :
    Except Problem (List (Choice × Option String) × List (Word Choice)) :=
  let flags := b.flags.map (·, none)
  match b.attached with
  | some s => .ok (flags ++ [(b.last, valueOf s)], rest)
  | none =>
    if !b.last.takesValue then .ok (flags ++ [(b.last, none)], rest)
    else
      match rest with
      | .plain s :: rest => .ok (flags ++ [(b.last, some s)], rest)
      | _ => .error (.missingValue b.last)

/-- A bundle takes at most one word from those behind it. -/
theorem Bundle.length_le_of_settings {b : Bundle} {ws rest : List (Word Choice)}
    {sets : List (Choice × Option String)} (h : b.settings ws = .ok (sets, rest)) :
    rest.length ≤ ws.length := by
  unfold Bundle.settings at h
  split at h
  · cases h
    exact Nat.le_refl _
  · split at h
    · cases h
      exact Nat.le_refl _
    · split at h
      · cases h
        exact Nat.le_succ _
      · cases h

/-! ### The command that runs an extraction -/

/-- The arguments read so far. -/
structure Draft where
  /-- The file of the configuration. -/
  config : Option String := none
  /-- The input files. -/
  inputs : Option (List String) := none
  /-- The file for the records, and whether the option occurred at all. -/
  output : Option (Option String) := none
  /-- The file of rules. -/
  rules : Option String := none
  /-- Whether the inputs hold records. -/
  items : Bool := false
  /-- Whether failures become placeholders. -/
  continueOnFail : Bool := false
  /-- The number of threads. -/
  threads : Option Int := none
  /-- Whether to stop before anything is extracted. -/
  dryRun : Bool := false
  /-- Whether to tell details. -/
  verbose : Bool := false

namespace Draft

/-- The stop at a problem of the command. -/
def stop (problem : Problem) : Stop :=
  .usage ⟨.run, problem⟩

/-- The draft with an option. -/
def set (d : Draft) (choice : Choice) (value : Option String) : Except Stop Draft :=
  match choice with
  | .help => .error (.help .run)
  | .output => .ok { d with output := some value }
  | .rules => .ok { d with rules := value }
  | .items => .ok { d with items := true }
  | .continueOnFail => .ok { d with continueOnFail := true }
  | .dryRun => .ok { d with dryRun := true }
  | .verbose => .ok { d with verbose := true }
  | .threads =>
    match value with
    | none => .ok { d with threads := none }
    | some s =>
      match Text.Numeral.read s with
      | .ok n => .ok { d with threads := some n }
      | .error _ => .error (stop (.notInteger .threads s))

/-- The draft with several options. -/
def setAll (d : Draft) : List (Choice × Option String) → Except Stop Draft
  | [] => .ok d
  | (choice, value) :: more =>
    match d.set choice value with
    | .error e => .error e
    | .ok d => d.setAll more

/-- The first plain word, without the separators around it, and the words behind. -/
def takeOne (ws : List (Word Choice)) : Option (String × List (Word Choice)) :=
  match ws.dropWhile Word.isSeparator with
  | .plain s :: rest => some (s, rest.dropWhile Word.isSeparator)
  | _ => none

/-- All words up to the next option, if a plain word is the first of them, without the separator
among them, and the words behind. -/
def takeMany (ws : List (Word Choice)) : Option (List String × List (Word Choice)) :=
  match ws.dropWhile Word.isSeparator with
  | .plain _ :: _ =>
    some (((ws.takeWhile Word.isPositional).map Word.text).erase Word.separatorText,
      ws.dropWhile Word.isPositional)
  | _ => none

/-- The draft with the inputs taken from the next words, and the words that are left. -/
def takeInputs (d : Draft) (ws : List (Word Choice)) : Draft × List (Word Choice) :=
  match takeMany ws with
  | some (inputs, rest) => ({ d with inputs := some inputs }, rest)
  | none => (d, ws)

/-- The draft with what it still lacks taken from the next words, and the words that are left. -/
def takePlain (d : Draft) (ws : List (Word Choice)) : Draft × List (Word Choice) :=
  match d.config, d.inputs with
  | none, _ =>
    match takeOne ws with
    | some (config, rest) => { d with config := some config }.takeInputs rest
    | none => (d, ws)
  | some _, none => d.takeInputs ws
  | some _, some _ => (d, ws)

/-- The draft behind all words, with the words that meant nothing. -/
def readWords (d : Draft) (extra : List String) :
    List (Word Choice) → Except Stop (Draft × List String)
  | [] => .ok (d, extra)
  | .unknown s :: ws => d.readWords (extra ++ [s]) ws
  | .option choice spelling attached :: ws =>
    match bundleOf .run choice spelling attached with
    | .error problem => .error (stop problem)
    | .ok b =>
      match h : b.settings ws with
      | .error problem => .error (stop problem)
      | .ok (sets, rest) =>
        have := Bundle.length_le_of_settings h
        match d.setAll sets with
        | .error e => .error e
        | .ok d => d.readWords extra rest
  | w :: ws =>
    let taken := d.takePlain (w :: ws)
    if taken.2.length < (w :: ws).length then taken.1.readWords extra taken.2
    else d.readWords (extra ++ [w.text]) ws
  termination_by ws => ws.length
  decreasing_by
    · simp
    · simp only [List.length_cons]
      omega
    · assumption
    · simp

/-- The labels of the arguments that a draft lacks. -/
def lacks (d : Draft) : List String :=
  (if d.config.isNone then ["config_file"] else []) ++
    (if d.inputs.isNone then ["inputs"] else []) ++
    (if d.output.isNone then [Choice.output.label] else [])

/-- The options of a draft that lacks nothing. -/
def finish (d : Draft) : Except Stop Options :=
  match d.config, d.inputs, d.output with
  | some config, some inputs, some output =>
    .ok { config, inputs, output, rules := d.rules, items := d.items,
          continueOnFail := d.continueOnFail, threads := d.threads, dryRun := d.dryRun,
          verbose := d.verbose }
  | _, _, _ => .error (stop (.missing d.lacks))

end Draft

/-- The options of the command, with the words that meant nothing. -/
def parseRun (args : List String) : Except Stop (Options × List String) :=
  match Word.readAll Page.run.options args with
  | .error word => .error (Draft.stop (.ambiguous word))
  | .ok ws =>
    match Draft.readWords {} [] ws with
    | .error e => .error e
    | .ok (d, extra) => d.finish.map (·, extra)

/-! ### The program as a whole -/

/-- The stop at a problem of the whole command line. -/
def stop (problem : Problem) : Stop :=
  .usage ⟨.program, problem⟩

/-- What is behind the command, which has this name, where some words in front of it meant nothing.
-/
def parseCommand (extra : List String) (name : String) (args : List String) :
    Except Stop (Option Options) :=
  if name != Page.runName then .error (stop (.noCommand name))
  else
    match parseRun args with
    | .error e => .error e
    | .ok (o, []) => if extra.isEmpty then .ok (some o) else .error (stop (.unrecognized extra))
    | .ok (_, more) => .error (stop (.unrecognized (extra ++ more)))

/-- What a command line asks for behind words that meant nothing. -/
def parseFrom (extra : List String) : List String → Except Stop (Option Options)
  | [] => if extra.isEmpty then .ok none else .error (stop (.unrecognized extra))
  | s :: rest =>
    if s = Word.separatorText then
      if rest.isEmpty then .error (stop (.unrecognized (extra ++ [s])))
      else .error (stop (.noCommand s))
    else
      match Word.read Page.program.options s with
      | .error spellings => .error (stop (.ambiguous ⟨s, spellings⟩))
      | .ok (.unknown s) => parseFrom (extra ++ [s]) rest
      | .ok (.option choice spelling attached) =>
        match bundleOf .program choice spelling attached with
        | .error problem => .error (stop problem)
        | .ok _ => .error (.help .program)
      | .ok w => parseCommand extra w.text rest

/-- What a command line asks for, which is nothing if it has no words. -/
def Options.parse (args : List String) : Except Stop (Option Options) :=
  parseFrom [] args

end Harvest.Command
