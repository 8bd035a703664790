import Harvest.Command.Word
import Harvest.Text.Quoted

/-!
# Usage

The command line has one command, which runs an extraction, and options (`Choice`).  This module
holds their spellings, the help that is shown on demand (`Page.help`), and the ways in which a
command line can be wrong (`UsageError`).
-/

namespace Harvest.Command

/-- An option. -/
inductive Choice where
  /-- Show help. -/
  | help
  /-- The file for the records. -/
  | output
  /-- A file of rules. -/
  | rules
  /-- The inputs hold records. -/
  | items
  /-- Failures become placeholders. -/
  | continueOnFail
  /-- The number of threads. -/
  | threads
  /-- Nothing is extracted. -/
  | dryRun
  /-- Details are told. -/
  | verbose
  deriving Repr, DecidableEq

namespace Choice

/-- Whether an option has a value. -/
def takesValue : Choice → Bool
  | output | rules | threads => true
  | _ => false

/-- All spellings of an option, for messages. -/
def label : Choice → String
  | help => "-h/--help"
  | output => "--output/-o"
  | rules => "--rules"
  | items => "--items"
  | continueOnFail => "--continue-on-fail"
  | threads => "--threads"
  | dryRun => "--dry-run"
  | verbose => "--verbose/-v"

end Choice

/-- The part of the command line that a message is about. -/
inductive Page where
  /-- The program as a whole. -/
  | program
  /-- The command that runs an extraction. -/
  | run
  deriving Repr, DecidableEq

namespace Page

/-- The spellings of the options. -/
def options : Page → List (String × Choice)
  | program => [("-h", .help), ("--help", .help)]
  | run =>
    [("-h", .help), ("--help", .help), ("--output", .output), ("-o", .output),
      ("--rules", .rules), ("--items", .items), ("--continue-on-fail", .continueOnFail),
      ("--threads", .threads), ("--dry-run", .dryRun), ("--verbose", .verbose), ("-v", .verbose)]

/-- The name of the command. -/
def runName : String := "run"

/-- What stands in front of messages. -/
def name : Page → String
  | program => "html-extractor"
  | run => "html-extractor " ++ runName

/-- Lines as one text. -/
def unlines (lines : List String) : String :=
  String.join (lines.map (· ++ "\n"))

/-- How the command line is put together. -/
def usage : Page → String
  | program => unlines ["usage: html-extractor [-h] \x7brun\x7d ..."]
  | run =>
    unlines [
      "usage: html-extractor run [-h] --output OUTPUT [--rules RULES] [--items]",
      "                          [--continue-on-fail] [--threads THREADS] [--dry-run]",
      "                          [--verbose]",
      "                          config_file inputs [inputs ...]"]

/-- The help behind the usage. -/
def details : Page → String
  | program =>
    unlines [
      "",
      "Extract structured JSON from HTML with declarative CSS selector rules",
      "",
      "positional arguments:",
      "  \x7brun\x7d       Available commands",
      "    run       Run the extractor",
      "",
      "options:",
      "  -h, --help  show this help message and exit",
      "",
      "Examples:",
      "  html-extractor run config.json page1.html page2.html -o out.jsonl",
      "  html-extractor run config.json items.json --items -o out.jsonl --continue-on-fail",
      "  html-extractor run config.json page.html -o out.jsonl --rules rules.json --verbose",
      "        "]
  | run =>
    unlines [
      "",
      "positional arguments:",
      "  config_file           Path to JSON configuration file",
      "  inputs                HTML files, or JSON record files with --items",
      "",
      "options:",
      "  -h, --help            show this help message and exit",
      "  --output OUTPUT, -o OUTPUT",
      "                        File to store extracted records",
      "  --rules RULES         JSON rules file overriding the configured rules",
      "  --items               Inputs are JSON files holding records with the markup",
      "                        property",
      "  --continue-on-fail    Emit \x7b\"error\": ...\x7d records instead of aborting",
      "  --threads THREADS     Number of concurrent workers",
      "  --dry-run             Validate configuration and list inputs, don't extract",
      "  --verbose, -v         Enable verbose logging"]

/-- The help. -/
def help (p : Page) : String :=
  p.usage ++ p.details

end Page

/-- What is wrong with a command line. -/
inductive Problem where
  /-- There is no such command. -/
  | noCommand (name : String)
  /-- These words mean nothing. -/
  | unrecognized (words : List String)
  /-- A word might stand for several options. -/
  | ambiguous (word : Word.Ambiguous)
  /-- An option has no value, but one is attached. -/
  | ignoredValue (choice : Choice) (value : String)
  /-- The value of an option is missing. -/
  | missingValue (choice : Choice)
  /-- The value of an option is no integer. -/
  | notInteger (choice : Choice) (value : String)
  /-- Some arguments are missing. -/
  | missing (labels : List String)
  deriving Repr, DecidableEq

/-- The wording of a problem. -/
def Problem.message : Problem → String
  | noCommand name =>
    "argument command: invalid choice: " ++ Text.Quoted.text name ++ " (choose from " ++
      Text.Quoted.text Page.runName ++ ")"
  | unrecognized words => "unrecognized arguments: " ++ " ".intercalate words
  | ambiguous w =>
    "ambiguous option: " ++ w.word ++ " could match " ++ ", ".intercalate w.spellings
  | ignoredValue choice value =>
    "argument " ++ choice.label ++ ": ignored explicit argument " ++ Text.Quoted.text value
  | missingValue choice => "argument " ++ choice.label ++ ": expected one argument"
  | notInteger choice value =>
    "argument " ++ choice.label ++ ": invalid int value: " ++ Text.Quoted.text value
  | missing labels => "the following arguments are required: " ++ ", ".intercalate labels

/-- A command line that is wrong. -/
structure UsageError where
  /-- The part it is about. -/
  page : Page
  /-- What is wrong. -/
  problem : Problem
  deriving Repr, DecidableEq

/-- The message of an error. -/
def UsageError.message (e : UsageError) : String :=
  e.page.name ++ ": error: " ++ e.problem.message

end Harvest.Command
