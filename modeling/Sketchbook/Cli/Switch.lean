import Sketchbook.Cli.Letter

namespace Sketchbook.Cli

open Sketchbook.Text

inductive Switch where
  | help
  | verbose
  | package
  | out
  deriving Repr, DecidableEq

namespace Switch

def names : Switch → List String
  | .help => ["-h", "--help"]
  | .verbose => ["-v", "--verbose"]
  | .package => ["--package"]
  | .out => ["--out"]

def takesValue : Switch → Bool
  | .help => false
  | .verbose => false
  | .package => true
  | .out => true

def label (s : Switch) : String := "/".intercalate s.names

end Switch

inductive Command where
  | transpile
  | inspect
  deriving Repr, DecidableEq

namespace Command

def name : Command → String
  | .transpile => "transpile"
  | .inspect => "inspect"

def all : List Command := [.transpile, .inspect]

def ofName? (w : Word) : Option Command := all.find? fun c => (c.name : Word) = w

end Command

/-- A level of the command line: that of the program or that of a command. -/
inductive Level where
  | program
  | command (c : Command)
  deriving Repr, DecidableEq

namespace Level

def switches : Level → List Switch
  | .program => [.help, .verbose]
  | .command .transpile => [.help, .package, .out]
  | .command .inspect => [.help, .package]

def names (l : Level) : List (String × Switch) :=
  l.switches.flatMap fun s => s.names.map fun n => (n, s)

def switch? (l : Level) (w : Word) : Option Switch :=
  (l.names.find? fun (n, _) => (n : Word) = w).map (·.2)

def operand : Level → String
  | .program => "command"
  | .command _ => "sketch"

def title : Level → String
  | .program => "sketch-preproc"
  | .command c => "sketch-preproc " ++ c.name

def usage (l : Level) : String :=
  "usage: " ++ l.title ++
    (match l with
    | .program => " [-h] [-v] \x7btranspile,inspect\x7d ...\n"
    | .command .transpile => " [-h] [--package PACKAGE] [--out OUT] sketch\n"
    | .command .inspect => " [-h] [--package PACKAGE] sketch\n")

def commandHelp : String :=
  "\npositional arguments:\n" ++
  "  sketch             Path to the sketch source file\n" ++
  "\noptions:\n" ++
  "  -h, --help         show this help message and exit\n" ++
  "  --package PACKAGE  Java package of the generated class (default: config\n" ++
  "                     package_name)\n"

def help (l : Level) : String :=
  l.usage ++
    (match l with
    | .program =>
      "\npositional arguments:\n" ++
      "  \x7btranspile,inspect\x7d\n" ++
      "    transpile          Generate Java source for a sketch\n" ++
      "    inspect            Show size()/smooth() analysis as JSON\n" ++
      "\noptions:\n" ++
      "  -h, --help           show this help message and exit\n" ++
      "  -v, --verbose        Enable debug logging\n"
    | .command .transpile =>
      commandHelp ++ "  --out OUT          Output file for the generated source (default: stdout)\n"
    | .command .inspect => commandHelp)

end Level

inductive Complaint where
  | ambiguous (word : Word) (names : List String)
  | valueMissing (s : Switch)
  | valueIgnored (s : Switch) (value : Word)
  | noSuchCommand (word : Word)
  | operandMissing (what : String)
  | unrecognized (words : List Word)
  deriving Repr, DecidableEq

def Complaint.message : Complaint → String
  | .ambiguous word names =>
    "ambiguous option: " ++ word.shown ++ " could match " ++ ", ".intercalate names
  | .valueMissing s => "argument " ++ s.label ++ ": expected one argument"
  | .valueIgnored s value =>
    "argument " ++ s.label ++ ": ignored explicit argument " ++ value.quoted
  | .noSuchCommand word =>
    "argument command: invalid choice: " ++ word.quoted ++ " (choose from " ++
      ", ".intercalate (Command.all.map fun c => quoted c.name) ++ ")"
  | .operandMissing what => "the following arguments are required: " ++ what
  | .unrecognized words => "unrecognized arguments: " ++ " ".intercalate (words.map Word.shown)

/-- Why a command line asks for nothing to be run. -/
inductive Ending where
  | help (l : Level)
  | refused (l : Level) (c : Complaint)
  deriving Repr, DecidableEq

end Sketchbook.Cli
