import Multifiling.Seed
import Multifiling.Text.Digit

/-!
The command line of the sample content: a command, `populate` or `clear`, and options before or
after it. Options may be shortened to any beginning of two hyphens and a letter; commands may not.
-/

namespace Multifiling.Seed

/-- What can be asked for. -/
inductive Command where
  | populate (force : Bool)
  | clear
  deriving DecidableEq, Repr

/-- The part of the command line that a help text is about. -/
inductive Topic where
  | all
  | populate
  | clear
  deriving DecidableEq, Repr

/-- What the words of a command line ask for. -/
inductive Invocation where
  | run (command : Command)
  | help (topic : Topic)
  | wrong
  deriving DecidableEq, Repr

namespace CommandLine

/-- What one word of the command line is, where `options` are the long options that it may be. -/
inductive Word where
  | help
  | option (name : String)
  /-- A known option with a value that it does not take. -/
  | badValue
  /-- The beginning of several options. -/
  | ambiguous
  /-- A word that stands for itself, among them all options that are not known. -/
  | plain
  deriving DecidableEq, Repr

/-- The options that a word is a beginning of. -/
def longOptions (options : List String) (word : String) : List String :=
  options.filter fun name => word.toList.isPrefixOf name.toList

/-- What a word is. -/
def Word.classify (options : List String) (word : String) : Word :=
  match word.toList with
  | '-' :: '-' :: c :: cs =>
    let name := (c :: cs).takeWhile (· ≠ '=')
    match longOptions options (String.ofList ('-' :: '-' :: name)) with
    | [] => .plain
    | [found] =>
      if name.length < cs.length + 1 then .badValue
      else if found = "--help" then .help
      else .option found
    | _ => .ambiguous
  | ['-', 'h'] => .help
  | '-' :: 'h' :: cs =>
    -- the option may be repeated, with an equals sign before the first repetition; anything else
    -- would be a value
    let repeated := match cs with
      | '=' :: repeated => repeated
      | repeated => repeated
    if !repeated.isEmpty && repeated.all (· = 'h') then .help else .badValue
  | _ => .plain

/-- Whether a text is a row of digits of any script, with one line break after it at most. -/
def isDigitLine (cs : List Char) : Bool :=
  let rest := cs.dropWhile Text.isDecimal
  cs.head?.any Text.isDecimal && (rest = [] || rest = ['\n'])

/-- Whether a text is a number below zero: a minus sign, then a row of digits, in front of which
there may be a point with or without digits before it. -/
def isNegative : List Char → Bool
  | '-' :: cs =>
    match cs.dropWhile Text.isDecimal with
    | '.' :: digits => isDigitLine digits
    | _ => isDigitLine cs
  | _ => false

/-- Whether a word that is no known option looks like an option nevertheless. -/
def looksLikeOption (word : String) : Bool :=
  match word.toList with
  | '-' :: c :: cs => !isNegative word.toList && !(c :: cs).contains ' '
  | _ => false

/-- Reads the words after a command; `extra` says whether one could not be used, and `force` whether
the option of that name was given. -/
def readRest (topic : Topic) (options : List String) (result : Bool → Command)
    (extra force : Bool) : List String → Invocation
  | [] => if extra then .wrong else .run (result force)
  | "--" :: _ => .wrong
  | word :: rest =>
    match Word.classify options word with
    | .help => .help topic
    | .badValue | .ambiguous => .wrong
    | .option _ => readRest topic options result extra true rest
    | .plain => readRest topic options result true force rest

/-- Reads the words after a command. -/
def readAfter (topic : Topic) (options : List String) (result : Bool → Command) (extra : Bool)
    (words : List String) : Invocation :=
  let isAmbiguous (word : String) : Bool := Word.classify options word = .ambiguous
  -- ambiguous words count before all others, up to the word that ends the options
  if (words.takeWhile (· ≠ "--")).any isAmbiguous then .wrong
  else readRest topic options result extra false words

/-- Reads the words from the first on. -/
def readFrom (extra : Bool) : List String → Invocation
  | [] => .wrong
  | "--" :: _ => .wrong
  | "populate" :: rest =>
    readAfter .populate ["--help", "--force"] .populate extra rest
  | "clear" :: rest => readAfter .clear ["--help"] (fun _ => .clear) extra rest
  | word :: rest =>
    match Word.classify ["--help"] word with
    | .help => .help .all
    | .plain => if looksLikeOption word then readFrom true rest else .wrong
    | _ => .wrong

def read (words : List String) : Invocation := readFrom false words

/-- The line that says how a program of this name is called. -/
def usage (program : String) : String := "usage: " ++ program ++ " [-h] \x7bpopulate,clear\x7d ..."

/-- The help text on a topic, for a program of this name. -/
def helpText (program : String) : Topic → List String
  | .all =>
    [usage program,
     "",
     "Seed the dev database with a node tree.",
     "",
     "positional arguments:",
     "  \x7bpopulate,clear\x7d",
     "    populate        Populate database with test data",
     "    clear           Remove all nodes and associations",
     "",
     "options:",
     "  -h, --help        show this help message and exit"]
  | .populate =>
    ["usage: " ++ program ++ " populate [-h] [--force]",
     "",
     "options:",
     "  -h, --help  show this help message and exit",
     "  --force     Clear existing data before populating"]
  | .clear =>
    ["usage: " ++ program ++ " clear [-h]",
     "",
     "options:",
     "  -h, --help  show this help message and exit"]

end CommandLine

/-- What a run of the command line leaves: its exit code and the lines it printed. -/
structure Report where
  exit : Nat
  lines : List String
  deriving DecidableEq, Repr

def Command.operation : Command → Operation (List String)
  | .populate force => Seed.populate force
  | .clear => Seed.clear

/-- Runs a command line on the committed rows, as one unit of work. -/
def run (program : String) (words : List String) (s : Store) : Except Failure Report × Store :=
  match CommandLine.read words with
  | .wrong => (.ok ⟨2, []⟩, s)
  | .help topic => (.ok ⟨0, CommandLine.helpText program topic⟩, s)
  | .run command =>
    let (result, s') := command.operation.transact s
    (result.map fun lines => ⟨0, lines⟩, s')

end Multifiling.Seed
