import Unmark.Text.Basic
import Unmark.Text.Digit
import Unmark.Text.Quoted
/-!
The options of the command line, and how one argument is read by itself. An argument is an option if it is spelled
like one, or like the beginning of exactly one long option; a value may follow the spelling, after an equals sign or,
after a single letter, at once. Negative numbers, texts with a space and single hyphens are no options.
-/
namespace Unmark

/-- the mark after which no argument is an option -/
def Text.separator : Text := ['-', '-']

/-- the levels that may be asked for -/
def levelNames : List String := ["DEBUG", "INFO", "WARNING", "ERROR"]

inductive Flag where
  | help
  | out
  | noTables
  | noStrikethrough
  | noTaskLists
  | logLevel
  | logFile
  | trace
  | version
deriving DecidableEq, Repr

namespace Flag

/-- all options, in the order in which messages list them -/
def all : List Flag :=
  [.help, .out, .noTables, .noStrikethrough, .noTaskLists, .logLevel, .logFile, .trace, .version]

def spellings : Flag → List String
  | .help => ["-h", "--help"]
  | .out => ["--out", "-o"]
  | .noTables => ["--no-tables"]
  | .noStrikethrough => ["--no-strikethrough"]
  | .noTaskLists => ["--no-task-lists"]
  | .logLevel => ["--log-level"]
  | .logFile => ["--log-file"]
  | .trace => ["--trace"]
  | .version => ["--version"]

/-- how the value of an option is called, if it needs one -/
def valueName? : Flag → Option String
  | .out => some "OUT"
  | .logLevel => some ("\x7b" ++ ",".intercalate levelNames ++ "\x7d")
  | .logFile => some "LOG_FILE"
  | _ => none

def takesValue (f : Flag) : Bool := f.valueName?.isSome

def label (f : Flag) : String := "/".intercalate f.spellings

/-- every spelling with its option -/
def spelled : List (Text × Flag) :=
  all.flatMap fun f => f.spellings.map fun s => (s.toList, f)

def ofSpelling? (t : Text) : Option Flag := spelled.lookup t

end Flag

/-- what follows the spelling of an option in its argument -/
inductive Attachment where
  | nothing
  /-- a value, after the equals sign of a long spelling -/
  | value (t : Text)
  /-- a value, or letters that are options themselves, after a single letter -/
  | tail (t : Text)
deriving DecidableEq, Repr

/-- what an argument is, read by itself -/
inductive Argument where
  /-- a text that stands for itself -/
  | plain
  /-- the mark after which all arguments stand for themselves -/
  | separator
  /-- an option, and what follows its spelling -/
  | option (f : Flag) (attached : Attachment)
  /-- spelled like an option, but like none that there is -/
  | unknown
deriving DecidableEq, Repr

inductive UsageError where
  | ambiguous (argument : Text) (spellings : List Text)
  | noValue (f : Flag)
  | unwantedValue (f : Flag) (value : Text)
  | noLevel (value : Text)
  | unrecognized (arguments : List Text)
deriving DecidableEq, Repr

def UsageError.message : UsageError → Text
  | .ambiguous argument spellings =>
    "ambiguous option: ".toList ++ argument ++ " could match ".toList ++ [',', ' '].intercalate spellings
  | .noValue f => ("argument " ++ f.label ++ ": expected one argument").toList
  | .unwantedValue f value =>
    ("argument " ++ f.label ++ ": ignored explicit argument ").toList ++ Text.quote value
  | .noLevel value =>
    ("argument " ++ Flag.logLevel.label ++ ": invalid choice: ").toList ++ Text.quote value ++
      (" (choose from " ++ ", ".intercalate (levelNames.map Text.quoteString) ++ ")").toList
  | .unrecognized arguments => "unrecognized arguments: ".toList ++ [' '].intercalate arguments

namespace Argument

def isDigits (t : Text) : Bool :=
  !t.isEmpty && t.all Text.isDecimal

def dropFinalNewline (t : Text) : Text :=
  if t.getLast? = some '\n' then t.dropLast else t

/-- whether a text is a negative number, whole or with a point; a line feed may follow it -/
def isNegativeNumber : Text → Bool
  | '-' :: body =>
    let body := dropFinalNewline body
    isDigits body ||
      (match body.dropWhile Text.isDecimal with
        | '.' :: fraction => isDigits fraction
        | _ => false)
  | _ => false

def beforeEquals (t : Text) : Text := t.takeWhile (· != '=')

/-- what follows the first equals sign of a text, if it has one -/
def afterEquals? (t : Text) : Option Text :=
  (t.dropWhile (· != '=')).tail?

/-- whether a text that starts with a hyphen is spelled like a long option -/
def isLong (t : Text) : Bool := (t.drop 1).head? == some '-'

/-- the option that is spelled in full before an equals sign, and what follows the sign -/
def assigned? (t : Text) : Option Argument := do
  let attached ← afterEquals? t
  let f ← Flag.ofSpelling? (beforeEquals t)
  return .option f (if isLong t then .value attached else .tail attached)

/-- the options that an argument may mean, each with the spelling that it stands for and what follows it -/
def candidates (t : Text) : List (Flag × Text × Attachment) :=
  if isLong t then
    (Flag.spelled.filter fun s => (beforeEquals t).isPrefixOf s.1).map fun s =>
      (s.2, s.1, ((afterEquals? t).map .value).getD .nothing)
  else (Flag.spelled.filter fun s => s.1 = t.take 2).map fun s => (s.2, s.1, .tail (t.drop 2))

/-- reads one argument that starts with a hyphen and is more than that -/
def ofHyphened (t : Text) : Except UsageError Argument :=
  match assigned? t with
  | some a => .ok a
  | none =>
    match candidates t with
    | [] => .ok (if isNegativeNumber t || t.contains ' ' then .plain else .unknown)
    | [(f, _, attached)] => .ok (.option f attached)
    | several => .error (.ambiguous t (several.map fun c => c.2.1))

def ofText : Text → Except UsageError Argument
  | '-' :: body =>
    match Flag.ofSpelling? ('-' :: body) with
    | some f => .ok (.option f .nothing)
    | none => if body.isEmpty then .ok .plain else ofHyphened ('-' :: body)
  | _ => .ok .plain

/-- reads arguments, each by itself, up to a separator; what follows it stands for itself -/
def scan : List Text → Except UsageError (List (Text × Argument))
  | [] => .ok []
  | t :: rest =>
    if t = Text.separator then .ok ((t, .separator) :: rest.map fun t => (t, .plain))
    else do
      let first ← ofText t
      let others ← scan rest
      return (t, first) :: others

end Argument

end Unmark
