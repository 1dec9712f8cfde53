import Unmark.CommandLine.Option
import Unmark.Markdown.Options
import Unmark.Text.UpperCase
/-!
What a command line asks for. All arguments are first read by themselves; then they take effect from left to right.
The first text that stands for itself is the input, and any other is left over. The last value of an option wins; a
separator that is attached to an option is no value, and takes the place of any other. An option that asks for help or
for the version ends the reading at once; what is left over is only found out after all else.
-/
namespace Unmark

/-- what is to be converted, and how -/
structure Request where
  /-- the file to read, or a hyphen -/
  input : Text
  /-- the file to write, if not the standard output -/
  out : Option Text
  parsing : ParserOptions
  /-- the name of the level at which the log starts, unless a separator stands in its place -/
  level : Option Text
  logFile : Option Text
  trace : Bool
deriving DecidableEq, Repr

/-- why no request comes of a command line -/
inductive Detour where
  | help
  | version
  | misuse (e : UsageError)
deriving DecidableEq, Repr

/-- settings that a command line can override -/
structure Defaults where
  level : Option Text
  logFile : Option Text
deriving DecidableEq, Repr

/-- what has been read of a command line -/
structure Draft where
  input : Option Text := none
  out : Option Text := none
  parsing : ParserOptions := {}
  level : Option (Option Text) := none
  logFile : Option Text := none
  trace : Bool := false
  leftOver : List Text := []

namespace Draft

/-- the effect of an option with its value, if it has one -/
def take (d : Draft) : Flag × Option Text → Except Detour Draft
  | (.help, _) => .error .help
  | (.version, _) => .error .version
  | (.out, value) => .ok { d with out := some (value.getD []) }
  | (.noTables, _) => .ok { d with parsing := { d.parsing with tables := false } }
  | (.noStrikethrough, _) => .ok { d with parsing := { d.parsing with strikethrough := false } }
  | (.noTaskLists, _) => .ok { d with parsing := { d.parsing with taskLists := false } }
  | (.logLevel, none) => .ok { d with level := some none }
  | (.logLevel, some value) =>
    let name := Text.upper value
    if levelNames.contains (String.ofList name) then .ok { d with level := some (some name) }
    else .error (.misuse (.noLevel name))
  | (.logFile, value) => .ok { d with logFile := some (value.getD []) }
  | (.trace, _) => .ok { d with trace := true }

def takeAll (d : Draft) : List (Flag × Option Text) → Except Detour Draft
  | [] => .ok d
  | use :: rest => do
    let d ← d.take use
    d.takeAll rest

end Draft

/-- what an option takes: itself with its value, other options in the same argument, and how many of the arguments
after it -/
structure Uses where
  options : List (Flag × Option Text)
  following : Nat

namespace Uses

/-- the value that an attached text is -/
def value? (t : Text) : Option Text :=
  if t = Text.separator then none else some t

/-- reads an option to which nothing is attached; if it needs a value, it takes the argument after it, which must
stand for itself -/
def ofNothing (next : Option (Text × Argument)) (f : Flag) : Except UsageError Uses :=
  if f.takesValue then
    match next with
    | some (value, .plain) => .ok ⟨[(f, some value)], 1⟩
    | _ => .error (.noValue f)
  else .ok ⟨[(f, none)], 0⟩

/-- reads an option with a text attached to its letter: its value, if it needs one, and otherwise letters of more
options -/
def ofTail (next : Option (Text × Argument)) (f : Flag) (t : Text) : Except UsageError Uses :=
  if f.takesValue then .ok ⟨[(f, value? t)], 0⟩
  else
    match t with
    | [] => .error (.unwantedValue f [])
    | c :: rest =>
      match Flag.ofSpelling? ['-', c] with
      | none => .error (.unwantedValue f (c :: rest))
      | some g => do
        let more ← if rest.isEmpty then ofNothing next g else ofTail next g rest
        return { more with options := (f, none) :: more.options }

/-- reads an option with whatever is attached to it -/
def ofAttachment (next : Option (Text × Argument)) (f : Flag) : Attachment → Except UsageError Uses
  | .nothing => ofNothing next f
  | .value t => if f.takesValue then .ok ⟨[(f, value? t)], 0⟩ else .error (.unwantedValue f t)
  | .tail t => ofTail next f t

end Uses

namespace Request

/-- lets arguments take effect, from left to right; `skip` of them are taken already -/
def read (d : Draft) (skip : Nat) : List (Text × Argument) → Except Detour Draft
  | [] => .ok d
  | (t, a) :: rest =>
    match skip with
    | skip + 1 => read d skip rest
    | 0 =>
      match a with
      | .plain =>
        if d.input.isSome then read { d with leftOver := d.leftOver ++ [t] } 0 rest
        else
          -- a separator right after the input is used up with it
          let isEnd := (rest.head?.map Prod.snd) == some .separator
          read { d with input := some t } (if isEnd then 1 else 0) rest
      | .separator => if d.input.isSome then read { d with leftOver := d.leftOver ++ [t] } 0 rest else read d 0 rest
      | .unknown => read { d with leftOver := d.leftOver ++ [t] } 0 rest
      | .option f attached =>
        match Uses.ofAttachment rest.head? f attached with
        | .error e => .error (.misuse e)
        | .ok uses =>
          match d.takeAll uses.options with
          | .error detour => .error detour
          | .ok d => read d uses.following rest

def nonempty (t : Option Text) : Option Text :=
  t.filter fun t => !t.isEmpty

def defaultLevel : Text := "WARNING".toList

def ofDraft (defaults : Defaults) (d : Draft) : Request :=
  { input := d.input.getD ['-']
    out := nonempty d.out
    parsing := d.parsing
    level := d.level.getD (some (((nonempty defaults.level).map Text.upper).getD defaultLevel))
    logFile := nonempty (d.logFile.or defaults.logFile)
    trace := d.trace }

def ofArguments (defaults : Defaults) (arguments : List Text) : Except Detour Request :=
  match Argument.scan arguments with
  | .error e => .error (.misuse e)
  | .ok scanned => do
    let d ← read {} 0 scanned
    if d.leftOver.isEmpty then .ok (ofDraft defaults d) else .error (.misuse (.unrecognized d.leftOver))

end Request

end Unmark
