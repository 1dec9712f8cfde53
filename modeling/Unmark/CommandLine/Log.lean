import Unmark.Journal
import Unmark.Storage.FileTree
/-!
The log of a run. Events from a level on are written down, a line each, to the error output and, if one could be
opened, to a log file; the long form of a line also tells the time and the part of the program.
-/
namespace Unmark

/-- the time, as far as lines of the log tell it: the moment, and how long a step took -/
structure Clock where
  moment : Text
  elapsed : String
deriving DecidableEq, Repr

/-- how a run logs, and to which file -/
structure Log where
  /-- the lowest rank that is written down -/
  threshold : Nat
  /-- whether lines have the long form -/
  isLong : Bool
  clock : Clock
  file : Option Place

namespace Log

/-- the ranks of level names; critical and fatal events do not occur; a log without a level starts at warnings -/
def levels : List (String × Nat) :=
  [("CRITICAL", 50), ("FATAL", 50), ("ERROR", 40), ("WARN", 30), ("WARNING", 30), ("INFO", 20), ("DEBUG", 10),
    ("NOTSET", 30)]

def rank? (name : Text) : Option Nat := levels.lookup (String.ofList name)

def line (log : Log) (e : Event) : Text :=
  let severity := e.severity.name.toList
  let message := (e.message log.clock.elapsed).toList
  if log.isLong then
    ['['] ++ log.clock.moment ++ "] [".toList ++ severity ++ "] [".toList ++ e.source.toList ++ "] ".toList ++
      message ++ ['\n']
  else severity ++ [':', ' '] ++ message ++ ['\n']

def keeps (log : Log) (e : Event) : Bool :=
  decide (log.threshold ≤ e.severity.rank)

end Log

/-- what a run has done so far: the files, both outputs, and the events that it came upon -/
structure Console where
  files : FileTree
  output : Text := []
  errors : Text := []
  events : List Event := []

namespace Console

def complain (c : Console) (line : Text) : Console :=
  { c with errors := c.errors ++ line ++ ['\n'] }

def print (c : Console) (t : Text) : Console :=
  { c with output := c.output ++ t }

/-- files with a line of the log -/
def withLine (files : FileTree) (file : Option Place) (line : Text) : FileTree :=
  match file with
  | some place => files.appendAt place (Utf8.encode line)
  | none => files

/-- comes upon an event, and writes it down if the log keeps it -/
def note (c : Console) (log : Log) (e : Event) : Console :=
  if log.keeps e then
    { c with
      events := c.events ++ [e]
      errors := c.errors ++ log.line e
      files := withLine c.files log.file (log.line e) }
  else { c with events := c.events ++ [e] }

def noteAll (c : Console) (log : Log) (events : List Event) : Console :=
  events.foldl (fun c e => c.note log e) c

end Console

end Unmark
