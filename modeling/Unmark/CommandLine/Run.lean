import Unmark.CommandLine.Help
import Unmark.CommandLine.Log
import Unmark.Markdown.Parse
import Unmark.Render.Output
import Unmark.Requirement.Specification
/-!
A run of the command: it reads the arguments, opens the log, reads the input, and writes its plain text to a file or
to the standard output. A run ends with status 0, with status 1 if the input cannot be read or the library reports an
error, with status 2 on misuse; any other fault escapes.
-/
namespace Unmark

inductive Ending where
  | exit (status : Nat)
  | escaped (f : Fault)
deriving Repr

/-- what a run has done, and how it ended -/
structure Conclusion where
  console : Console
  ending : Ending

namespace Console

def exit (c : Console) (status : Nat) : Conclusion := ⟨c, .exit status⟩

/-- ends a run with a fault: errors of the library are reported, others escape -/
def stop (c : Console) : Fault → Conclusion
  | .reported e => (c.complain ("Error: ".toList ++ e.message.toList)).exit 1
  | f => ⟨c, .escaped f⟩

end Console

namespace Command

/-- the outcome of a command line that makes no request -/
def detour (defaults : Defaults) (c : Console) : Detour → Conclusion
  | .help => (c.print (helpText defaults)).exit 0
  | .version => (c.print versionLine).exit 0
  | .misuse e => (c.complain (name ++ ": error: ".toList ++ e.message)).exit 2

/-- the rank at which the log of a request starts, if its level has a name -/
def threshold (r : Request) : Except Fault Nat :=
  match r.level with
  | none => .error .wrongType
  | some level =>
    match Log.rank? level with
    | none => .error (.logLevel (String.ofList level))
    | some rank => .ok rank

/-- opens the log of a request; a log file that cannot be opened is only warned about -/
def openLog (clock : Clock) (r : Request) (c : Console) : Except Fault (Log × Console) :=
  match threshold r with
  | .error f => .error f
  | .ok threshold =>
    let log : Log := ⟨threshold, r.trace, clock, none⟩
    match r.logFile with
    | none => .ok (log, c)
    | some file =>
      match c.files.openLog (Path.settled c.files.home (.ofText file)) with
      | .ok (files, place) =>
        let log := { log with file := some place }
        .ok (log, { c with files := files }.note log (.loggingTo (String.ofList file)))
      | .error (.system e) => .ok (log, c.note log (.logFileRefused (String.ofList file) e))
      | .error f => .error f

/-- the input that stands for the standard input -/
def hyphen : Text := ['-']

def readInput (files : FileTree) (stdin : Bytes) (input : Text) : Except Fault Bytes :=
  if input = hyphen then .ok stdin else files.read (.ofText input)

/-- writes the plain text of a document to a file, whose directory is made if it is not there -/
def writeOut (log : Log) (c : Console) (nodes : List Node) (input out : Text) : Conclusion :=
  let p := Path.ofText out
  let (files, made) := c.files.ensureDirectories p.parent
  let c := { c with files := files }
  match made with
  -- not reported like a refusal to read the input or to write the output, and not taken back either
  | .error f => ⟨c, .escaped f⟩
  | .ok () =>
    let rendered := Renderer.plain.renderToText nodes
    let c := c.noteAll log rendered.events
    match rendered.result with
    | .error f => c.stop f
    | .ok t =>
      match Destination.writeFile c.files p t with
      | .error f => c.stop f
      | .ok files =>
        let c := { c with files := files }
        (c.note log (.converted (String.ofList input) p.toString)).exit 0

def printOut (log : Log) (c : Console) (nodes : List Node) : Conclusion :=
  let rendered := Renderer.plain.renderToText nodes
  let c := c.noteAll log rendered.events
  match rendered.result with
  | .error f => c.stop f
  | .ok t => (c.print t).exit 0

def convert [Versioning] (tokenizer : Tokenizer) (log : Log) (stdin : Bytes) (r : Request) (c : Console) : Conclusion :=
  match readInput c.files stdin r.input with
  | .error (.system e) => (c.complain ("Error reading input: ".toList ++ e.message.toList)).exit 1
  | .error f => ⟨c, .escaped f⟩
  | .ok content =>
    let parsed := Markdown.parse tokenizer r.parsing c.files (.bytes content)
    let c := c.noteAll log parsed.events
    match parsed.result with
    | .error f => c.stop f
    | .ok nodes =>
      match r.out with
      | some out => writeOut log c nodes r.input out
      | none => printOut log c nodes

/-- the paths that a request may follow -/
def paths (home : Place) (r : Request) : List Path :=
  (if r.input = hyphen then [] else [.ofText r.input]) ++ (r.out.map Path.ofText).toList ++
    (r.logFile.map fun file => Path.settled home (.ofText file)).toList

def run [Versioning] (tokenizer : Tokenizer) (clock : Clock) (defaults : Defaults) (arguments : List Text)
    (stdin : Bytes) (files : FileTree) : Conclusion :=
  let c : Console := { files := files }
  match Request.ofArguments defaults arguments with
  | .error d => detour defaults c d
  | .ok r =>
    match openLog clock r c with
    | .error f => ⟨c, .escaped f⟩
    | .ok (log, c) => convert tokenizer log stdin r c

end Command

end Unmark
