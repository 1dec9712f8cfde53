import Std.Time.Format
import Unmark.CommandLine.Run
import Unmark.Storage.Survey
import Unmark.Value.Json
/-!
The command, on a real file system. It looks at the places that its paths come by, runs, and then writes what the run
has written. The tokenizer is not part of the program: a variable of the environment names a file with its answer,
and without one the tokenizer counts as not installed.
-/
namespace Unmark

/-- how the operating system spells a place -/
def spelled (place : Place) : String := Path.toString ⟨.root, place⟩

/-- what lies at a place -/
def look (place : Place) : IO (Option Entry) := do
  try
    let content ← IO.FS.readBinFile (spelled place)
    return some (.file content.toList)
  catch
    | .noFileOrDirectory .. => return none
    | .inappropriateType .. => return some .directory
    | e => throw e

/-- the files that some paths may lead to -/
def survey (home : Place) (paths : List Path) : IO FileTree := do
  let found ← (paths.flatMap (FileTree.way home)).eraseDups.mapM fun place => do return (place, ← look place)
  return FileTree.ofFindings home found

/-- brings the files into the state that a run has left -/
def store (before after : FileTree) : IO Unit := do
  for place in FileTree.newDirectories before after do
    IO.FS.createDir (spelled place)
  for (place, content) in FileTree.changes before after do
    IO.FS.writeBinFile (spelled place) ⟨content.toArray⟩

/-- the time that lines of the log tell; the steps of a run are not timed -/
def readClock : IO Clock := do
  let moment ← Std.Time.PlainDateTime.now
  return ⟨(moment.format "uuuu-MM-dd HH:mm:ss").toList, "0.0"⟩

/-- the tokenizer, whose answer may be at hand -/
def loadTokenizer : IO Tokenizer := do
  match ← IO.getEnv "PLAINTIFY_TOKENS" with
  | none => return .absent
  | some file =>
    let content ← IO.FS.readBinFile file
    match Value.ofJson? (Utf8.decodeUnmarked content.toList) with
    | some v => return .answering v
    | none => throw (IO.userError (file ++ ": not an answer of the tokenizer"))

end Unmark

open Unmark in
def main (arguments : List String) : IO UInt32 := do
  let arguments := arguments.map String.toList
  let level ← IO.getEnv "PLAINTIFY_LOG_LEVEL"
  let logFile ← IO.getEnv "PLAINTIFY_LOG_FILE"
  let defaults : Defaults := ⟨level.map String.toList, logFile.map String.toList⟩
  let home := (Path.ofText (toString (← IO.currentDir)).toList).parts
  let asked := Request.ofArguments defaults arguments
  let request := asked.toOption
  let before ← survey home ((request.map (Command.paths home)).getD [])
  let readsStdin := request.any fun r => r.input == Command.hyphen
  let stdin ← if readsStdin then (← IO.getStdin).readBinToEnd else pure .empty
  let done := Command.run (← loadTokenizer) (← readClock) defaults arguments stdin.toList before
  store before done.console.files
  if let .error (.misuse _) := asked then (← IO.getStderr).putStr (String.ofList Command.usageLine)
  (← IO.getStderr).putStr (String.ofList done.console.errors)
  (← IO.getStdout).putStr (String.ofList done.console.output)
  match done.ending with
  | .exit status => return status.toUInt32
  | .escaped f =>
    (← IO.getStderr).putStrLn (f.message?.getD "wrong type")
    return 1
