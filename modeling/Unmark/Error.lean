import Unmark.Document.Kind
import Unmark.Storage.SystemError
import Unmark.Text.UpperCase
import Unmark.Value
/-!
What can go wrong, by cause. An `Error` is one that this library reports and that a handler may catch; a `Fault` is
anything that ends a computation, errors among them. Each wording lives in one function, `Error.message` for errors
and `Fault.message?` for the other faults that carry one.
-/
namespace Unmark

/-- the fault behind an error, where there is one -/
inductive Cause where
  /-- a name that names no known kind -/
  | unknownName
  /-- a package that cannot be loaded -/
  | notInstalled
  /-- a refused file operation -/
  | system (reason : Refusal)
  /-- some other fault, by name -/
  | named (name : String)
deriving DecidableEq, Repr

/-- why a handler cannot be registered -/
inductive HandlerProblem where
  | unknownKind
  | notCallable (kind : Kind)
  | described (message : String)
deriving DecidableEq, Repr

/-- what is wrong with a node: a field is missing, a field holds something else than cells, or table rows hold
something else than rows -/
inductive Defect where
  | missing
  | notCells
  | notRows
  | described (message : String)
deriving DecidableEq, Repr

/-- why source text gives no document -/
inductive ParsingProblem where
  /-- the tokenizer gave a value of this type in place of a list of tokens -/
  | noTokenList (typeName : String)
  | described (message : String)
deriving DecidableEq, Repr

/-- a package and the versions of it that will do -/
structure Requirement where
  package : String
  versions : String
deriving DecidableEq, Repr

/-- a package that is there in a version that will not do -/
structure Mismatch where
  package : String
  versions : String
  installed : String
deriving DecidableEq, Repr

/-- an error that this library reports -/
inductive Error where
  | general (text : String) (cause : Option Cause)
  | validation (text : String) (parameter : Option String) (value : Value) (cause : Option Cause)
  | wrongOptions (converter expected received : String) (wording : Option String) (cause : Option Cause)
  | badHandler (key : Value) (problem : HandlerProblem) (cause : Option Cause)
  | parsing (problem : ParsingProblem) (stage : Option String) (cause : Option Cause)
  | rendering (text : String) (stage : Option String) (cause : Option Cause)
  | malformedNode (kind field : String) (defect : Defect)
  | outputFailed (path : String) (wording : Option String) (cause : Option Cause)
  | dependency (feature : String) (missing : List Requirement) (mismatches : List Mismatch) (wording : Option String)
      (cause : Option Cause)
deriving Repr

namespace Requirement

def spelled (r : Requirement) : String := r.package ++ r.versions

def installCommand (requirements : List Requirement) : String :=
  if requirements.isEmpty then ""
  else "pip install " ++ " ".intercalate (requirements.map fun r => Text.quoteString r.spelled)

end Requirement

namespace Mismatch

def requirement (m : Mismatch) : Requirement := ⟨m.package, m.versions⟩

def spelled (m : Mismatch) : String :=
  "'" ++ m.package ++ "' (requires " ++ m.versions ++ ", but " ++ m.installed ++ " is installed)"

end Mismatch

def Defect.message (kind field : String) : Defect → String
  | .missing => "Malformed '" ++ kind ++ "' node: missing required field '" ++ field ++ "'"
  | .notCells => "Malformed '" ++ kind ++ "' node: '" ++ field ++ "' must contain only table_cell nodes"
  | .notRows => "Malformed '" ++ kind ++ "' node: '" ++ field ++ "' must contain table_row nodes"
  | .described message => message

def HandlerProblem.message (key : Value) : HandlerProblem → String
  | .unknownKind => "Cannot register a render handler for unknown node kind " ++ String.ofList key.quoted
  | .notCallable kind => "Render handler for " ++ Text.quoteString kind.name ++ " must be callable"
  | .described message => message

def ParsingProblem.message : ParsingProblem → String
  | .noTokenList typeName => "Expected a token list from mistune, got " ++ typeName
  | .described message => message

namespace Error

/-- missing and mismatched packages, in a sentence each, and the command that helps -/
def dependencyMessage (feature : String) (missing : List Requirement) (mismatches : List Mismatch) : String :=
  let shouted := String.ofList (Text.upper feature.toList)
  let missingPart :=
    if missing.isEmpty then []
    else [shouted ++ " format requires the following packages: " ++
      ", ".intercalate (missing.map fun r => "'" ++ r.spelled ++ "'")]
  let mismatchPart :=
    if mismatches.isEmpty then []
    else [shouted ++ " format has version mismatches: " ++ ", ".intercalate (mismatches.map Mismatch.spelled)]
  let command := Requirement.installCommand (missing ++ mismatches.map Mismatch.requirement)
  let commandPart := if command.isEmpty then [] else ["Install with: " ++ command]
  ". ".intercalate (missingPart ++ mismatchPart ++ commandPart)

def message : Error → String
  | general text _ => text
  | validation text _ _ _ => text
  | wrongOptions converter expected received wording _ =>
    wording.getD (converter ++ " expected options of type '" ++ expected ++ "' but received '" ++ received ++ "'.")
  | badHandler key problem _ => problem.message key
  | parsing problem _ _ => problem.message
  | rendering text _ _ => text
  | malformedNode kind field defect => defect.message kind field
  | outputFailed path wording _ => wording.getD ("Failed to write output file: " ++ path)
  | dependency feature missing mismatches wording _ => wording.getD (dependencyMessage feature missing mismatches)

def cause? : Error → Option Cause
  | general _ cause => cause
  | validation _ _ _ cause => cause
  | wrongOptions _ _ _ _ cause => cause
  | badHandler _ _ cause => cause
  | parsing _ _ cause => cause
  | rendering _ _ cause => cause
  | malformedNode .. => none
  | outputFailed _ _ cause => cause
  | dependency _ _ _ _ cause => cause

def renderingStage? : Error → Option String
  | rendering _ stage _ => stage
  | malformedNode kind _ _ => some kind
  | outputFailed .. => some "output"
  | _ => none

end Error

/-- what ends a computation without a result -/
inductive Fault where
  /-- an error of this library -/
  | reported (e : Error)
  /-- a refused file operation -/
  | system (e : SystemError)
  /-- a heading level outside 1 to 6 -/
  | headingLevel (level : Value)
  /-- a log level that has no name -/
  | logLevel (name : String)
  /-- a path with a null character -/
  | nullCharacter
  /-- output to something that cannot be written to -/
  | unsupportedTarget (typeName : String)
  /-- a renderer that has no string output -/
  | noStringOutput (renderer : String)
  /-- a value of a type that an operation does not take -/
  | wrongType
  /-- a value that lacks a member -/
  | missingMember
  /-- a rendering that is no text; whoever joins it to others finds out -/
  | notText
  /-- a computation that calls itself without end -/
  | endless
deriving Repr

def Fault.message? : Fault → Option String
  | reported e => some e.message
  | system e => some e.message
  | headingLevel level => some ("Heading level must be 1-6, got " ++ String.ofList level.shown)
  | logLevel name => some ("Unknown level: " ++ Text.quoteString ("Level " ++ name))
  | nullCharacter => some "embedded null byte"
  | unsupportedTarget typeName => some ("Unsupported output type: <class '" ++ typeName ++ "'>")
  | noStringOutput renderer => some (renderer ++ " does not support rendering to a string.")
  | wrongType => none
  | missingMember => none
  | notText => none
  | endless => none

end Unmark
