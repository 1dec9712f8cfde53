import Unmark.Text.Quoted
/-!
Why the operating system refused a file operation, with its number and wording.
-/
namespace Unmark

/-- a reason to refuse a file operation -/
inductive Refusal where
  | noEntry
  | fileExists
  | notDirectory
  | isDirectory
  | nameTooLong
deriving DecidableEq, Repr

namespace Refusal

def number : Refusal → Nat
  | .noEntry => 2
  | .fileExists => 17
  | .notDirectory => 20
  | .isDirectory => 21
  | .nameTooLong => 36

def wording : Refusal → String
  | .noEntry => "No such file or directory"
  | .fileExists => "File exists"
  | .notDirectory => "Not a directory"
  | .isDirectory => "Is a directory"
  | .nameTooLong => "File name too long"

end Refusal

/-- a refused file operation -/
structure SystemError where
  reason : Refusal
  path : String
deriving DecidableEq, Repr

def SystemError.message (e : SystemError) : String :=
  "[Errno " ++ toString e.reason.number ++ "] " ++ e.reason.wording ++ ": " ++ Text.quoteString e.path

end Unmark
