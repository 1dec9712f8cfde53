import Unmark.Storage.FileTree
/-!
Where finished text goes: to a file, to a stream of bytes or of text, or to some object that can be written to, whose
mode tells which of the two it takes. Files and byte streams get the UTF-8 encoding of the text. A file that cannot
be written is reported as an error of its own, with the refusal behind it.
-/
namespace Unmark

/-- something that text can be sent to -/
inductive Destination where
  | path (t : Text)
  | byteStream
  | textStream
  /-- an object with a mode, if it says one -/
  | writable (mode : Option Value)
  /-- something that cannot be written to, by the name of its type -/
  | unsupported (typeName : String)

/-- what a stream was given -/
inductive Received where
  | bytes (content : Bytes)
  | text (t : Text)
deriving DecidableEq, Repr

/-- what has become of the files, and what the stream was given, if there is one -/
structure Delivery where
  files : FileTree
  received : Option Received

namespace Destination

def isBinary : Option Value → Bool
  | some (.text mode) => mode.toList.contains 'b'
  | _ => false

def writeFile (files : FileTree) (p : Path) (t : Text) : Except Fault FileTree :=
  match files.write p (Utf8.encode t) with
  | .ok written => .ok written
  | .error (.system e) => .error (.reported (.outputFailed p.toString none (some (.system e.reason))))
  | .error f => .error f

def deliver (files : FileTree) (t : Text) : Destination → Except Fault Delivery
  | .path name => do
    let written ← writeFile files (.ofText name) t
    return ⟨written, none⟩
  | .byteStream => .ok ⟨files, some (.bytes (Utf8.encode t))⟩
  | .textStream => .ok ⟨files, some (.text t)⟩
  | .writable mode => .ok ⟨files, some (if isBinary mode then .bytes (Utf8.encode t) else .text t)⟩
  | .unsupported typeName => .error (.unsupportedTarget typeName)

end Destination

end Unmark
