import Unmark.Storage.FileTree
/-!
Where source text comes from. Bytes, wherever they come from, are read as UTF-8 without a byte order mark at the
start; text is taken as it is. A string may be either: if it is short, holds no line feed and names a file, it stands
for the content of that file, and for itself otherwise.
-/
namespace Unmark

/-- something that source text can be read from -/
inductive Source where
  | string (t : Text)
  | bytes (content : Bytes)
  | path (t : Text)
  | textStream (t : Text)
  | byteStream (content : Bytes)

namespace Source

/-- how many characters a string that names a file may have -/
def nameLimit : Nat := 260

/-- whether a string stands for the content of a file that it names -/
def namesFile (files : FileTree) (t : Text) : Bool :=
  decide (t.length ≤ nameLimit) && !t.contains '\n' && files.isFile (.ofText t)

def readFile (files : FileTree) (p : Path) : Except Fault Text := do
  let content ← files.read p
  return Utf8.decodeUnmarked content

def read (files : FileTree) : Source → Except Fault Text
  | .string t => if namesFile files t then readFile files (.ofText t) else .ok t
  | .bytes content => .ok (Utf8.decodeUnmarked content)
  | .path t => readFile files (.ofText t)
  | .textStream t => .ok t
  | .byteStream content => .ok (Utf8.decodeUnmarked content)

end Source

end Unmark
