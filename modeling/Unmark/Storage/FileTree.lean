import Unmark.Error
import Unmark.OrderedTable
import Unmark.Storage.Path
import Unmark.Text.Utf8
/-!
Files and directories, by place, and the operations on them. A path is followed piece by piece: every directory on
the way must be there, and only the last piece may be missing. What an operation refuses leaves the files as they
were, except that directories made on the way to a refused one stay.
-/
namespace Unmark

/-- where something lies: the names from the root down -/
abbrev Place := List Text

/-- what may lie at a place -/
inductive Entry where
  | file (content : Bytes)
  | directory
deriving DecidableEq, Repr

/-- files and directories, and the directory that paths start from -/
structure FileTree where
  home : Place
  entries : OrderedTable Place Entry

namespace FileTree

/-- how many bytes a name may have -/
def nameLimit : Nat := 255

/-- how many bytes a path must stay below -/
def pathLimit : Nat := 4096

/-- how many bytes a text takes -/
def size (t : Text) : Nat := (Utf8.encode t).length

/-- what lies at a place; the root is a directory -/
def entryAt? (files : FileTree) (place : Place) : Option Entry :=
  if place.isEmpty then some .directory else OrderedTable.get? place files.entries

def put (files : FileTree) (place : Place) (e : Entry) : FileTree :=
  { files with entries := OrderedTable.put place e files.entries }

/-- follows the pieces of a path from a place -/
def follow (files : FileTree) (place : Place) : List Text → Except Refusal Place
  | [] => .ok place
  | part :: rest =>
    match files.entryAt? place with
    | none => .error .noEntry
    | some (.file _) => .error .notDirectory
    | some .directory =>
      if part = Path.up then files.follow place.dropLast rest
      else if nameLimit < size part then .error .nameTooLong
      else files.follow (place ++ [part]) rest

/-- the place that a path leads to; something need not lie there -/
def locate (files : FileTree) (p : Path) : Except Refusal Place :=
  if pathLimit ≤ size p.shown then .error .nameTooLong
  else files.follow (if p.anchor = .home then files.home else []) p.parts

def refused (p : Path) (reason : Refusal) : Fault :=
  .system ⟨reason, p.toString⟩

/-- the place that a path leads to, and what lies there -/
def find (files : FileTree) (p : Path) : Except Fault (Place × Option Entry) :=
  if p.hasNull then .error .nullCharacter
  else
    match files.locate p with
    | .ok place => .ok (place, files.entryAt? place)
    | .error reason => .error (refused p reason)

def isFile (files : FileTree) (p : Path) : Bool :=
  match files.find p with
  | .ok (_, some (.file _)) => true
  | _ => false

def isDirectory (files : FileTree) (p : Path) : Bool :=
  match files.find p with
  | .ok (_, some .directory) => true
  | _ => false

def read (files : FileTree) (p : Path) : Except Fault Bytes := do
  match ← files.find p with
  | (_, some (.file content)) => .ok content
  | (_, some .directory) => .error (refused p .isDirectory)
  | (_, none) => .error (refused p .noEntry)

/-- the place of a file to write to, and its content so far; a file that is not there yet has none -/
def openFile (files : FileTree) (p : Path) : Except Fault (Place × Bytes) := do
  match ← files.find p with
  | (place, some (.file content)) => .ok (place, content)
  | (_, some .directory) => .error (refused p .isDirectory)
  | (place, none) => .ok (place, [])

def write (files : FileTree) (p : Path) (content : Bytes) : Except Fault FileTree := do
  let (place, _) ← files.openFile p
  return files.put place (.file content)

/-- opens a file to append to, and gives its place -/
def openLog (files : FileTree) (p : Path) : Except Fault (FileTree × Place) := do
  let (place, content) ← files.openFile p
  return (files.put place (.file content), place)

def appendAt (files : FileTree) (place : Place) (more : Bytes) : FileTree :=
  match files.entryAt? place with
  | some (.file content) => files.put place (.file (content ++ more))
  | _ => files

/-- makes a directory where nothing lies -/
def makeDirectory (files : FileTree) (p : Path) : Except Fault FileTree := do
  match ← files.find p with
  | (_, some _) => .error (refused p .fileExists)
  | (place, none) => .ok (files.put place .directory)

def ensureDirectory (files : FileTree) (p : Path) : Except Fault FileTree :=
  match files.makeDirectory p with
  | .ok made => .ok made
  | .error (.system e) => if e.reason ≠ .noEntry ∧ files.isDirectory p then .ok files else .error (.system e)
  | .error f => .error f

/-- makes a directory, given by its pieces from the last to the first, and those above it, unless they are there;
the files are given back in any case -/
def ensureFrom (files : FileTree) (anchor : Anchor) : List Text → FileTree × Except Fault Unit
  | [] =>
    match files.ensureDirectory ⟨anchor, []⟩ with
    | .ok made => (made, .ok ())
    | .error f => (files, .error f)
  | part :: above =>
    let p : Path := ⟨anchor, (part :: above).reverse⟩
    match files.ensureDirectory p with
    | .ok made => (made, .ok ())
    | .error (.system e) =>
      if e.reason = .noEntry then
        -- once the directory above is there, it is tried again; what was made on the way stays
        match files.ensureFrom anchor above with
        | (made, .error f) => (made, .error f)
        | (made, .ok ()) =>
          match made.ensureDirectory p with
          | .ok done => (done, .ok ())
          | .error f => (made, .error f)
      else (files, .error (.system e))
    | .error f => (files, .error f)

/-- makes a directory and those above it, unless they are there -/
def ensureDirectories (files : FileTree) (p : Path) : FileTree × Except Fault Unit :=
  files.ensureFrom p.anchor p.parts.reverse

/-- the files of `after` that are not in `before`, or not with that content -/
def changes (before after : FileTree) : List (Place × Bytes) :=
  after.entries.filterMap fun entry =>
    match entry.2 with
    | .file content => if before.entryAt? entry.1 = some (.file content) then none else some (entry.1, content)
    | .directory => none

end FileTree

end Unmark
