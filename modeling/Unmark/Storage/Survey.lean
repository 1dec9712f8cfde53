import Unmark.Storage.FileTree
/-!
What has to be known of a real file system before an operation, and what has to be changed in it afterwards. An
operation looks only at places that its path comes by, so a tree of these stands for all files.
-/
namespace Unmark.FileTree

/-- the places that the pieces of a path come by from a place, if all directories on the way are there -/
def wayFrom (place : Place) : List Text → List Place
  | [] => [place]
  | part :: rest =>
    if part = Path.up then place :: wayFrom place.dropLast rest
    else if nameLimit < size part then [place]
    else place :: wayFrom (place ++ [part]) rest

/-- the places that a path comes by, as seen from a home directory -/
def way (home : Place) (p : Path) : List Place :=
  if p.hasNull then [] else wayFrom (if p.anchor = .home then home else []) p.parts

/-- a tree of what was found at some places -/
def ofFindings (home : Place) (found : List (Place × Option Entry)) : FileTree :=
  found.foldl (fun files f => match f.2 with | some e => files.put f.1 e | none => files) ⟨home, []⟩

/-- the directories of `after` that are not in `before`, those above first -/
def newDirectories (before after : FileTree) : List Place :=
  after.entries.filterMap fun entry =>
    if entry.2 = .directory ∧ before.entryAt? entry.1 = none then some entry.1 else none

end Unmark.FileTree
