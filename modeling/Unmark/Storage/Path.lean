import Unmark.Text.Basic
/-!
Paths, as they are written and in normal form. Pieces stand between slashes; empty pieces and single dots mean
nothing and go, while two dots stay, since where they lead depends on the files that are there. A path starts at the
home directory or at the root, and two slashes in front, no more and no fewer, are kept.

`settled` is the other reading, by name alone: it starts at the root, and two dots cancel the piece before them.
-/
namespace Unmark

inductive Anchor where
  | home
  | root
  | doubleRoot
deriving DecidableEq, Repr

/-- a path in normal form -/
structure Path where
  anchor : Anchor
  parts : List Text
deriving DecidableEq, Repr

namespace Path

def anchorOf : Text → Anchor
  | '/' :: '/' :: '/' :: _ => .root
  | '/' :: '/' :: _ => .doubleRoot
  | '/' :: _ => .root
  | _ => .home

/-- whether a piece leads anywhere -/
def isStep (piece : Text) : Bool :=
  !piece.isEmpty && piece != ['.']

/-- the piece that leads to the directory above -/
def up : Text := ['.', '.']

def ofText (t : Text) : Path :=
  ⟨anchorOf t, (Text.split '/' t).filter isStep⟩

/-- a path as messages show it; one without pieces is a dot -/
def shown (p : Path) : Text :=
  match p.anchor with
  | .root => '/' :: ['/'].intercalate p.parts
  | .doubleRoot => '/' :: '/' :: ['/'].intercalate p.parts
  | .home => if p.parts.isEmpty then ['.'] else ['/'].intercalate p.parts

def toString (p : Path) : String := String.ofList p.shown

def hasNull (p : Path) : Bool :=
  p.parts.any fun part => part.contains (Char.ofNat 0)

/-- the directory that a path lies in, by name; a path without pieces lies in itself -/
def parent (p : Path) : Path :=
  { p with parts := p.parts.dropLast }

/-- one more piece on a stack of them; two dots take the topmost piece away -/
def push (stack : List Text) (part : Text) : List Text :=
  if part = up then stack.tail else part :: stack

/-- a path from the root that means the same by name, as seen from a home directory -/
def settled (home : List Text) (p : Path) : Path :=
  let start := if p.anchor = .home then home.reverse else []
  ⟨if p.anchor = .home then .root else p.anchor, (p.parts.foldl push start).reverse⟩

end Path

end Unmark
