import Unmark.Requirement.Check
import Unmark.Requirement.Version
/-!
The versions that the program goes by. A specification is a list of clauses with commas between them, and a version is
within it if each clause admits it; previews are within none.
-/
namespace Unmark

/-- what a clause asks of a version -/
inductive Clause where
  | atLeast (release : List Nat)
  | atMost (release : List Nat)
  | above (release : List Nat)
  | below (release : List Nat)
  | exactly (release : List Nat)
  | otherThan (release : List Nat)
  | startingWith (numbers : List Nat)
  | notStartingWith (numbers : List Nat)
  /-- at least a release, and the same in all of its numbers but the last -/
  | compatibleWith (release : List Nat)
deriving DecidableEq, Repr

namespace Clause

def admits : Clause → Version → Bool
  | .atLeast release, v => v.compareTo release != .lt
  | .atMost release, v => v.compareTo release == .lt || v.isExactly release
  | .above release, v => v.compareTo release == .gt
  | .below release, v => v.compareTo release == .lt
  | .exactly release, v => v.isExactly release
  | .otherThan release, v => !v.isExactly release
  | .startingWith numbers, v => v.startsWith numbers
  | .notStartingWith numbers, v => !v.startsWith numbers
  | .compatibleWith release, v => v.compareTo release != .lt && v.startsWith release.dropLast

/-- a release that a text writes in full -/
def release? (t : Text) : Option (List Nat) :=
  match Version.readRelease? (Version.dropLetter ((Text.trim t).map Char.toLower)) with
  | some (release, []) => some release
  | _ => none

/-- the beginning of a release, with a star for the rest -/
def beginning? (t : Text) : Option (List Nat) :=
  match (Text.trim t).reverse with
  | '*' :: '.' :: rest => release? rest.reverse
  | _ => none

def ofText? (t : Text) : Option Clause :=
  match Text.trim t with
  | '>' :: '=' :: rest => (release? rest).map .atLeast
  | '<' :: '=' :: rest => (release? rest).map .atMost
  | '=' :: '=' :: rest => ((beginning? rest).map .startingWith).or ((release? rest).map .exactly)
  | '!' :: '=' :: rest => ((beginning? rest).map .notStartingWith).or ((release? rest).map .otherThan)
  | '~' :: '=' :: rest => ((release? rest).filter fun release => 2 ≤ release.length).map .compatibleWith
  | '>' :: rest => (release? rest).map .above
  | '<' :: rest => (release? rest).map .below
  | _ => none

def specification? (t : Text) : Option (List Clause) :=
  (((Text.split ',' t).map Text.trim).filter fun piece => !piece.isEmpty).mapM ofText?

end Clause

/-- whether a version is within a specification, if it is a version; what is no specification holds no version -/
def Version.within? (version specification : Text) : Option Bool :=
  (Version.ofText? version).map fun v =>
    match Clause.specification? specification with
    | some clauses => !v.isPreview && clauses.all fun c => c.admits v
    | none => false

instance : Versioning := ⟨Version.within?⟩

end Unmark
