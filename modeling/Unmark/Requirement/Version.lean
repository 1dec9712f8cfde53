import Unmark.Text.Basic
/-!
Version numbers of packages: an epoch, release numbers, and marks for previews, later builds and
local builds. Missing release numbers count as zero. What has not this form is no version.
-/
namespace Unmark

/-- a version; of a preview only that it is one matters, of a local build nothing -/
structure Version where
  epoch : Nat
  release : List Nat
  isPreview : Bool
  /-- the number of a later build of the same release -/
  post : Option Nat
deriving DecidableEq, Repr

namespace Version

def isNumber (t : Text) : Bool :=
  !t.isEmpty && t.all Char.isDigit

/-- whether a character may stand between the parts of a version -/
def isSeparator (c : Char) : Bool :=
  c == '-' || c == '_' || c == '.'

def dropSeparator : Text → Text
  | [] => []
  | c :: rest => if isSeparator c then rest else c :: rest

def readEpoch (t : Text) : Nat × Text :=
  match t.dropWhile Char.isDigit with
  | '!' :: rest =>
    let digits := t.takeWhile Char.isDigit
    if isNumber digits then (Text.number digits, rest) else (0, t)
  | _ => (0, t)

def isDotted (c : Char) : Bool :=
  c.isDigit || c == '.'

/-- reads release numbers with dots between them; a dot after the last of them is left for what follows -/
def readRelease? (t : Text) : Option (List Nat × Text) :=
  let pieces := Text.split '.' (t.takeWhile isDotted)
  let rest := t.dropWhile isDotted
  if pieces.all isNumber then some (pieces.map Text.number, rest)
  else if pieces.getLast? = some [] && !pieces.dropLast.isEmpty && pieces.dropLast.all isNumber then
    some (pieces.dropLast.map Text.number, '.' :: rest)
  else none

/-- reads one of some words, which separators may surround, and the number after it; none counts as zero -/
def readMark? (words : List Text) (t : Text) : Option (Nat × Text) :=
  let body := dropSeparator t
  match words.find? fun w => w.isPrefixOf body with
  | none => none
  | some w =>
    let rest := dropSeparator (body.drop w.length)
    some (Text.number (rest.takeWhile Char.isDigit), rest.dropWhile Char.isDigit)

def previewWords : List Text :=
  ["alpha", "a", "beta", "b", "preview", "pre", "c", "rc"].map String.toList

def postWords : List Text := ["post", "rev", "r"].map String.toList

def developmentWords : List Text := [['d', 'e', 'v']]

/-- reads the mark of a later build: a bare number after a hyphen, or a word -/
def readPost? (t : Text) : Option (Nat × Text) :=
  match t with
  | '-' :: rest =>
    if (rest.takeWhile Char.isDigit).isEmpty then readMark? postWords t
    else some (Text.number (rest.takeWhile Char.isDigit), rest.dropWhile Char.isDigit)
  | _ => readMark? postWords t

/-- whether a text is nothing, or the mark of a local build -/
def isLocalMark : Text → Bool
  | [] => true
  | '+' :: rest =>
    (Text.split '.' (rest.map fun c => if isSeparator c then '.' else c)).all fun piece =>
      !piece.isEmpty && piece.all Char.isAlphanum
  | _ => false

/-- text after a mark that may be missing -/
def after (t : Text) (mark : Option (Nat × Text)) : Text :=
  (mark.map Prod.snd).getD t

/-- a text without the letter that may stand before a version -/
def dropLetter : Text → Text
  | 'v' :: rest => rest
  | t => t

/-- the version that a text writes, if it writes one; blanks around it and the case of letters do not matter -/
def ofText? (t : Text) : Option Version :=
  let (epoch, t) := readEpoch (dropLetter ((Text.trim t).map Char.toLower))
  match readRelease? t with
  | none => none
  | some (release, t) =>
    let preview := readMark? previewWords t
    let t := after t preview
    let post := readPost? t
    let t := after t post
    let development := readMark? developmentWords t
    let t := after t development
    if isLocalMark t then some ⟨epoch, release, preview.isSome || development.isSome, post.map Prod.fst⟩ else none

/-- the order of release numbers, where missing ones are zero -/
def compareReleases : List Nat → List Nat → Ordering
  | [], [] => .eq
  | [], b :: bs => if b = 0 then compareReleases [] bs else .lt
  | a :: as, [] => if a = 0 then compareReleases as [] else .gt
  | a :: as, b :: bs => if a < b then .lt else if b < a then .gt else compareReleases as bs

/-- where a version stands to a release; its marks do not matter -/
def compareTo (v : Version) (release : List Nat) : Ordering :=
  if 0 < v.epoch then .gt else compareReleases v.release release

/-- whether a version is exactly a release, and no later build of it -/
def isExactly (v : Version) (release : List Nat) : Bool :=
  v.compareTo release == .eq && v.post.isNone

def startsWith (v : Version) (numbers : List Nat) : Bool :=
  v.epoch == 0 &&
    (v.release ++ List.replicate (numbers.length - v.release.length) 0).take numbers.length == numbers

end Version

end Unmark
