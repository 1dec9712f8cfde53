/-!
Text as a list of characters, and the ways in which a piece of text is tidied or taken apart: trimming blanks at both
ends, dropping trailing line feeds, squeezing runs of line feeds to one, and splitting at a separator.

Blank characters are Unicode's `White_Space` with the four information separators; the zero width and format
characters (U+200B, U+2060, U+FEFF, U+180E) are not blank.
-/
namespace Unmark

/-- a piece of text, character by character -/
abbrev Text := List Char

namespace Text

def blankRanges : List (Nat × Nat) :=
  [(0x09, 0x0D), (0x1C, 0x20), (0x85, 0x85), (0xA0, 0xA0), (0x1680, 0x1680), (0x2000, 0x200A), (0x2028, 0x2029),
    (0x202F, 0x202F), (0x205F, 0x205F), (0x3000, 0x3000)]

def isBlank (c : Char) : Bool :=
  blankRanges.any fun r => r.1 ≤ c.toNat && c.toNat ≤ r.2

def trimStart (t : Text) : Text :=
  t.dropWhile isBlank

def trimEnd (t : Text) : Text :=
  (t.reverse.dropWhile isBlank).reverse

def trim (t : Text) : Text :=
  trimEnd (trimStart t)

/-- drops line feeds, and nothing else, from the end -/
def dropTrailingNewlines (t : Text) : Text :=
  (t.reverse.dropWhile (· == '\n')).reverse

/-- squeezes every run of two or more line feeds to one -/
def squeezeNewlines : Text → Text
  | [] => []
  | [c] => [c]
  | c :: d :: rest =>
    if c = '\n' ∧ d = '\n' then squeezeNewlines (d :: rest) else c :: squeezeNewlines (d :: rest)

def firstWord (t : Text) : Text :=
  (trimStart t).takeWhile fun c => !isBlank c

/-- the pieces of a text between separators, empty ones among them -/
def split (separator : Char) : Text → List Text
  | [] => [[]]
  | c :: rest =>
    if c = separator then [] :: split separator rest
    else
      match split separator rest with
      | [] => [[c]]
      | first :: others => (c :: first) :: others

def number (digits : Text) : Nat :=
  digits.foldl (fun n c => 10 * n + (c.toNat - '0'.toNat)) 0

/-- the separator that closes every block -/
def blockEnd : Text := ['\n', '\n']

end Text

end Unmark
