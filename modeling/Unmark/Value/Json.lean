import Unmark.OrderedTable
import Unmark.Text.Utf8
import Unmark.Value
/-!
Values written as JSON. A reader takes what it reads off the front of a text and gives the rest; nested values are
read with a bound on their depth, for which the length of the text is enough. A number with an exponent is a fraction.
Of two fields of one name the last counts, at the place of the first.
-/
namespace Unmark

namespace Json

/-- whether a character may stand between the parts of a value -/
def isGap (c : Char) : Bool :=
  c == ' ' || c == '\t' || c == '\n' || c == '\r'

/-- a text from its first part on -/
def skip (t : Text) : Text := t.dropWhile isGap

def hexDigit? (c : Char) : Option Nat :=
  if c.isDigit then some (c.toNat - '0'.toNat)
  else if 'a' ≤ c ∧ c ≤ 'f' then some (c.toNat - 'a'.toNat + 10)
  else if 'A' ≤ c ∧ c ≤ 'F' then some (c.toNat - 'A'.toNat + 10)
  else none

/-- the character that a letter after a backslash means -/
def escaped? : Char → Option Char
  | '\x22' => some '\x22'
  | '\\' => some '\\'
  | '/' => some '/'
  | 'b' => some '\x08'
  | 'f' => some '\x0c'
  | 'n' => some '\n'
  | 'r' => some '\r'
  | 't' => some '\t'
  | _ => none

/-- reads the inside of a string up to its closing quote, as code points and halves of surrogate pairs -/
def readUnits : Text → Option (List Nat × Text)
  | [] => none
  | '\x22' :: rest => some ([], rest)
  | '\\' :: 'u' :: a :: b :: c :: d :: rest => do
    let digits ← [a, b, c, d].mapM hexDigit?
    let (units, rest) ← readUnits rest
    return (digits.foldl (fun n digit => 16 * n + digit) 0 :: units, rest)
  | '\\' :: c :: rest => do
    let meant ← escaped? c
    let (units, rest) ← readUnits rest
    return (meant.toNat :: units, rest)
  | c :: rest => do
    let (units, rest) ← readUnits rest
    return (c.toNat :: units, rest)

/-- whether a number is the first half of a surrogate pair -/
def isHigh (n : Nat) : Bool := 0xD800 ≤ n && n < 0xDC00

/-- whether a number is the second half of a surrogate pair -/
def isLow (n : Nat) : Bool := 0xDC00 ≤ n && n < 0xE000

/-- the character of a code point; a half without its partner is replaced -/
def character (n : Nat) : Char := if isHigh n || isLow n then Utf8.replacement else Char.ofNat n

/-- the characters of code points, where the two halves of a pair are one character -/
def joinPairs : List Nat → Text
  | [] => []
  | [n] => [character n]
  | m :: n :: rest =>
    if isHigh m && isLow n then Char.ofNat (0x10000 + (m - 0xD800) * 0x400 + (n - 0xDC00)) :: joinPairs rest
    else character m :: joinPairs (n :: rest)

/-- reads a string after its opening quote -/
def readString (t : Text) : Option (String × Text) := do
  let (units, rest) ← readUnits t
  return (String.ofList (joinPairs units), rest)

def exponentLimit : Nat := 400

def readExponent (t : Text) : Option (Int × Text) :=
  let (isNegative, t) := match t with
    | '-' :: rest => (true, rest)
    | '+' :: rest => (false, rest)
    | t => (false, t)
  let digits := t.takeWhile Char.isDigit
  if digits.isEmpty || exponentLimit < Text.number digits then none
  else some (if isNegative then -Text.number digits else Text.number digits, t.dropWhile Char.isDigit)

/-- reads the places of a number after its whole part: a point and digits, if there are any -/
def readPlaces : Text → Option (Text × Text)
  | '.' :: t => if (t.takeWhile Char.isDigit).isEmpty then none else some (t.span Char.isDigit)
  | t => some ([], t)

/-- reads a number after its sign: digits, with no zero before others, and perhaps places and an exponent -/
def readMagnitude (isNegative : Bool) (t : Text) : Option (Decimal × Text) := do
  let (whole, t) := t.span Char.isDigit
  if whole.isEmpty || (whole.head? == some '0' && whole != ['0']) then none
  else
    let (places, t) ← readPlaces t
    let n := Text.number (whole ++ places)
    match t with
    | 'e' :: rest | 'E' :: rest => do
      let (exponent, rest) ← readExponent rest
      return (.ofScientific isNegative n (exponent - places.length), rest)
    | rest => return (⟨isNegative, n, places.length⟩, rest)

def readNumber : Text → Option (Decimal × Text)
  | '-' :: t => readMagnitude true t
  | t => readMagnitude false t

/-- reads a value that is written as a word -/
def readWord (t : Text) : Option (Value × Text) :=
  if "null".toList.isPrefixOf t then some (.null, t.drop 4)
  else if "true".toList.isPrefixOf t then some (.bool true, t.drop 4)
  else if "false".toList.isPrefixOf t then some (.bool false, t.drop 5)
  else none

mutual

/-- reads a value, nested no deeper than `depth` -/
def readValue (depth : Nat) (t : Text) : Option (Value × Text) :=
  match depth with
  | 0 => none
  | depth + 1 =>
    match skip t with
    | '\x22' :: rest => do
      let (s, rest) ← readString rest
      return (.text s, rest)
    | '[' :: rest =>
      match skip rest with
      | ']' :: rest => some (.list [], rest)
      | rest => do
        let (elements, rest) ← readElements depth rest
        return (.list elements, rest)
    | '\x7b' :: rest =>
      match skip rest with
      | '\x7d' :: rest => some (.object [], rest)
      | rest => do
        let (fields, rest) ← readFields depth rest
        return (.object (OrderedTable.putAll [] fields), rest)
    | t =>
      match readNumber t with
      | some (n, rest) => some (.number n, rest)
      | none => readWord t

def readElements (depth : Nat) (t : Text) : Option (List Value × Text) :=
  match depth with
  | 0 => none
  | depth + 1 => do
    let (v, rest) ← readValue depth t
    match skip rest with
    | ']' :: rest => some ([v], rest)
    | ',' :: rest => do
      let (elements, rest) ← readElements depth rest
      return (v :: elements, rest)
    | _ => none

def readFields (depth : Nat) (t : Text) : Option (List (String × Value) × Text) :=
  match depth with
  | 0 => none
  | depth + 1 =>
    match skip t with
    | '\x22' :: rest => do
      let (name, rest) ← readString rest
      match skip rest with
      | ':' :: rest => do
        let (v, rest) ← readValue depth rest
        match skip rest with
        | '\x7d' :: rest => some ([(name, v)], rest)
        | ',' :: rest => do
          let (fields, rest) ← readFields depth rest
          return ((name, v) :: fields, rest)
        | _ => none
      | _ => none
    | _ => none

end

end Json

def Value.ofJson? (t : Text) : Option Value := do
  let (v, rest) ← Json.readValue (t.length + 1) t
  if (Json.skip rest).isEmpty then some v else none

end Unmark
