/-!
Decimal numbers as they are written in data: a sign, a magnitude and a count of places after the point. A number with
places is a fraction even when its value is whole, and shows a point; only a fraction can be a negative zero.
-/
namespace Unmark

/-- the number `magnitude / 10 ^ places`, written with so many places, and perhaps with a minus sign -/
structure Decimal where
  isNegative : Bool
  magnitude : Nat
  places : Nat
deriving DecidableEq, Repr

namespace Decimal

def ofInt (n : Int) : Decimal := ⟨n < 0, n.natAbs, 0⟩

/-- the number without its point -/
def mantissa (d : Decimal) : Int :=
  if d.isNegative then -d.magnitude else d.magnitude

/-- the number `m * 10 ^ exponent`, as a fraction -/
def ofScientific (isNegative : Bool) (m : Nat) (exponent : Int) : Decimal :=
  if 0 ≤ exponent then ⟨isNegative, m * Nat.pow 10 (exponent.toNat + 1), 1⟩ else ⟨isNegative, m, exponent.natAbs⟩

/-- the value as an integer, if it is written as one -/
def toInt? (d : Decimal) : Option Int :=
  if d.places = 0 then some d.mantissa else none

def same (a b : Decimal) : Bool :=
  a.mantissa * Int.pow 10 b.places == b.mantissa * Int.pow 10 a.places

def dropTrailingZeros (digits : List Char) : List Char :=
  (digits.reverse.dropWhile (· == '0')).reverse

/-- a fraction in digits: positional from 0.0001 up to 10 ^ 16, with an exponent of at least two digits elsewhere -/
def showFraction (magnitude places : Nat) : List Char :=
  let written := Nat.toDigits 10 magnitude
  let point : Int := (written.length : Int) - places
  let digits := dropTrailingZeros written
  if digits.isEmpty then ['0', '.', '0']
  else if -4 < point && point ≤ 16 then
    if point ≤ 0 then ['0', '.'] ++ List.replicate (-point).toNat '0' ++ digits
    else
      let whole := point.toNat
      let padded := digits ++ List.replicate (whole - digits.length) '0'
      let rest := padded.drop whole
      padded.take whole ++ ['.'] ++ (if rest.isEmpty then ['0'] else rest)
  else
    let exponent := point - 1
    let size := Nat.toDigits 10 exponent.natAbs
    let tail := digits.drop 1
    digits.take 1 ++ (if tail.isEmpty then [] else '.' :: tail) ++ ['e', if exponent < 0 then '-' else '+'] ++
      List.replicate (2 - size.length) '0' ++ size

def shown (d : Decimal) : List Char :=
  match d.places with
  | 0 => (if d.mantissa < 0 then ['-'] else []) ++ Nat.toDigits 10 d.magnitude
  | places + 1 => (if d.isNegative then ['-'] else []) ++ showFraction d.magnitude (places + 1)

end Decimal

end Unmark
