import Unmark.Text.Basic
/-!
UTF-8, both ways. Encoding is total, since a character is always a scalar value. Decoding never fails: each maximal
ill-formed stretch that starts a well-formed sequence, or else each single byte, becomes U+FFFD, and one byte order
mark at the very start is dropped.
-/
namespace Unmark

/-- a string of bytes -/
abbrev Bytes := List UInt8

namespace Utf8

def encodeChar (c : Char) : Bytes :=
  let n := c.toNat
  if n < 0x80 then [n.toUInt8]
  else if n < 0x800 then [(0xC0 + n / 0x40).toUInt8, (0x80 + n % 0x40).toUInt8]
  else if n < 0x10000 then
    [(0xE0 + n / 0x1000).toUInt8, (0x80 + n / 0x40 % 0x40).toUInt8, (0x80 + n % 0x40).toUInt8]
  else
    [(0xF0 + n / 0x40000).toUInt8, (0x80 + n / 0x1000 % 0x40).toUInt8, (0x80 + n / 0x40 % 0x40).toUInt8,
      (0x80 + n % 0x40).toUInt8]

def encode (t : Text) : Bytes :=
  t.flatMap encodeChar

/-- what a first byte announces: how many bytes follow, its own bits of the code point, and the range that the
second byte must lie in; no other byte starts a sequence -/
structure Lead where
  following : Nat
  bits : Nat
  low : Nat
  high : Nat

/-- reads a first byte; the narrowed ranges keep out overlong forms, surrogates and numbers above U+10FFFF -/
def lead? (b : Nat) : Option Lead :=
  if b < 0x80 then some ⟨0, b, 0x80, 0xBF⟩
  else if 0xC2 ≤ b ∧ b ≤ 0xDF then some ⟨1, b - 0xC0, 0x80, 0xBF⟩
  else if b = 0xE0 then some ⟨2, 0, 0xA0, 0xBF⟩
  else if b = 0xED then some ⟨2, 0x0D, 0x80, 0x9F⟩
  else if 0xE1 ≤ b ∧ b ≤ 0xEF then some ⟨2, b - 0xE0, 0x80, 0xBF⟩
  else if b = 0xF0 then some ⟨3, 0, 0x90, 0xBF⟩
  else if 0xF1 ≤ b ∧ b ≤ 0xF3 then some ⟨3, b - 0xF0, 0x80, 0xBF⟩
  else if b = 0xF4 then some ⟨3, 4, 0x80, 0x8F⟩
  else none

/-- what a decoder holds between bytes: nothing, or a sequence that still wants bytes -/
inductive Pending where
  | nothing
  | wants (following bits low high : Nat)
deriving DecidableEq, Repr

/-- the character that stands for an ill-formed stretch -/
def replacement : Char := Char.ofNat 0xFFFD

/-- one byte that starts afresh: the characters that it settles, and what is then pending -/
def start (b : Nat) : Text × Pending :=
  match lead? b with
  | none => ([replacement], .nothing)
  | some l => if l.following = 0 then ([Char.ofNat l.bits], .nothing) else ([], .wants l.following l.bits l.low l.high)

/-- one byte: the characters that it settles, and what is then pending; a byte that the pending sequence cannot
take ends it as ill-formed and starts afresh -/
def step : Pending → Nat → Text × Pending
  | .nothing, b => start b
  | .wants following bits low high, b =>
    if low ≤ b ∧ b ≤ high then
      let bits := bits * 0x40 + (b - 0x80)
      if following ≤ 1 then ([Char.ofNat bits], .nothing) else ([], .wants (following - 1) bits 0x80 0xBF)
    else
      let (chars, pending) := start b
      (replacement :: chars, pending)

/-- decodes the bytes that follow a pending sequence -/
def decodeFrom : Pending → Bytes → Text
  | .nothing, [] => []
  | .wants .., [] => [replacement]
  | pending, b :: rest =>
    let (chars, pending) := step pending b.toNat
    chars ++ decodeFrom pending rest

def mark : Char := Char.ofNat 0xFEFF

/-- decodes bytes, replacing what is ill-formed -/
def decode (bytes : Bytes) : Text :=
  decodeFrom .nothing bytes

def decodeUnmarked : Bytes → Text
  | 0xEF :: 0xBB :: 0xBF :: rest => decode rest
  | bytes => decode bytes

end Utf8

end Unmark
