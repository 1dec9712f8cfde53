import Unmark.Text.Utf8
/-!
Decoding undoes encoding. What a first byte announces is read off its value, one lemma for each length of a sequence
(`lead?_two` and so on). From there the decoder takes in the other bytes of a character one by one, each within its
range, and settles the character at the last one (`decodeFrom_encodeChar`), so a text is read back character by
character (`decode_encode`).

A byte order mark at the very start is dropped by the decoder, and only there: `unmarked` says the same of the text.
The bytes of the mark are at the start of an encoding exactly if the mark is at the start of the text.
-/
namespace Unmark.Utf8

/-! ## Encodings -/

theorem encode_cons (c : Char) (t : Text) : encode (c :: t) = encodeChar c ++ encode t := rfl

/-- a character is a scalar value: below the surrogates, or above them and in range -/
theorem scalar_bounds (c : Char) : c.toNat < 0xD800 ∨ 0xDFFF < c.toNat ∧ c.toNat < 0x110000 := c.valid

theorem toNat_toUInt8 {n : Nat} (h : n < 256) : n.toUInt8.toNat = n := by
  show n % 256 = n
  exact Nat.mod_eq_of_lt h

/-! ## First bytes -/

theorem lead?_one {b : Nat} (h : b < 0x80) : lead? b = some ⟨0, b, 0x80, 0xBF⟩ := by
  rw [lead?, if_pos h]

theorem lead?_two {b : Nat} (hlow : 0xC2 ≤ b) (hhigh : b ≤ 0xDF) : lead? b = some ⟨1, b - 0xC0, 0x80, 0xBF⟩ := by
  rw [lead?, if_neg (by omega), if_pos ⟨hlow, hhigh⟩]

/-- of three bytes, the first one narrows the second one at both ends of its range -/
theorem lead?_three {b : Nat} (hlow : 0xE0 ≤ b) (hhigh : b ≤ 0xEF) :
    lead? b = some ⟨2, b - 0xE0, if b = 0xE0 then 0xA0 else 0x80, if b = 0xED then 0x9F else 0xBF⟩ := by
  rw [lead?, if_neg (by omega), if_neg (by omega)]
  by_cases hfirst : b = 0xE0
  · subst hfirst
    rfl
  by_cases hsurrogate : b = 0xED
  · subst hsurrogate
    rfl
  rw [if_neg hfirst, if_neg hsurrogate, if_pos ⟨by omega, hhigh⟩, if_neg hfirst, if_neg hsurrogate]

/-- of four bytes as well -/
theorem lead?_four {b : Nat} (hlow : 0xF0 ≤ b) (hhigh : b ≤ 0xF4) :
    lead? b = some ⟨3, b - 0xF0, if b = 0xF0 then 0x90 else 0x80, if b = 0xF4 then 0x8F else 0xBF⟩ := by
  rw [lead?, if_neg (by omega), if_neg (by omega), if_neg (by omega), if_neg (by omega), if_neg (by omega)]
  by_cases hfirst : b = 0xF0
  · subst hfirst
    rfl
  by_cases hlast : b = 0xF4
  · subst hlast
    rfl
  rw [if_neg hfirst, if_pos ⟨by omega, by omega⟩, if_neg hfirst, if_neg hlast]

/-! ## Byte by byte -/

theorem decodeFrom_cons (p : Pending) (b : UInt8) (rest : Bytes) :
    decodeFrom p (b :: rest) = (step p b.toNat).1 ++ decodeFrom (step p b.toNat).2 rest := by
  cases p <;> rfl

/-- a first byte that stands alone settles its character -/
theorem decodeFrom_single {n : Nat} (h : n < 0x80) (rest : Bytes) :
    decodeFrom .nothing (n.toUInt8 :: rest) = Char.ofNat n :: decodeFrom .nothing rest := by
  rw [decodeFrom_cons, toNat_toUInt8 (by omega), step, start, lead?_one h]
  rfl

/-- a first byte that announces others settles nothing -/
theorem decodeFrom_first {n following bits low high : Nat} (hbyte : n < 256)
    (hlead : lead? n = some ⟨following, bits, low, high⟩) (hmore : following ≠ 0) (rest : Bytes) :
    decodeFrom .nothing (n.toUInt8 :: rest) = decodeFrom (.wants following bits low high) rest := by
  rw [decodeFrom_cons, toNat_toUInt8 hbyte, step, start, hlead]
  simp only [if_neg hmore, List.nil_append]

/-- a byte in its range that is not the last one adds its bits -/
theorem decodeFrom_next {following bits low high n : Nat} (hmore : 1 < following) (hlow : low ≤ n) (hhigh : n ≤ high)
    (hbyte : n < 256) (rest : Bytes) :
    decodeFrom (.wants following bits low high) (n.toUInt8 :: rest) =
      decodeFrom (.wants (following - 1) (bits * 0x40 + (n - 0x80)) 0x80 0xBF) rest := by
  rw [decodeFrom_cons, toNat_toUInt8 hbyte, step, if_pos ⟨hlow, hhigh⟩]
  simp only [if_neg (by omega : ¬ following ≤ 1), List.nil_append]

/-- the last byte in its range settles the character -/
theorem decodeFrom_last {bits low high n : Nat} (hlow : low ≤ n) (hhigh : n ≤ high) (hbyte : n < 256) (rest : Bytes) :
    decodeFrom (.wants 1 bits low high) (n.toUInt8 :: rest) =
      Char.ofNat (bits * 0x40 + (n - 0x80)) :: decodeFrom .nothing rest := by
  rw [decodeFrom_cons, toNat_toUInt8 hbyte, step, if_pos ⟨hlow, hhigh⟩]
  rfl

/-- **A character is read back from its bytes.** -/
theorem decodeFrom_encodeChar (c : Char) (rest : Bytes) :
    decodeFrom .nothing (encodeChar c ++ rest) = c :: decodeFrom .nothing rest := by
  have hscalar := scalar_bounds c
  have hback : Char.ofNat c.toNat = c := Char.ofNat_toNat c
  generalize hn : c.toNat = n at hscalar hback
  rw [encodeChar, hn]
  -- one case for each length of a sequence
  by_cases h₁ : n < 0x80
  · rw [if_pos h₁, List.singleton_append, decodeFrom_single h₁, hback]
  by_cases h₂ : n < 0x800
  · rw [if_neg h₁, if_pos h₂]
    have hlead := lead?_two (b := 0xC0 + n / 0x40) (by omega) (by omega)
    have hbits : (0xC0 + n / 0x40 - 0xC0) * 0x40 + (0x80 + n % 0x40 - 0x80) = n := by omega
    calc decodeFrom .nothing ((0xC0 + n / 0x40).toUInt8 :: (0x80 + n % 0x40).toUInt8 :: rest)
      _ = decodeFrom (.wants 1 (0xC0 + n / 0x40 - 0xC0) 0x80 0xBF) ((0x80 + n % 0x40).toUInt8 :: rest) :=
        decodeFrom_first (by omega) hlead (by omega) _
      _ = c :: decodeFrom .nothing rest := by rw [decodeFrom_last (by omega) (by omega) (by omega), hbits, hback]
  by_cases h₃ : n < 0x10000
  · rw [if_neg h₁, if_neg h₂, if_pos h₃]
    have hlead := lead?_three (b := 0xE0 + n / 0x1000) (by omega) (by omega)
    have hbits : ((0xE0 + n / 0x1000 - 0xE0) * 0x40 + (0x80 + n / 0x40 % 0x40 - 0x80)) * 0x40 +
        (0x80 + n % 0x40 - 0x80) = n := by omega
    -- the narrowed ranges keep out what is too short for three bytes, and the surrogates
    have hlow : (if 0xE0 + n / 0x1000 = 0xE0 then 0xA0 else 0x80) ≤ 0x80 + n / 0x40 % 0x40 := by split <;> omega
    have hhigh : 0x80 + n / 0x40 % 0x40 ≤ if 0xE0 + n / 0x1000 = 0xED then 0x9F else 0xBF := by split <;> omega
    calc decodeFrom .nothing ((0xE0 + n / 0x1000).toUInt8 :: (0x80 + n / 0x40 % 0x40).toUInt8 ::
          (0x80 + n % 0x40).toUInt8 :: rest)
      _ = decodeFrom (.wants 2 (0xE0 + n / 0x1000 - 0xE0) _ _)
          ((0x80 + n / 0x40 % 0x40).toUInt8 :: (0x80 + n % 0x40).toUInt8 :: rest) :=
        decodeFrom_first (by omega) hlead (by omega) _
      _ = decodeFrom (.wants 1 _ 0x80 0xBF) ((0x80 + n % 0x40).toUInt8 :: rest) :=
        decodeFrom_next (by omega) hlow hhigh (by omega) _
      _ = c :: decodeFrom .nothing rest := by rw [decodeFrom_last (by omega) (by omega) (by omega), hbits, hback]
  · rw [if_neg h₁, if_neg h₂, if_neg h₃]
    have hlead := lead?_four (b := 0xF0 + n / 0x40000) (by omega) (by omega)
    have hbits : (((0xF0 + n / 0x40000 - 0xF0) * 0x40 + (0x80 + n / 0x1000 % 0x40 - 0x80)) * 0x40 +
        (0x80 + n / 0x40 % 0x40 - 0x80)) * 0x40 + (0x80 + n % 0x40 - 0x80) = n := by omega
    have hlow : (if 0xF0 + n / 0x40000 = 0xF0 then 0x90 else 0x80) ≤ 0x80 + n / 0x1000 % 0x40 := by split <;> omega
    have hhigh : 0x80 + n / 0x1000 % 0x40 ≤ if 0xF0 + n / 0x40000 = 0xF4 then 0x8F else 0xBF := by split <;> omega
    calc decodeFrom .nothing ((0xF0 + n / 0x40000).toUInt8 :: (0x80 + n / 0x1000 % 0x40).toUInt8 ::
          (0x80 + n / 0x40 % 0x40).toUInt8 :: (0x80 + n % 0x40).toUInt8 :: rest)
      _ = decodeFrom (.wants 3 (0xF0 + n / 0x40000 - 0xF0) _ _)
          ((0x80 + n / 0x1000 % 0x40).toUInt8 :: (0x80 + n / 0x40 % 0x40).toUInt8 :: (0x80 + n % 0x40).toUInt8 ::
            rest) :=
        decodeFrom_first (by omega) hlead (by omega) _
      _ = decodeFrom (.wants 2 _ 0x80 0xBF) ((0x80 + n / 0x40 % 0x40).toUInt8 :: (0x80 + n % 0x40).toUInt8 :: rest) :=
        decodeFrom_next (by omega) hlow hhigh (by omega) _
      _ = decodeFrom (.wants 1 _ 0x80 0xBF) ((0x80 + n % 0x40).toUInt8 :: rest) :=
        decodeFrom_next (by omega) (by omega) (by omega) (by omega) _
      _ = c :: decodeFrom .nothing rest := by rw [decodeFrom_last (by omega) (by omega) (by omega), hbits, hback]

/-- **Decoding undoes encoding.** -/
theorem decode_encode (t : Text) : decode (encode t) = t := by
  induction t with
  | nil => rfl
  | cons c rest ih =>
    rw [encode_cons, decode, decodeFrom_encodeChar]
    exact congrArg (c :: ·) ih

/-! ## The byte order mark -/

/-- a text without a byte order mark at its start -/
def unmarked : Text → Text
  | [] => []
  | c :: rest => if c = mark then rest else c :: rest

theorem unmarked_of_head {t : Text} (h : t.head? ≠ some mark) : unmarked t = t := by
  cases t with
  | nil => rfl
  | cons c rest =>
    have hc : c ≠ mark := fun hc => h (congrArg some hc)
    rw [unmarked, if_neg hc]

theorem unmarked_cons_mark (t : Text) : unmarked (mark :: t) = t := by
  rw [unmarked, if_pos rfl]

/-- **Decoding without a mark gives the text without its mark.** -/
theorem decodeUnmarked_encode (t : Text) : decodeUnmarked (encode t) = unmarked t := by
  generalize hb : encode t = bytes
  unfold decodeUnmarked
  split
  · -- the bytes of the mark are there, so the text starts with the mark itself
    rename_i rest
    have ht : t = mark :: decode rest := by
      rw [← decode_encode t, hb]
      exact decodeFrom_encodeChar mark rest
    rw [ht, unmarked_cons_mark]
  · rename_i hno
    rw [← hb, decode_encode, unmarked_of_head]
    intro hhead
    obtain ⟨rest, rfl⟩ := List.head?_eq_some_iff.1 hhead
    exact hno (encode rest) hb.symm

end Unmark.Utf8
