import Mathlib.Data.List.TakeWhile
import Unmark.Text.Escape
/-!
What tidying does to a text. Trimming, dropping line feeds at the end and squeezing runs of them only ever take
characters away (`_sublist`), and only blank ones: the `ink` of a text, all that is not blank in it, stays the same.

Escaping takes nothing away, and none of the characters that delimit markup is left in what it gives
(`not_mem_escapeHtml`).
-/
namespace Unmark.Text

/-! ## Ink -/

/-- the characters of a text that are not blank, in order -/
def ink (t : Text) : Text := t.filter fun c => !isBlank c

@[simp] theorem ink_nil : ink [] = [] := rfl

@[simp] theorem ink_append (t u : Text) : ink (t ++ u) = ink t ++ ink u := List.filter_append t u

@[simp] theorem ink_blockEnd : ink blockEnd = [] := rfl

@[simp] theorem ink_newline (t : Text) : ink ('\n' :: t) = ink t := rfl

/-- what is dropped from the front is blank, so nothing of the ink is lost -/
theorem ink_dropWhile {p : Char → Bool} (hp : ∀ c, p c = true → isBlank c = true) (t : Text) :
    ink (t.dropWhile p) = ink t := by
  induction t with
  | nil => rfl
  | cons c rest ih =>
    rw [List.dropWhile_cons]
    split
    · rename_i hc
      have hblank : ink (c :: rest) = ink rest := by simp [ink, hp c hc]
      rw [hblank]
      exact ih
    · rfl

theorem ink_reverse (t : Text) : ink t.reverse = (ink t).reverse := List.filter_reverse

/-- the same from the end -/
theorem ink_dropWhile_reverse {p : Char → Bool} (hp : ∀ c, p c = true → isBlank c = true) (t : Text) :
    ink (t.reverse.dropWhile p).reverse = ink t := by
  rw [ink_reverse, ink_dropWhile hp, ink_reverse, List.reverse_reverse]

@[simp] theorem ink_trim (t : Text) : ink (trim t) = ink t := by
  rw [trim, trimEnd, ink_dropWhile_reverse fun _ h => h]
  exact ink_dropWhile (fun _ h => h) t

@[simp] theorem ink_dropTrailingNewlines (t : Text) : ink (dropTrailingNewlines t) = ink t := by
  refine ink_dropWhile_reverse (fun c hc => ?_) t
  obtain rfl : c = '\n' := by simpa using hc
  rfl

@[simp] theorem ink_squeezeNewlines (t : Text) : ink (squeezeNewlines t) = ink t := by
  fun_induction squeezeNewlines t with
  | case1 => rfl
  | case2 c => rfl
  | case3 c d rest h ih =>
    obtain ⟨rfl, rfl⟩ := h
    exact ih
  | case4 c d rest h ih =>
    show ink ([c] ++ _) = ink ([c] ++ (d :: rest))
    rw [ink_append, ink_append, ih]

theorem ink_flatMap_squeezeNewlines (texts : List Text) : ink (texts.flatMap squeezeNewlines) = ink texts.flatten := by
  induction texts with
  | nil => rfl
  | cons t rest ih => simp [ih]

/-! ## Characters that are left -/

theorem trim_sublist (t : Text) : (trim t).Sublist t := by
  have hend : (trim t).Sublist (trimStart t) := by
    simpa [trim, trimEnd] using (List.dropWhile_sublist isBlank (l := (trimStart t).reverse)).reverse
  exact hend.trans (List.dropWhile_sublist isBlank)

theorem dropTrailingNewlines_sublist (t : Text) : (dropTrailingNewlines t).Sublist t := by
  simpa [dropTrailingNewlines] using (List.dropWhile_sublist (· == '\n') (l := t.reverse)).reverse

/-- the end of a block goes, and with it nothing of a text of one line -/
theorem dropTrailingNewlines_blockEnd {t : Text} (h : '\n' ∉ t) : dropTrailingNewlines (t ++ blockEnd) = t := by
  have hline : t.reverse.dropWhile (· == '\n') = t.reverse := by
    rw [List.dropWhile_eq_self_iff]
    intro hpos hfeed
    have hmem : t.reverse[0] ∈ t := List.mem_reverse.1 (List.getElem_mem hpos)
    rw [beq_iff_eq.1 hfeed] at hmem
    exact h hmem
  have hends : (t ++ blockEnd).reverse.dropWhile (· == '\n') = t.reverse.dropWhile (· == '\n') := by
    rw [List.reverse_append]
    rfl
  rw [dropTrailingNewlines, hends, hline, List.reverse_reverse]

theorem squeezeNewlines_sublist (t : Text) : (squeezeNewlines t).Sublist t := by
  fun_induction squeezeNewlines t with
  | case1 => exact .slnil
  | case2 c => exact List.Sublist.refl [c]
  | case3 c d rest h ih => exact ih.cons c
  | case4 c d rest h ih => exact ih.cons_cons c

/-! ## Markup -/

/-- the characters that delimit tags and their attributes -/
def delimiters : List Char := ['<', '>', '\x22', '\x27']

theorem mem_delimiters {c : Char} : c ∈ delimiters ↔ c = '<' ∨ c = '>' ∨ c = '\x22' ∨ c = '\x27' := by
  simp [delimiters]

/-- a character without an entity stays -/
theorem escapeChar_eq_self {c : Char} (h : ¬ (c = '&' ∨ c ∈ delimiters)) : escapeChar c = [c] := by
  rw [mem_delimiters] at h
  unfold escapeChar entityOf
  split <;> simp_all

theorem not_mem_escapeChar {c : Char} (hc : c ∈ delimiters) (d : Char) : c ∉ escapeChar d := by
  -- an entity holds no delimiter, and a character without an entity is none itself
  by_cases hd : d = '&' ∨ d ∈ delimiters
  · rw [mem_delimiters] at hc hd
    rcases hd with rfl | rfl | rfl | rfl | rfl <;> rcases hc with rfl | rfl | rfl | rfl <;> decide
  · rw [escapeChar_eq_self hd, List.mem_singleton]
    rintro rfl
    exact hd (.inr hc)

/-- **Escaped text holds no delimiter of markup.** -/
theorem not_mem_escapeHtml {c : Char} (hc : c ∈ delimiters) (t : Text) : c ∉ escapeHtml t := by
  intro h
  obtain ⟨d, -, hd⟩ := List.mem_flatMap.1 h
  exact not_mem_escapeChar hc d hd

end Unmark.Text
