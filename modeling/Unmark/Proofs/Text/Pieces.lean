import Mathlib.Data.List.TakeWhile
import Unmark.Proofs.Text.Tidying
/-!
What tidying does to a piece of a text. A text `Keeps` a piece if it holds it in one stretch. Trimming a text reaches
the piece only where no ink stands between the piece and the end that is trimmed; squeezing line feeds reaches it
everywhere, and may move its border where a run of line feeds crosses it, but keeps it in one stretch.

A piece is `Firm` if none of this does anything to it.
-/
namespace Unmark.Text

/-- the text holds the piece in one stretch, with ink before it and after it where this is said -/
def Keeps (piece : Text) (front back : Bool) (t : Text) : Prop :=
  ∃ before after, t = before ++ piece ++ after ∧ (front = true → ink before ≠ []) ∧ (back = true → ink after ≠ [])

/-- whether a text has any ink -/
def shows (t : Text) : Bool := !(ink t).isEmpty

@[simp] theorem shows_eq_true {t : Text} : shows t = true ↔ ink t ≠ [] := by simp [shows]

theorem shows_congr {t u : Text} (h : ink t = ink u) : shows t = shows u := by rw [shows, shows, h]

/-- what is left of a piece when a text is trimmed that has ink before it and after it where this is said -/
def trimBeside (front back : Bool) (piece : Text) : Text :=
  let opened := if front then piece else trimStart piece
  if back then opened else trimEnd opened

/-- no blanks at the ends, and no run of line feeds -/
structure Firm (t : Text) : Prop where
  front : trimStart t = t
  back : trimEnd t = t
  within : squeezeNewlines t = t

variable {piece t : Text} {front back : Bool}

/-! ## Texts around a piece -/

namespace Keeps

theorem refl (t : Text) : Keeps t false false t := ⟨[], [], by simp, by simp, by simp⟩

theorem isInfix (h : Keeps piece front back t) : piece <:+: t := by
  obtain ⟨before, after, rfl, -, -⟩ := h
  exact ⟨before, after, rfl⟩

theorem append (h : Keeps piece front back t) (u v : Text) :
    Keeps piece (front || shows u) (back || shows v) (u ++ t ++ v) := by
  obtain ⟨before, after, rfl, hfront, hback⟩ := h
  refine ⟨u ++ before, after ++ v, by simp, fun hf => ?_, fun hb => ?_⟩
  · rw [ink_append]
    rcases Bool.or_eq_true_iff.1 hf with hinner | houter
    · simp [hfront hinner]
    · simp [shows_eq_true.1 houter]
  · rw [ink_append]
    rcases Bool.or_eq_true_iff.1 hb with hinner | houter
    · simp [hback hinner]
    · simp [shows_eq_true.1 houter]

/-- what is put around without ink says nothing of the piece -/
theorem append_blank (h : Keeps piece front back t) {u v : Text} (hu : ink u = []) (hv : ink v = []) :
    Keeps piece front back (u ++ t ++ v) := by
  simpa [shows, hu, hv] using h.append u v

theorem reverse (h : Keeps piece front back t) : Keeps piece.reverse back front t.reverse := by
  obtain ⟨before, after, rfl, hfront, hback⟩ := h
  refine ⟨after.reverse, before.reverse, by simp, fun hb => ?_, fun hf => ?_⟩
  · simpa [ink_reverse] using hback hb
  · simpa [ink_reverse] using hfront hf

/-! ## Trimming -/

variable {p : Char → Bool}

/-- blanks that are dropped from the front of a text are dropped from the piece, if they reach it -/
theorem dropWhile (h : Keeps piece front back t) (hp : ∀ c, p c = true → isBlank c = true) :
    Keeps (if front then piece else piece.dropWhile p) front back (t.dropWhile p) := by
  obtain ⟨before, after, rfl, hfront, hback⟩ := h
  have hbefore : ink (before.dropWhile p) = ink before := ink_dropWhile hp before
  rw [List.append_assoc, List.dropWhile_append]
  by_cases hgone : (before.dropWhile p).isEmpty = true
  · -- nothing is left before the piece, so there was no ink before it
    have hnone : ink before = [] := by
      rw [← hbefore, List.isEmpty_iff.1 hgone]
      rfl
    have hnofront : front = false := Bool.eq_false_iff.2 fun hf => hfront hf hnone
    rw [if_pos hgone, hnofront, if_neg Bool.false_ne_true, List.dropWhile_append]
    by_cases hpiece : (piece.dropWhile p).isEmpty = true
    · rw [if_pos hpiece, List.isEmpty_iff.1 hpiece]
      refine ⟨[], after.dropWhile p, rfl, by simp, fun hb => ?_⟩
      rw [ink_dropWhile hp]
      exact hback hb
    · rw [if_neg hpiece]
      exact ⟨[], after, rfl, by simp, hback⟩
  · rw [if_neg hgone]
    cases front with
    | true =>
      refine ⟨before.dropWhile p, after, by simp, fun _ => ?_, hback⟩
      rw [hbefore]
      exact hfront rfl
    | false =>
      -- what the piece loses stays in the text, and now counts to what stands before it
      refine ⟨before.dropWhile p ++ piece.takeWhile p, after, ?_, by simp, hback⟩
      calc before.dropWhile p ++ (piece ++ after)
        _ = before.dropWhile p ++ ((piece.takeWhile p ++ piece.dropWhile p) ++ after) := by
          rw [List.takeWhile_append_dropWhile]
        _ = before.dropWhile p ++ piece.takeWhile p ++ piece.dropWhile p ++ after := by simp only [List.append_assoc]

/-- the same from the end -/
theorem dropWhile_reverse (h : Keeps piece front back t) (hp : ∀ c, p c = true → isBlank c = true) :
    Keeps (if back then piece else (piece.reverse.dropWhile p).reverse) front back (t.reverse.dropWhile p).reverse := by
  have hmirror := (h.reverse.dropWhile hp).reverse
  cases back with
  | true => simpa using hmirror
  | false => exact hmirror

theorem trim (h : Keeps piece front back t) : Keeps (trimBeside front back piece) front back (trim t) :=
  (h.dropWhile fun _ hc => hc).dropWhile_reverse fun _ hc => hc

theorem dropTrailingNewlines (h : Keeps piece front back t) :
    Keeps (if back then piece else dropTrailingNewlines piece) front back (dropTrailingNewlines t) := by
  refine h.dropWhile_reverse fun c hc => ?_
  obtain rfl : c = '\n' := by simpa using hc
  rfl

end Keeps

/-! ## Squeezing -/

/-- the first character stays -/
theorem squeezeNewlines_cons (c : Char) (t : Text) :
    ∃ rest, squeezeNewlines (c :: t) = c :: rest ∧ ink rest = ink t := by
  induction t generalizing c with
  | nil => exact ⟨[], rfl, rfl⟩
  | cons d t ih =>
    rw [squeezeNewlines]
    split
    · rename_i hfeeds
      obtain ⟨rfl, rfl⟩ := hfeeds
      exact ih '\n'
    · exact ⟨squeezeNewlines (d :: t), rfl, ink_squeezeNewlines _⟩

/-- a text is squeezed to its end as if it stood alone; a run of line feeds that crosses its border is lost before it -/
theorem squeezeNewlines_append_end (u v : Text) :
    ∃ u', squeezeNewlines (u ++ v) = u' ++ squeezeNewlines v ∧ ink u' = ink u := by
  induction u with
  | nil => exact ⟨[], rfl, rfl⟩
  | cons c u ih =>
    obtain ⟨u', hu, hink⟩ := ih
    cases huv : u ++ v with
    | nil =>
      obtain ⟨rfl, rfl⟩ := List.append_eq_nil_iff.1 huv
      exact ⟨[c], rfl, rfl⟩
    | cons d rest =>
      rw [List.cons_append, huv, squeezeNewlines, ← huv, hu]
      split
      · rename_i hfeeds
        obtain ⟨rfl, -⟩ := hfeeds
        exact ⟨u', rfl, hink⟩
      · refine ⟨c :: u', rfl, ?_⟩
        calc ink ([c] ++ u')
          _ = ink [c] ++ ink u := by rw [ink_append, hink]
          _ = ink ([c] ++ u) := (ink_append _ _).symm

/-- and from its start, where the run is lost after it -/
theorem squeezeNewlines_append_start (u v : Text) :
    ∃ v', squeezeNewlines (u ++ v) = squeezeNewlines u ++ v' ∧ ink v' = ink v := by
  fun_induction squeezeNewlines u with
  | case1 => exact ⟨squeezeNewlines v, rfl, ink_squeezeNewlines v⟩
  | case2 c => exact squeezeNewlines_cons c v
  | case3 c d rest hfeeds ih =>
    obtain ⟨v', hv, hink⟩ := ih
    refine ⟨v', ?_, hink⟩
    rw [List.cons_append, List.cons_append, squeezeNewlines, if_pos hfeeds]
    exact hv
  | case4 c d rest hfeeds ih =>
    obtain ⟨v', hv, hink⟩ := ih
    refine ⟨v', ?_, hink⟩
    rw [List.cons_append, List.cons_append, squeezeNewlines, if_neg hfeeds]
    exact congrArg (c :: ·) hv

theorem Keeps.squeezeNewlines (h : Keeps piece front back t) :
    Keeps (squeezeNewlines piece) front back (squeezeNewlines t) := by
  obtain ⟨before, after, rfl, hfront, hback⟩ := h
  obtain ⟨before', hbefore, hinkBefore⟩ := squeezeNewlines_append_end before (piece ++ after)
  obtain ⟨after', hafter, hinkAfter⟩ := squeezeNewlines_append_start piece after
  refine ⟨before', after', ?_, ?_, ?_⟩
  · rw [List.append_assoc, hbefore, hafter, List.append_assoc]
  · rw [hinkBefore]
    exact hfront
  · rw [hinkAfter]
    exact hback

/-! ## What is left of a piece -/

@[simp] theorem ink_trimBeside (front back : Bool) (piece : Text) : ink (trimBeside front back piece) = ink piece := by
  have hstart : ink (trimStart piece) = ink piece := ink_dropWhile (fun _ h => h) piece
  have hend : ∀ t, ink (trimEnd t) = ink t := ink_dropWhile_reverse fun _ h => h
  unfold trimBeside
  cases front <;> cases back <;> simp [hstart, hend]

theorem Firm.trimBeside_eq (h : Firm t) (front back : Bool) : trimBeside front back t = t := by
  unfold trimBeside
  cases front <;> cases back <;> simp [h.front, h.back]

/-- the last character is not blank, so it is no line feed -/
theorem Firm.dropTrailingNewlines_eq (h : Firm t) : dropTrailingNewlines t = t := by
  have hblank : t.reverse.dropWhile isBlank = t.reverse := by
    have hend := congrArg List.reverse h.back
    rwa [trimEnd, List.reverse_reverse] at hend
  have hfeed : t.reverse.dropWhile (· == '\n') = t.reverse := by
    rw [List.dropWhile_eq_self_iff] at hblank ⊢
    intro hlength hfeed
    refine hblank hlength ?_
    rw [beq_iff_eq.1 hfeed]
    rfl
  rw [dropTrailingNewlines, hfeed, List.reverse_reverse]

end Unmark.Text
