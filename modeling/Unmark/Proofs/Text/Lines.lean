import Mathlib.Data.List.Chain
import Mathlib.Data.List.DropRight
import Unmark.Proofs.Text.Pieces
/-!
Texts on lines of their own. `lines` puts texts one below the other, each after a line feed. What tidying makes of them
can be told from the texts: trimming takes away the empty ones at both ends (`trim_lines`), squeezing also those in
between (`squeezeNewlines_lines`). If they are only trimmed, a blank line is left exactly where an empty text stands
between two that are not (`hasBlankLine_dropEmptyEnds`).
-/
namespace Unmark.Text

/-- the texts one below the other, each after a line feed -/
def lines (texts : List Text) : Text := texts.flatMap ('\n' :: ·)

/-- two line feeds side by side -/
def HasBlankLine (t : Text) : Prop := ['\n', '\n'] <:+: t

/-- the texts without the empty ones at the beginning and at the end -/
def dropEmptyEnds (texts : List Text) : List Text := (texts.dropWhile List.isEmpty).rdropWhile List.isEmpty

/-- an empty text stands between two that are not empty -/
def HasGap (texts : List Text) : Prop :=
  ∃ before after, texts = before ++ [] :: after ∧ (∃ t ∈ before, t ≠ []) ∧ ∃ t ∈ after, t ≠ []

variable {t u v : Text} {texts : List Text}

/-! ## The first and the last character -/

theorem trimStart_eq_self_iff : trimStart t = t ↔ ∀ c ∈ t.head?, isBlank c = false := by
  cases t with
  | nil => simp [trimStart]
  | cons c rest =>
    rw [trimStart, List.dropWhile_eq_self_iff]
    simp

theorem trimEnd_eq_self_iff : trimEnd t = t ↔ ∀ c ∈ t.getLast?, isBlank c = false := by
  have hreverse : trimEnd t = t ↔ trimStart t.reverse = t.reverse := by
    rw [trimEnd, trimStart, List.reverse_eq_iff]
  rw [hreverse, trimStart_eq_self_iff, List.head?_reverse]

theorem head?_squeezeNewlines (t : Text) : (squeezeNewlines t).head? = t.head? := by
  cases t with
  | nil => rfl
  | cons c rest =>
    obtain ⟨others, hsqueezed, -⟩ := squeezeNewlines_cons c rest
    rw [hsqueezed]
    rfl

theorem getLast?_squeezeNewlines (t : Text) : (squeezeNewlines t).getLast? = t.getLast? := by
  fun_induction squeezeNewlines t with
  | case1 => rfl
  | case2 c => rfl
  | case3 c d rest hfeeds ih => rw [ih, List.getLast?_cons_cons]
  | case4 c d rest hfeeds ih =>
    obtain ⟨others, hsqueezed, -⟩ := squeezeNewlines_cons d rest
    rw [hsqueezed] at ih ⊢
    rw [List.getLast?_cons_cons, List.getLast?_cons_cons, ih]

/-- what is dropped from both ends is at neither end of the rest -/
theorem head?_dropEnds {α : Type} (p : α → Bool) (l : List α) :
    ∀ a ∈ ((l.dropWhile p).rdropWhile p).head?, p a = false := by
  intro a ha
  obtain ⟨rest, hrest⟩ := List.rdropWhile_prefix p (l.dropWhile p)
  have hfirst : (l.dropWhile p).head? = some a := by
    rw [← hrest, List.head?_append, Option.mem_def.1 ha]
    rfl
  have hnot := List.head?_dropWhile_not p l
  rw [hfirst] at hnot
  exact hnot

theorem getLast?_rdropWhile {α : Type} (p : α → Bool) (l : List α) : ∀ a ∈ (l.rdropWhile p).getLast?, p a = false := by
  intro a ha
  obtain ⟨hne, hlast⟩ := List.mem_getLast?_eq_getLast ha
  rw [hlast]
  simpa using List.rdropWhile_last_not p l hne

theorem trimStart_trim (t : Text) : trimStart (trim t) = trim t := trimStart_eq_self_iff.2 (head?_dropEnds isBlank t)

theorem trimEnd_trim (t : Text) : trimEnd (trim t) = trim t := trimEnd_eq_self_iff.2 (getLast?_rdropWhile isBlank _)

/-- a line feed at either end is trimmed away -/
theorem trimStart_newline (t : Text) : trimStart ('\n' :: t) = trimStart t := rfl

theorem trimEnd_newline (t : Text) : trimEnd (t ++ ['\n']) = trimEnd t := List.rdropWhile_concat_pos isBlank _ _ rfl

theorem trimStart_append (ht : t ≠ []) (h : trimStart t = t) (u : Text) : trimStart (t ++ u) = t ++ u := by
  rw [trimStart_eq_self_iff] at h ⊢
  rwa [List.head?_append_of_ne_nil _ ht]

theorem trimEnd_append (hu : u ≠ []) (h : trimEnd u = u) (t : Text) : trimEnd (t ++ u) = t ++ u := by
  rw [trimEnd_eq_self_iff] at h ⊢
  rwa [List.getLast?_append_of_ne_nil _ hu]

/-- line feeds that are dropped from the end -/
theorem dropTrailingNewlines_append_blockEnd (t : Text) :
    dropTrailingNewlines (t ++ blockEnd) = dropTrailingNewlines t := by
  have hfeeds : (t ++ blockEnd).reverse = '\n' :: '\n' :: t.reverse := by simp [blockEnd]
  rw [dropTrailingNewlines, hfeeds]
  rfl

theorem dropTrailingNewlines_eq_self_iff : dropTrailingNewlines t = t ↔ t.getLast? ≠ some '\n' := by
  have hself : dropTrailingNewlines t = t ↔ ∀ hne : t ≠ [], ¬ (t.getLast hne == '\n') = true :=
    List.rdropWhile_eq_self_iff
  rw [hself]
  constructor
  · intro h hlast
    have hne : t ≠ [] := by
      rintro rfl
      cases hlast
    rw [List.getLast?_eq_some_getLast hne, Option.some_inj] at hlast
    exact h hne (beq_iff_eq.2 hlast)
  · intro h hne hlast
    exact h (by rw [List.getLast?_eq_some_getLast hne, beq_iff_eq.1 hlast])

theorem getLast?_dropTrailingNewlines (t : Text) : (dropTrailingNewlines t).getLast? ≠ some '\n' := by
  intro hlast
  have hnot := getLast?_rdropWhile (· == '\n') t '\n' hlast
  cases hnot

/-! ## Lines and separators -/

@[simp] theorem lines_nil : lines [] = [] := rfl

@[simp] theorem lines_cons (t : Text) (rest : List Text) : lines (t :: rest) = '\n' :: (t ++ lines rest) := rfl

@[simp] theorem lines_append (texts others : List Text) : lines (texts ++ others) = lines texts ++ lines others :=
  List.flatMap_append

theorem blockEnd_eq_lines : blockEnd = lines [[], []] := rfl

/-- texts with a line feed between them are lines but for the first line feed -/
theorem newline_intercalate (h : texts ≠ []) : '\n' :: ['\n'].intercalate texts = lines texts := by
  induction texts with
  | nil => exact absurd rfl h
  | cons t rest ih =>
    cases rest with
    | nil => simp
    | cons u others =>
      have hrest : '\n' :: ['\n'].intercalate (u :: others) = lines (u :: others) := ih (by simp)
      rw [List.intercalate_cons_cons, lines_cons, ← hrest]
      simp

theorem intercalate_concat (h : texts ≠ []) (t : Text) :
    ['\n'].intercalate (texts ++ [t]) = ['\n'].intercalate texts ++ '\n' :: t := by
  have hlines : '\n' :: ['\n'].intercalate (texts ++ [t]) = '\n' :: (['\n'].intercalate texts ++ '\n' :: t) := by
    calc '\n' :: ['\n'].intercalate (texts ++ [t])
      _ = lines texts ++ lines [t] := by rw [newline_intercalate (by simp), lines_append]
      _ = '\n' :: ['\n'].intercalate texts ++ lines [t] := by rw [newline_intercalate h]
      _ = '\n' :: (['\n'].intercalate texts ++ '\n' :: t) := by simp
  exact List.tail_eq_of_cons_eq hlines

/-! ## Trimming -/

theorem trimStart_intercalate (h : ∀ t ∈ texts, trimStart t = t) :
    trimStart (['\n'].intercalate texts) = ['\n'].intercalate (texts.dropWhile List.isEmpty) := by
  induction texts with
  | nil => rfl
  | cons t rest ih =>
    obtain ⟨ht, hrest⟩ := List.forall_mem_cons.1 h
    cases rest with
    | nil =>
      cases t with
      | nil => rfl
      | cons c others => simpa using ht
    | cons u others =>
      rw [List.intercalate_cons_cons]
      cases t with
      | nil => exact ih hrest
      | cons c more =>
        -- the first text starts with a character that is not blank
        rw [List.append_assoc, trimStart_append (by simp) ht]
        simp

theorem trimEnd_intercalate (h : ∀ t ∈ texts, trimEnd t = t) :
    trimEnd (['\n'].intercalate texts) = ['\n'].intercalate (texts.rdropWhile List.isEmpty) := by
  -- from the end, where trimming starts
  induction texts using List.reverseRecOn with
  | nil => rfl
  | append_singleton rest t ih =>
    have ht : trimEnd t = t := h t (by simp)
    have hrest : ∀ t ∈ rest, trimEnd t = t := fun t hmem => h t (List.mem_append_left _ hmem)
    rw [List.rdropWhile_concat]
    by_cases hnone : rest = []
    · subst hnone
      cases t with
      | nil => rfl
      | cons c others => simpa using ht
    · rw [intercalate_concat hnone]
      cases t with
      | nil => rw [trimEnd_newline, ih hrest]; rfl
      | cons c others =>
        have hsplit : ∀ t : Text, t ++ '\n' :: c :: others = (t ++ ['\n']) ++ c :: others := by simp
        rw [hsplit, trimEnd_append (by simp) ht, ← hsplit, ← intercalate_concat hnone]
        rfl

/-- **Trimmed lines.** The empty texts at both ends go. -/
theorem trim_lines (h : ∀ t ∈ texts, trimStart t = t ∧ trimEnd t = t) :
    trim (lines texts) = ['\n'].intercalate (dropEmptyEnds texts) := by
  have hstart : trimStart (lines texts) = trimStart (['\n'].intercalate texts) := by
    cases texts with
    | nil => rfl
    | cons t rest => rw [← newline_intercalate (by simp), trimStart_newline]
  rw [trim, hstart, trimStart_intercalate fun t ht => (h t ht).1]
  exact trimEnd_intercalate fun t ht => (h t (List.dropWhile_subset _ ht)).2

/-! ## Squeezing -/

theorem squeezeNewlines_cons_of_ne {c : Char} (h : ¬ (c = '\n' ∧ t.head? = some '\n')) :
    squeezeNewlines (c :: t) = c :: squeezeNewlines t := by
  cases t with
  | nil => rfl
  | cons d rest => rw [squeezeNewlines, if_neg (by simpa using h)]

/-- a text that does not end with a line feed is squeezed by itself -/
theorem squeezeNewlines_append (h : u.getLast? ≠ some '\n') (v : Text) :
    squeezeNewlines (u ++ v) = squeezeNewlines u ++ squeezeNewlines v := by
  fun_induction squeezeNewlines u with
  | case1 => rfl
  | case2 c =>
    have hc : c ≠ '\n' := by simpa using h
    exact squeezeNewlines_cons_of_ne fun hfeeds => hc hfeeds.1
  | case3 c d rest hfeeds ih =>
    rw [List.getLast?_cons_cons] at h
    rw [List.cons_append, List.cons_append, squeezeNewlines, if_pos hfeeds]
    exact ih h
  | case4 c d rest hfeeds ih =>
    rw [List.getLast?_cons_cons] at h
    rw [List.cons_append, List.cons_append, squeezeNewlines, if_neg hfeeds]
    exact congrArg (c :: ·) (ih h)

theorem squeezeNewlines_of_not_mem (h : '\n' ∉ t) : squeezeNewlines t = t := by
  induction t with
  | nil => rfl
  | cons c rest ih =>
    obtain ⟨hc, hrest⟩ : '\n' ≠ c ∧ '\n' ∉ rest := by simpa using h
    rw [squeezeNewlines_cons_of_ne fun hfeeds => hc hfeeds.1.symm, ih hrest]

theorem squeezeNewlines_squeezeNewlines (t : Text) : squeezeNewlines (squeezeNewlines t) = squeezeNewlines t := by
  fun_induction squeezeNewlines t with
  | case1 => rfl
  | case2 c => rfl
  | case3 c d rest hfeeds ih => exact ih
  | case4 c d rest hfeeds ih =>
    rw [squeezeNewlines_cons_of_ne, ih]
    rw [head?_squeezeNewlines]
    simpa using hfeeds

/-- what is trimmed and squeezed is not changed by tidying it again -/
theorem firm_squeezeNewlines_trim (t : Text) : Firm (squeezeNewlines (trim t)) where
  front := by
    rw [trimStart_eq_self_iff, head?_squeezeNewlines, ← trimStart_eq_self_iff]
    exact trimStart_trim t
  back := by
    rw [trimEnd_eq_self_iff, getLast?_squeezeNewlines, ← trimEnd_eq_self_iff]
    exact trimEnd_trim t
  within := squeezeNewlines_squeezeNewlines _

/-- **Squeezed lines.** The empty texts go, if the last one is not empty. -/
theorem squeezeNewlines_lines (h : ∀ t ∈ texts, '\n' ∉ t) (hlast : texts.getLast? ≠ some []) :
    squeezeNewlines (lines texts) = lines (texts.filter fun t => !t.isEmpty) := by
  induction texts with
  | nil => rfl
  | cons t rest ih =>
    obtain ⟨ht, hrest⟩ := List.forall_mem_cons.1 h
    have hothers : rest ≠ [] → squeezeNewlines (lines rest) = lines (rest.filter fun t => !t.isEmpty) := by
      intro hne
      refine ih hrest ?_
      rwa [List.getLast?_cons_of_ne_nil hne] at hlast
    cases t with
    | nil =>
      -- an empty text is one line feed more before the next one
      cases rest with
      | nil => simp at hlast
      | cons u others =>
        rw [lines_cons, List.nil_append]
        exact hothers (by simp)
    | cons c others =>
      have hend : ('\n' :: c :: others).getLast? ≠ some '\n' := by
        rw [List.getLast?_cons_cons]
        exact fun hfeed => ht (List.mem_of_getLast? hfeed)
      have hc : c ≠ '\n' := fun heq => ht (heq ▸ List.mem_cons_self)
      have hfirst : squeezeNewlines ('\n' :: c :: others) = '\n' :: c :: others := by
        rw [squeezeNewlines_cons_of_ne (by simpa using hc), squeezeNewlines_of_not_mem ht]
      have hmore : squeezeNewlines (lines rest) = lines (rest.filter fun t => !t.isEmpty) := by
        by_cases hne : rest = []
        · subst hne; rfl
        · exact hothers hne
      calc squeezeNewlines (lines ((c :: others) :: rest))
        _ = squeezeNewlines (('\n' :: c :: others) ++ lines rest) := rfl
        _ = ('\n' :: c :: others) ++ lines (rest.filter fun t => !t.isEmpty) := by
          rw [squeezeNewlines_append hend, hfirst, hmore]
        _ = lines (((c :: others) :: rest).filter fun t => !t.isEmpty) := by simp

/-! ## Blank lines -/

/-- not both are line feeds -/
def Apart (c d : Char) : Prop := ¬ (c = '\n' ∧ d = '\n')

theorem not_hasBlankLine_iff : ¬ HasBlankLine t ↔ t.IsChain Apart := by
  rw [List.isChain_iff_forall_rel_of_append_cons_cons]
  constructor
  · rintro hnone c d before after rfl ⟨rfl, rfl⟩
    exact hnone ⟨before, after, by simp⟩
  · rintro hapart ⟨before, after, rfl⟩
    have hsplit : before ++ ['\n', '\n'] ++ after = before ++ '\n' :: '\n' :: after := by simp
    exact hapart hsplit ⟨rfl, rfl⟩

theorem isChain_squeezeNewlines (t : Text) : (squeezeNewlines t).IsChain Apart := by
  fun_induction squeezeNewlines t with
  | case1 => exact .nil
  | case2 c => exact .singleton c
  | case3 c d rest hfeeds ih => exact ih
  | case4 c d rest hfeeds ih =>
    obtain ⟨others, hsqueezed, -⟩ := squeezeNewlines_cons d rest
    rw [hsqueezed] at ih ⊢
    exact List.isChain_cons_cons.2 ⟨hfeeds, ih⟩

theorem Firm.head?_ne (h : Firm t) : t.head? ≠ some '\n' := by
  intro hfeed
  cases trimStart_eq_self_iff.1 h.front '\n' hfeed

theorem Firm.getLast?_ne (h : Firm t) : t.getLast? ≠ some '\n' := by
  intro hfeed
  cases trimEnd_eq_self_iff.1 h.back '\n' hfeed

theorem Firm.not_hasBlankLine (h : Firm t) : ¬ HasBlankLine t := by
  rw [not_hasBlankLine_iff, ← h.within]
  exact isChain_squeezeNewlines t

theorem hasBlankLine_newline : HasBlankLine ('\n' :: t) ↔ t.head? = some '\n' ∨ HasBlankLine t := by
  have hprefix : ['\n', '\n'] <+: '\n' :: t ↔ t.head? = some '\n' := by
    cases t with
    | nil => simp
    | cons c rest => rw [List.head?_cons, Option.some_inj, eq_comm]; simp
  rw [HasBlankLine, List.infix_cons_iff, hprefix]
  rfl

theorem Firm.hasBlankLine_append (h : Firm u) : HasBlankLine (u ++ v) ↔ HasBlankLine v := by
  have hu : u.IsChain Apart := not_hasBlankLine_iff.1 h.not_hasBlankLine
  rw [← not_iff_not, not_hasBlankLine_iff, not_hasBlankLine_iff, List.isChain_append]
  constructor
  · exact fun hchain => hchain.2.1
  · intro hv
    refine ⟨hu, hv, fun c hc d _ hfeeds => h.getLast?_ne ?_⟩
    rw [Option.mem_def.1 hc, hfeeds.1]

/-- with a text at either end, a blank line is an empty text in between -/
theorem hasBlankLine_intercalate (h : ∀ t ∈ texts, Firm t) (hfirst : texts.head? ≠ some [])
    (hlast : texts.getLast? ≠ some []) : HasBlankLine (['\n'].intercalate texts) ↔ [] ∈ texts := by
  induction texts with
  | nil => simp [HasBlankLine]
  | cons t rest ih =>
    obtain ⟨ht, hrest⟩ := List.forall_mem_cons.1 h
    have hne : [] ≠ t := fun heq => hfirst (by simp [heq])
    cases rest with
    | nil => simpa [hne] using ht.not_hasBlankLine
    | cons u others =>
      rw [List.getLast?_cons_cons] at hlast
      rw [List.intercalate_cons_cons, List.append_assoc, ht.hasBlankLine_append, List.singleton_append,
        hasBlankLine_newline, List.mem_cons, or_iff_right hne]
      cases u with
      | nil =>
        -- two line feeds are left between the text and the next one
        cases others with
        | nil => simp at hlast
        | cons v more => simp [List.intercalate_cons_cons]
      | cons c more =>
        have hc : (['\n'].intercalate ((c :: more) :: others)).head? = some c := by
          cases others <;> simp [List.intercalate_cons_cons]
        have hcne : c ≠ '\n' := fun heq => (hrest _ List.mem_cons_self).head?_ne (by simp [heq])
        rw [hc, ih hrest (by simp) hlast]
        simp [hcne]

theorem head?_dropEmptyEnds (texts : List Text) : (dropEmptyEnds texts).head? ≠ some [] := by
  intro hfirst
  cases head?_dropEnds List.isEmpty texts [] hfirst

theorem getLast?_dropEmptyEnds (texts : List Text) : (dropEmptyEnds texts).getLast? ≠ some [] := by
  intro hlast
  cases getLast?_rdropWhile List.isEmpty _ [] hlast

theorem mem_of_mem_dropEmptyEnds (h : t ∈ dropEmptyEnds texts) : t ∈ texts :=
  List.dropWhile_subset _ ((List.rdropWhile_prefix List.isEmpty _).subset h)

theorem dropWhile_append {α : Type} {p : α → Bool} {l m : List α} (h : ∃ a ∈ l, p a = false) :
    (l ++ m).dropWhile p = l.dropWhile p ++ m := by
  have hkept : (l.dropWhile p).isEmpty = false := by
    obtain ⟨a, ha, hpa⟩ := h
    rw [List.isEmpty_eq_false_iff, Ne, List.dropWhile_eq_nil_iff]
    intro hall
    rw [hall a ha] at hpa
    cases hpa
  simp [List.dropWhile_append, hkept]

theorem rdropWhile_append {α : Type} {p : α → Bool} {l m : List α} (h : ∃ a ∈ m, p a = false) :
    (l ++ m).rdropWhile p = l ++ m.rdropWhile p := by
  have hreverse : ∃ a ∈ m.reverse, p a = false := by simpa using h
  rw [List.rdropWhile, List.reverse_append, dropWhile_append hreverse, List.reverse_append, List.reverse_reverse,
    List.rdropWhile]

/-- with a text at either end, every empty text is a gap -/
theorem hasGap_of_mem (hfirst : texts.head? ≠ some []) (hlast : texts.getLast? ≠ some []) (h : [] ∈ texts) :
    HasGap texts := by
  obtain ⟨before, after, rfl⟩ := List.append_of_mem h
  refine ⟨before, after, rfl, ?_, ?_⟩
  · cases before with
    | nil => simp at hfirst
    | cons t rest => exact ⟨t, List.mem_cons_self, by simpa using hfirst⟩
  · rcases List.eq_nil_or_concat after with rfl | ⟨init, t, rfl⟩
    · simp at hlast
    · have hend : (before ++ [] :: (init ++ [t])).getLast? = some t := by
        rw [← List.cons_append, ← List.append_assoc, List.getLast?_concat]
      rw [List.concat_eq_append, hend] at hlast
      exact ⟨t, by simp, by simpa using hlast⟩

theorem HasGap.append (h : HasGap texts) (us vs : List Text) : HasGap (us ++ texts ++ vs) := by
  obtain ⟨before, after, rfl, ⟨t, ht, htne⟩, u, hu, hune⟩ := h
  refine ⟨us ++ before, after ++ vs, by simp, ⟨t, ?_, htne⟩, u, ?_, hune⟩
  · exact List.mem_append_right _ ht
  · exact List.mem_append_left _ hu

/-- an empty text is left exactly if there is a gap -/
theorem mem_dropEmptyEnds : [] ∈ dropEmptyEnds texts ↔ HasGap texts := by
  constructor
  · intro hmem
    have hgap := hasGap_of_mem (head?_dropEmptyEnds texts) (getLast?_dropEmptyEnds texts) hmem
    have hsplit : texts.takeWhile List.isEmpty ++ dropEmptyEnds texts ++
        (texts.dropWhile List.isEmpty).rtakeWhile List.isEmpty = texts := by
      rw [dropEmptyEnds, List.append_assoc, List.rdropWhile_append_rtakeWhile, List.takeWhile_append_dropWhile]
    exact hsplit ▸ hgap.append _ _
  · rintro ⟨before, after, rfl, ⟨t, ht, htne⟩, u, hu, hune⟩
    have hstart : (before ++ [] :: after).dropWhile List.isEmpty = before.dropWhile List.isEmpty ++ [] :: after :=
      dropWhile_append ⟨t, ht, by simpa using htne⟩
    have hend : ([] :: after).rdropWhile List.isEmpty = [] :: after.rdropWhile List.isEmpty :=
      rdropWhile_append (l := [[]]) ⟨u, hu, by simpa using hune⟩
    rw [dropEmptyEnds, hstart, rdropWhile_append ⟨u, List.mem_cons_of_mem _ hu, by simpa using hune⟩, hend]
    simp

theorem filter_dropWhile_not {α : Type} (p : α → Bool) (l : List α) :
    (l.dropWhile p).filter (fun a => !p a) = l.filter fun a => !p a := by
  induction l with
  | nil => rfl
  | cons a rest ih =>
    rw [List.dropWhile_cons]
    split
    · rename_i ha
      rw [ih, List.filter_cons_of_neg (by simp [ha])]
    · rfl

/-- only empty texts are dropped -/
theorem filter_dropEmptyEnds (texts : List Text) :
    (dropEmptyEnds texts).filter (fun t => !t.isEmpty) = texts.filter fun t => !t.isEmpty := by
  rw [dropEmptyEnds, List.rdropWhile, List.filter_reverse, filter_dropWhile_not, List.filter_reverse,
    List.reverse_reverse, filter_dropWhile_not]

theorem dropEmptyEnds_eq_self (h : ∀ t ∈ texts, t ≠ []) : dropEmptyEnds texts = texts := by
  have hkept : texts.filter (fun t => !t.isEmpty) = texts := by
    refine List.filter_eq_self.2 fun t ht => ?_
    simpa using h t ht
  have hothers : (dropEmptyEnds texts).filter (fun t => !t.isEmpty) = dropEmptyEnds texts := by
    refine List.filter_eq_self.2 fun t ht => ?_
    simpa using h t (mem_of_mem_dropEmptyEnds ht)
  rw [← hothers, filter_dropEmptyEnds, hkept]

/-- **Blank lines between texts.** There is one exactly where there is a gap. -/
theorem hasBlankLine_dropEmptyEnds (h : ∀ t ∈ texts, Firm t) :
    HasBlankLine (['\n'].intercalate (dropEmptyEnds texts)) ↔ HasGap texts := by
  rw [← mem_dropEmptyEnds]
  exact hasBlankLine_intercalate (fun t ht => h t (mem_of_mem_dropEmptyEnds ht)) (head?_dropEmptyEnds texts)
    (getLast?_dropEmptyEnds texts)

end Unmark.Text
