import Mathlib.Logic.Function.Basic
import Unmark.Proofs.Text.Tidying
/-!
Reading entities back. `unescapeHtml` goes over a text from left to right and puts each of the five entities back to
the character that it stands for. It knows nothing of escaping: the table of entities is its own.

No entity is the beginning of another one, so at most one starts at each place (`entityAt?_append`), and what was
escaped is read back character by character. Escaping gives the texts without a delimiter in which every ampersand
starts an entity, and no others: `Escaped` says so without a word of escaping.

Results:
- `unescapeHtml_escapeHtml` and `escapeHtml_unescapeHtml`: each undoes the other, the second on such texts;
- `escapeHtml_eq_self_iff`: escaping leaves a text alone exactly if there is nothing special in it.
-/
namespace Unmark.Text

/-! ## Entities -/

/-- the entities, each with the character that it stands for -/
def entities : List (Text × Char) :=
  [(['&', 'a', 'm', 'p', ';'], '&'), (['&', 'l', 't', ';'], '<'), (['&', 'g', 't', ';'], '>'),
    (['&', 'q', 'u', 'o', 't', ';'], '\x22'), (['&', '#', '3', '9', ';'], '\x27')]

def specials : List Char := entities.map Prod.snd

/-- the entity that a text starts with, if it starts with one -/
def entityAt? (t : Text) : Option (Text × Char) := entities.find? fun e => e.1.isPrefixOf t

/-- puts each entity back to its character, from left to right -/
def unescapeHtml : Text → Text
  | [] => []
  | c :: rest =>
    match entityAt? (c :: rest) with
    | some e => e.2 :: unescapeHtml (rest.drop (e.1.length - 1))
    | none => c :: unescapeHtml rest
termination_by t => t.length
decreasing_by all_goals simp only [List.length_drop, List.length_cons]; omega

/-- a text as escaping leaves it: no delimiter in it, and an entity wherever there is an ampersand -/
structure Escaped (t : Text) : Prop where
  undelimited : ∀ c ∈ delimiters, c ∉ t
  ampersands : ∀ after, '&' :: after <:+ t → ∃ e ∈ entities, e.1 <+: '&' :: after

variable {c : Char} {e : Text × Char} {t : Text}

/-- an entity is an ampersand and a name without one -/
theorem exists_name (h : e ∈ entities) : ∃ name, e.1 = '&' :: name ∧ '&' ∉ name ∧ name ≠ [] := by
  simp only [entities, List.mem_cons, List.not_mem_nil, or_false] at h
  rcases h with rfl | rfl | rfl | rfl | rfl <;> exact ⟨_, rfl, by decide, by decide⟩

theorem entityAt?_append (h : e ∈ entities) (t : Text) : entityAt? (e.1 ++ t) = some e := by
  simp only [entities, List.mem_cons, List.not_mem_nil, or_false] at h
  rcases h with rfl | rfl | rfl | rfl | rfl <;> rfl

theorem entityAt?_of_ne (h : c ≠ '&') (t : Text) : entityAt? (c :: t) = none := by
  simp [entityAt?, entities, List.isPrefixOf, h.symm]

theorem entityAt?_eq_some_iff : entityAt? t = some e ↔ e ∈ entities ∧ e.1 <+: t := by
  constructor
  · intro h
    rw [entityAt?] at h
    have hprefix : e.1.isPrefixOf t = true := by simpa using List.find?_some h
    exact ⟨List.mem_of_find?_eq_some h, List.isPrefixOf_iff_prefix.1 hprefix⟩
  · rintro ⟨he, u, rfl⟩
    exact entityAt?_append he u

/-- where an entity starts, it is dropped and what comes after it is left -/
theorem drop_entity {rest after : Text} (h : e ∈ entities) (hsplit : c :: rest = e.1 ++ after) :
    rest.drop (e.1.length - 1) = after := by
  obtain ⟨name, hname, -⟩ := exists_name h
  rw [hname, List.cons_append, List.cons.injEq] at hsplit
  simp [hname, hsplit.2]

theorem unescapeHtml_append (h : e ∈ entities) (t : Text) : unescapeHtml (e.1 ++ t) = e.2 :: unescapeHtml t := by
  have hat := entityAt?_append h t
  cases hsplit : e.1 ++ t with
  | nil =>
    obtain ⟨name, hname, -⟩ := exists_name h
    simp [hname] at hsplit
  | cons c rest =>
    rw [hsplit] at hat
    rw [unescapeHtml, hat]
    exact congrArg (e.2 :: unescapeHtml ·) (drop_entity h hsplit.symm)

theorem unescapeHtml_cons (h : entityAt? (c :: t) = none) : unescapeHtml (c :: t) = c :: unescapeHtml t := by
  rw [unescapeHtml, h]

/-! ## Escaping by the table -/

theorem mem_specials : c ∈ specials ↔ c = '&' ∨ c ∈ delimiters := by
  simp [specials, entities, delimiters]

/-- a special character becomes its entity -/
theorem escapeChar_of_mem (h : e ∈ entities) : escapeChar e.2 = e.1 := by
  simp only [entities, List.mem_cons, List.not_mem_nil, or_false] at h
  rcases h with rfl | rfl | rfl | rfl | rfl <;> decide

/-- any other character stays -/
theorem escapeChar_of_not_mem (h : c ∉ specials) : escapeChar c = [c] := escapeChar_eq_self (mt mem_specials.2 h)

theorem exists_entity (h : c ∈ specials) : ∃ e ∈ entities, e.2 = c := List.mem_map.1 h

theorem escapeHtml_cons (c : Char) (t : Text) : escapeHtml (c :: t) = escapeChar c ++ escapeHtml t := rfl

/-! ## Round trips -/

/-- **What was escaped is read back.** -/
theorem unescapeHtml_escapeHtml (t : Text) : unescapeHtml (escapeHtml t) = t := by
  induction t with
  | nil => simp [escapeHtml, unescapeHtml]
  | cons c rest ih =>
    rw [escapeHtml_cons]
    by_cases hc : c ∈ specials
    · obtain ⟨e, he, rfl⟩ := exists_entity hc
      rw [escapeChar_of_mem he, unescapeHtml_append he, ih]
    · have hne : c ≠ '&' := fun heq => hc (mem_specials.2 (.inl heq))
      rw [escapeChar_of_not_mem hc, List.singleton_append, unescapeHtml_cons (entityAt?_of_ne hne _), ih]

theorem Escaped.of_suffix {u : Text} (h : Escaped t) (hu : u <:+ t) : Escaped u where
  undelimited c hc hmem := h.undelimited c hc (hu.subset hmem)
  ampersands after hafter := h.ampersands after (hafter.trans hu)

/-- a character where no entity starts is not special -/
theorem Escaped.not_mem_specials (h : Escaped (c :: t)) (hat : entityAt? (c :: t) = none) : c ∉ specials := by
  rw [mem_specials]
  rintro (rfl | hc)
  · obtain ⟨e, he, hprefix⟩ := h.ampersands t (List.suffix_refl _)
    rw [entityAt?_eq_some_iff.2 ⟨he, hprefix⟩] at hat
    cases hat
  · exact h.undelimited c hc List.mem_cons_self

/-- **Of an escaped text, reading back loses nothing.** -/
theorem escapeHtml_unescapeHtml (h : Escaped t) : escapeHtml (unescapeHtml t) = t := by
  -- by the scan, which leaves an escaped text to go on with after each step
  induction t using unescapeHtml.induct with
  | case1 => simp [unescapeHtml, escapeHtml]
  | case2 c rest e hat ih =>
    obtain ⟨he, after, hsplit⟩ := entityAt?_eq_some_iff.1 hat
    rw [drop_entity he hsplit.symm] at ih
    have hafter : Escaped after := h.of_suffix (hsplit ▸ List.suffix_append e.1 after)
    rw [← hsplit, unescapeHtml_append he, escapeHtml_cons, escapeChar_of_mem he, ih hafter]
  | case3 c rest hat ih =>
    rw [unescapeHtml_cons hat, escapeHtml_cons, escapeChar_of_not_mem (h.not_mem_specials hat), List.singleton_append,
      ih (h.of_suffix (List.suffix_cons c rest))]

/-! ## Escaped texts -/

/-- an ampersand after a stretch without one -/
theorem suffix_of_not_mem {u after : Text} (hu : '&' ∉ u) (h : '&' :: after <:+ u ++ t) : '&' :: after <:+ t := by
  induction u with
  | nil => exact h
  | cons d rest ih =>
    obtain ⟨hd, hrest⟩ : '&' ≠ d ∧ '&' ∉ rest := by simpa using hu
    rcases List.suffix_cons_iff.1 h with heq | hsuffix
    · exact absurd (List.cons.inj heq).1 hd
    · exact ih hrest hsuffix

theorem escaped_escapeHtml (t : Text) : Escaped (escapeHtml t) where
  undelimited c hc := not_mem_escapeHtml hc t
  ampersands after hafter := by
    induction t with
    | nil => simp [escapeHtml] at hafter
    | cons c rest ih =>
      rw [escapeHtml_cons] at hafter
      by_cases hc : c ∈ specials
      · obtain ⟨e, he, rfl⟩ := exists_entity hc
        obtain ⟨name, hname, hno, -⟩ := exists_name he
        rw [escapeChar_of_mem he, hname, List.cons_append] at hafter
        rcases List.suffix_cons_iff.1 hafter with heq | hsuffix
        · exact ⟨e, he, escapeHtml rest, by rw [heq, hname, List.cons_append]⟩
        · exact ih (suffix_of_not_mem hno hsuffix)
      · have hno : '&' ∉ [c] := by
          rw [List.mem_singleton]
          exact fun heq => hc (mem_specials.2 (.inl heq.symm))
        rw [escapeChar_of_not_mem hc] at hafter
        exact ih (suffix_of_not_mem hno hafter)

/-- no entity holds a line feed -/
theorem newline_not_mem_escapeHtml (h : '\n' ∉ t) : '\n' ∉ escapeHtml t := by
  intro hmem
  obtain ⟨c, hc, hfeed⟩ := List.mem_flatMap.1 hmem
  by_cases hspecial : c ∈ specials
  · obtain ⟨e, he, rfl⟩ := exists_entity hspecial
    have hnone : ∀ e ∈ entities, '\n' ∉ e.1 := by decide
    rw [escapeChar_of_mem he] at hfeed
    exact hnone e he hfeed
  · rw [escapeChar_of_not_mem hspecial, List.mem_singleton] at hfeed
    exact h (hfeed ▸ hc)

/-! ## Escaping again -/

theorem length_escapeChar_pos (c : Char) : 0 < (escapeChar c).length := by
  by_cases hc : c ∈ specials
  · obtain ⟨e, he, rfl⟩ := exists_entity hc
    obtain ⟨name, hname, -⟩ := exists_name he
    rw [escapeChar_of_mem he, hname]
    exact Nat.succ_pos _
  · rw [escapeChar_of_not_mem hc]
    exact Nat.one_pos

theorem length_le_length_escapeHtml (t : Text) : t.length ≤ (escapeHtml t).length := by
  induction t with
  | nil => exact Nat.le_refl _
  | cons c rest ih =>
    have hc := length_escapeChar_pos c
    rw [escapeHtml_cons, List.length_append, List.length_cons]
    omega

/-- **Escaping leaves alone what has nothing special in it.** Anything else gets longer. -/
theorem escapeHtml_eq_self_iff : escapeHtml t = t ↔ ∀ c ∈ t, c ∉ specials := by
  induction t with
  | nil => simp [escapeHtml]
  | cons c rest ih =>
    rw [escapeHtml_cons, List.forall_mem_cons, ← ih]
    by_cases hc : c ∈ specials
    · refine iff_of_false (fun heq => ?_) fun h => h.1 hc
      obtain ⟨e, he, rfl⟩ := exists_entity hc
      obtain ⟨name, hname, -, hne⟩ := exists_name he
      have hlonger := congrArg List.length heq
      have hrest := length_le_length_escapeHtml rest
      have hpos : 0 < name.length := List.length_pos_iff.2 hne
      rw [escapeChar_of_mem he, hname] at hlonger
      simp only [List.cons_append, List.length_cons, List.length_append] at hlonger
      omega
    · rw [escapeChar_of_not_mem hc, List.singleton_append, List.cons.injEq]
      exact ⟨fun h => ⟨hc, h.2⟩, fun h => ⟨rfl, h.2⟩⟩

/-! ## Main result -/

/-- **Escaping is reversible and safe.** To put the five entities back to their characters, from left to right, undoes
escaping, so that no two texts are escaped alike. The texts that come from escaping are those that hold no delimiter
of markup and in which each ampersand starts one of the five entities. Escaping twice is escaping once exactly for the
texts that hold none of the five special characters. -/
theorem escaping_reversible :
    (∀ t, unescapeHtml (escapeHtml t) = t) ∧ Function.Injective escapeHtml ∧
    (∀ t, Escaped t ↔ ∃ s, escapeHtml s = t) ∧
    ∀ t, escapeHtml (escapeHtml t) = escapeHtml t ↔ ∀ c ∈ t, c ∉ specials := by
  have hinjective : Function.Injective escapeHtml := Function.LeftInverse.injective unescapeHtml_escapeHtml
  refine ⟨unescapeHtml_escapeHtml, hinjective, fun t => ⟨fun h => ?_, ?_⟩, fun t => ?_⟩
  · exact ⟨unescapeHtml t, escapeHtml_unescapeHtml h⟩
  · rintro ⟨s, rfl⟩
    exact escaped_escapeHtml s
  · -- both sides are escaped, so the outer escaping can go
    rw [hinjective.eq_iff]
    exact escapeHtml_eq_self_iff

end Unmark.Text
