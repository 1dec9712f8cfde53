import Unmark.Proofs.Render.VisibleText
import Unmark.Proofs.Text.Pieces
/-!
What is left of code and raw HTML. The text of a literal block is escaped and handed up through the paragraphs,
quotations, list items and lists around it, and each of them tidies what it has joined: a list squeezes runs of line
feeds, a quotation, a list item and a list are trimmed, and a block loses its closing line feeds in a paragraph.

`Remains` follows the text of one block through all of this. It only has to know whether something visible stands beside
the text: then trimming does not reach it. So it reads off the tree what is left, and the contract `keeping` says that
renderings hold just that, in one stretch.

Results:
- in a document that renders to a text, each literal block is left as `Remains` says, with all of its ink, and unaltered
  if it neither starts nor ends with a blank and has no blank lines;
- blank lines in a list and leading blanks in a quotation are lost (`literal_text_altered`).
-/
namespace Unmark

open Text

namespace Node

/-- the text of a block of code or raw HTML -/
def literalText? : Node → Option Text
  | .element head _ _ _ _ =>
    match head.kind, head.literal with
    | .codeBlock, .text t | .rawHtml, .text t => some t
    | _, _ => none
  | _ => none

/-- a block of code or raw HTML -/
def isVerbatim (n : Node) : Bool := n.hasKind .codeBlock || n.hasKind .rawHtml

/-- a paragraph, a quotation, a list or a list item -/
def isContainer (n : Node) : Bool :=
  n.hasKind .paragraph || n.hasKind .blockquote || n.hasKind .list || n.hasKind .listItem

/-- the tree is built from containers around blocks of code and raw HTML, and around what holds none of these blocks and
no table -/
def BlockBuilt (n : Node) : Prop :=
  ∀ m ∈ n.walk, m.isContainer = true ∨ (m.isVerbatim = true ∧ m.kids.isEmpty = true) ∨
    ∀ x ∈ m.walk, x.isVerbatim = false ∧ x.hasKind .table = false ∧ x.hasKind .tableRow = false

instance (n : Node) : Decidable n.BlockBuilt :=
  inferInstanceAs (Decidable (∀ m ∈ n.walk, m.isContainer = true ∨ (m.isVerbatim = true ∧ m.kids.isEmpty = true) ∨
    ∀ x ∈ m.walk, x.isVerbatim = false ∧ x.hasKind .table = false ∧ x.hasKind .tableRow = false))

section

variable {head : Head} {children : List Node} {items header rows : Option (List Node)}

theorem isVerbatim_element :
    (element head children items header rows).isVerbatim = true ↔ head.kind = .codeBlock ∨ head.kind = .rawHtml := by
  simp [isVerbatim, hasKind]

theorem isContainer_element :
    (element head children items header rows).isContainer = true ↔
      head.kind = .paragraph ∨ head.kind = .blockquote ∨ head.kind = .list ∨ head.kind = .listItem := by
  simp [isContainer, hasKind, or_assoc]

theorem literalText?_element {raw : Text} (h : (element head children items header rows).literalText? = some raw) :
    (head.kind = .codeBlock ∨ head.kind = .rawHtml) ∧ head.literal = .text raw := by
  simp only [literalText?] at h
  split at h
  · rename_i hk hl
    cases h
    exact ⟨.inl hk, hl⟩
  · rename_i hk hl
    cases h
    exact ⟨.inr hk, hl⟩
  · cases h

end

theorem isVerbatim_of_literalText? {n : Node} {raw : Text} (h : n.literalText? = some raw) : n.isVerbatim = true := by
  cases n with
  | element head children items header rows => exact isVerbatim_element.2 (literalText?_element h).1
  | cells entries => cases h
  | stray value => cases h

theorem not_isVerbatim {n : Node} (h : n.isContainer = true) : n.isVerbatim = false := by
  cases n with
  | element head children items header rows =>
    rcases isContainer_element.1 h with hk | hk | hk | hk <;> simp [isVerbatim, hasKind, hk]
  | cells entries => rfl
  | stray value => rfl

/-- neither a container nor a literal block stands inside a line, or is of a kind with a rule of its own -/
theorem block_kind {n : Node} (h : n.isContainer = true ∨ n.isVerbatim = true) :
    n.isInline = false ∧ (n.hasKind .link = false ∧ n.hasKind .image = false) ∧
      n.hasKind .table = false ∧ n.hasKind .tableRow = false := by
  cases n with
  | element head children items header rows =>
    rw [isContainer_element, isVerbatim_element] at h
    rcases h with (hk | hk | hk | hk) | hk | hk <;> simp [isInline, hasKind, hk, Kind.isInline, Kind.behaviour]
  | cells entries => rcases h with h | h <;> cases h
  | stray value => rcases h with h | h <;> cases h

theorem BlockBuilt.tableFree {n : Node} (h : n.BlockBuilt) : n.TableFree := by
  intro m hm
  rcases h m hm with hcontainer | ⟨hverbatim, -⟩ | hother
  · exact (block_kind (.inl hcontainer)).2.2
  · exact (block_kind (.inr hverbatim)).2.2
  · exact (hother m m.mem_walk_self).2

theorem BlockBuilt.of_isPart {n m : Node} (h : IsPart n m) (hm : m.BlockBuilt) : n.BlockBuilt := by
  intro x hx
  exact hm x (walk_subset_of_isPart (hm.tableFree m m.mem_walk_self).1 h hx)

/-! ## What is left -/

/-- what a container leaves of a piece of one of its nodes; `nodeBack` says whether something visible follows the piece
in that node, `front` and `back` whether something visible stands beside it in the container -/
def leaves (c : Node) (nodeBack front back : Bool) (piece : Text) : Text :=
  if c.hasKind .paragraph then (if nodeBack then piece else dropTrailingNewlines piece)
  else trimBeside front back (if c.hasKind .list then squeezeNewlines piece else piece)

theorem ink_leaves (c : Node) (nodeBack front back : Bool) (piece : Text) :
    ink (c.leaves nodeBack front back piece) = ink piece := by
  unfold leaves
  by_cases hparagraph : c.hasKind .paragraph = true
  · rw [if_pos hparagraph]
    cases nodeBack <;> simp
  · rw [if_neg hparagraph, ink_trimBeside]
    split
    · exact ink_squeezeNewlines piece
    · rfl

theorem leaves_of_firm {piece : Text} (h : Firm piece) (c : Node) (nodeBack front back : Bool) :
    c.leaves nodeBack front back piece = piece := by
  unfold leaves
  by_cases hparagraph : c.hasKind .paragraph = true
  · rw [if_pos hparagraph]
    cases nodeBack
    · exact h.dropTrailingNewlines_eq
    · rfl
  · have hsqueezed : (if c.hasKind .list then squeezeNewlines piece else piece) = piece := by
      split
      · exact h.within
      · rfl
    rw [if_neg hparagraph, hsqueezed, h.trimBeside_eq]

end Node

/-- what is left of the escaped text of the block `m` where the node `n` is rendered, and whether something visible
stands before it and after it there; the constructors follow the way from the block up to the node -/
inductive Remains (m : Node) : Node → Bool → Bool → Text → Prop
  | self {raw : Text} (literal : m.literalText? = some raw) : Remains m m false false (escapeHtml raw)
  | inside {c n : Node} {before after : List Node} {front back : Bool} {piece : Text} (container : c.isContainer = true)
      (place : c.kids = before ++ n :: after) (inner : Remains m n front back piece) :
      Remains m c (front || shows (Node.visibleAll before)) (back || shows (Node.visibleAll after))
        (c.leaves back (front || shows (Node.visibleAll before)) (back || shows (Node.visibleAll after)) piece)

namespace Remains

variable {m n : Node} {front back : Bool} {piece : Text}

theorem isContainer_or_isVerbatim (h : Remains m n front back piece) : n.isContainer = true ∨ n.isVerbatim = true := by
  cases h with
  | self literal => exact .inr (Node.isVerbatim_of_literalText? literal)
  | inside container place inner => exact .inl container

/-- all of the ink is left, and all of the text if it is firm -/
theorem ink_eq (h : Remains m n front back piece) : ∃ raw, m.literalText? = some raw ∧
    ink piece = ink (escapeHtml raw) ∧ (Firm (escapeHtml raw) → piece = escapeHtml raw) := by
  induction h with
  | self literal => exact ⟨_, literal, rfl, fun _ => rfl⟩
  | inside container place inner ih =>
    obtain ⟨raw, hraw, hink, hfirm⟩ := ih
    refine ⟨raw, hraw, ?_, fun hf => ?_⟩
    · rw [Node.ink_leaves, hink]
    · rw [hfirm hf, Node.leaves_of_firm hf]

end Remains

/-- if something is left in each part that the block stands in, then something is left in the node -/
theorem exists_remains_of_parts {m n : Node} {raw : Text} (hbuilt : n.BlockBuilt) (hmem : m ∈ n.walk)
    (hraw : m.literalText? = some raw)
    (hparts : ∀ part, IsPart part n → m ∈ part.walk → ∃ front back piece, Remains m part front back piece) :
    ∃ front back piece, Remains m n front back piece := by
  have hverbatim := Node.isVerbatim_of_literalText? hraw
  have htable := (hbuilt.tableFree n n.mem_walk_self).1
  rcases hbuilt n n.mem_walk_self with hcontainer | ⟨-, hleaf⟩ | hother
  · rcases (Node.mem_walk_kids htable).1 hmem with rfl | ⟨kid, hkid, hbelow⟩
    · rw [Node.not_isVerbatim hcontainer] at hverbatim
      cases hverbatim
    · obtain ⟨front, back, piece, hleft⟩ := hparts kid (Node.isPart_of_mem_kids htable hkid) hbelow
      obtain ⟨before, after, hplace⟩ := List.append_of_mem hkid
      exact ⟨_, _, _, .inside hcontainer hplace hleft⟩
  · -- a block without kids is the only node of its walk
    rcases (Node.mem_walk_kids htable).1 hmem with rfl | ⟨kid, hkid, -⟩
    · exact ⟨_, _, _, .self hraw⟩
    · rw [List.isEmpty_iff.1 hleaf] at hkid
      cases hkid
  · rw [(hother m hmem).1] at hverbatim
    cases hverbatim

/-- **Something is left of every block in the tree.** -/
theorem exists_remains {m n : Node} {raw : Text} (hbuilt : n.BlockBuilt) (hmem : m ∈ n.walk)
    (hraw : m.literalText? = some raw) : ∃ front back piece, Remains m n front back piece := by
  induction n using Node.induction_isPart with
  | element head children items header rows ih =>
    refine exists_remains_of_parts hbuilt hmem hraw fun part hpart hbelow => ?_
    exact ih part hpart (hbuilt.of_isPart hpart) hbelow
  | cells entries => exact exists_remains_of_parts hbuilt hmem hraw fun part hpart => by cases hpart
  | stray value => exact exists_remains_of_parts hbuilt hmem hraw fun part hpart => by cases hpart

/-! ## The contract -/

/-- a text of the node `n` keeps what is left of the block `m` there -/
def Kept (m n : Node) (t : Text) : Prop :=
  ∀ front back piece, Remains m n front back piece → Keeps piece front back t

/-- each node reads as its visible text, up to blanks, and keeps what is left of the block `m` in it -/
def keeping (m : Node) : Contract where
  reads n t := showing.reads n t ∧ Kept m n t
  label _ := True

open Script Treatment

theorem keeping_showing (m : Node) : ∀ n t, (keeping m).reads n t → showing.reads n t := fun _ _ h => h.1

section

variable {m n : Node} {before after : List Node} {front back : Bool} {piece : Text}

/-- what is left of the block in one of some nodes, where their texts are joined -/
theorem keeps_joins {inline : Bool} {t : Text} (ht : (keeping m).Joins inline (before ++ n :: after) t)
    (h : Remains m n front back piece) :
    Keeps (if inline && !back then dropTrailingNewlines piece else piece)
      (front || shows (Node.visibleAll before)) (back || shows (Node.visibleAll after)) t := by
  obtain ⟨u, s, v, hu, hs, hv, rfl⟩ := ht.split
  have hinkBefore := ink_joins (hu.mono (keeping_showing m))
  have hinkAfter := ink_joins (hv.mono (keeping_showing m))
  have hblock := (Node.block_kind h.isContainer_or_isVerbatim).1
  have hkeeps := hs.2 front back piece h
  rw [← shows_congr hinkBefore, ← shows_congr hinkAfter, hblock]
  cases inline with
  | false => exact hkeeps.append u v
  | true =>
    have hdropped := hkeeps.dropTrailingNewlines.append u v
    cases back <;> exact hdropped

/-- the same where the texts of items are squeezed and joined -/
theorem keeps_items {texts : List Text} (ht : List.Forall₂ (keeping m).reads (before ++ n :: after) texts)
    (h : Remains m n front back piece) :
    Keeps (squeezeNewlines piece) (front || shows (Node.visibleAll before)) (back || shows (Node.visibleAll after))
      (texts.flatMap squeezeNewlines) := by
  have hfirst := List.forall₂_take_append texts before (n :: after) ht.flip
  obtain ⟨s, rest, hs, hrest, hsplit⟩ :=
    List.forall₂_cons_right_iff.1 (List.forall₂_drop_append texts before (n :: after) ht.flip)
  have hinkBefore : ink ((texts.take before.length).flatMap squeezeNewlines) = ink (Node.visibleAll before) := by
    rw [ink_flatMap_squeezeNewlines]
    exact ink_flatten (hfirst.flip.imp (keeping_showing m))
  have hinkAfter : ink (rest.flatMap squeezeNewlines) = ink (Node.visibleAll after) := by
    rw [ink_flatMap_squeezeNewlines]
    exact ink_flatten (hrest.flip.imp (keeping_showing m))
  have hkeeps := (hs.2 front back piece h).squeezeNewlines.append
    ((texts.take before.length).flatMap squeezeNewlines) (rest.flatMap squeezeNewlines)
  rw [shows_congr hinkBefore, shows_congr hinkAfter] at hkeeps
  rw [← List.take_append_drop before.length texts, hsplit]
  simpa using hkeeps

end

/-! ## The built-in handlers -/

section

variable {m : Node} {head : Head} {children : List Node} {items header rows : Option (List Node)}

/-- to keep the block, a container has to keep what is left of it in one of its nodes -/
theorem kept_of_inside {n : Node} {t : Text} (hcontainer : n.isContainer = true)
    (h : ∀ before kid after front back piece, n.kids = before ++ kid :: after → Remains m kid front back piece →
      Keeps (n.leaves back (front || shows (Node.visibleAll before)) (back || shows (Node.visibleAll after)) piece)
        (front || shows (Node.visibleAll before)) (back || shows (Node.visibleAll after)) t) : Kept m n t := by
  intro front back piece hleft
  cases hleft with
  | self literal =>
    have hverbatim := Node.isVerbatim_of_literalText? literal
    rw [Node.not_isVerbatim hcontainer] at hverbatim
    cases hverbatim
  | inside container place inner => exact h _ _ _ _ _ _ place inner

/-- in a container without nodes, nothing is left to speak of -/
theorem kept_of_kids_eq_nil {n : Node} (hcontainer : n.isContainer = true) (hkids : n.kids = []) (t : Text) :
    Kept m n t := by
  refine kept_of_inside hcontainer fun before kid after front back piece place _ => ?_
  simp [hkids] at place

theorem kept_renderEscaped (hk : head.kind = .codeBlock ∨ head.kind = .rawHtml) :
    (renderEscaped head.literal).Meets (keeping m) (Kept m (.element head children items header rows)) := by
  cases hl : head.literal with
  | other v => trivial
  | text t =>
    intro front back piece h
    cases h with
    | self literal =>
      have hraw := (Node.literalText?_element literal).2
      rw [hl] at hraw
      cases hraw
      exact (Keeps.refl _).append_blank (u := []) rfl ink_blockEnd
    | inside container place inner =>
      have hnot := Node.not_isVerbatim container
      rw [Node.isVerbatim_element.2 hk] at hnot
      cases hnot

theorem kept_renderParagraph (hk : head.kind = .paragraph) :
    (renderParagraph children).Meets (keeping m) (Kept m (.element head children items header rows)) := by
  have hcontainer : (Node.element head children items header rows).isContainer = true :=
    Node.isContainer_element.2 (.inl hk)
  have hkids : (Node.element head children items header rows).kids = children := by rw [Node.kids, hk]
  have hgeneral : (Script.renderChildren children true fun t => .done (t ++ blockEnd)).Meets (keeping m)
      (Kept m (.element head children items header rows)) := by
    intro t ht
    refine kept_of_inside hcontainer fun before kid after front back piece place inner => ?_
    rw [hkids] at place
    subst place
    have hkeeps := (keeps_joins ht inner).append_blank (u := []) (v := blockEnd) rfl ink_blockEnd
    rw [Node.leaves, if_pos (by simp [Node.hasKind, hk])]
    cases back <;> exact hkeeps
  unfold renderParagraph
  split
  · rename_i only
    split
    · -- a single link or image is no way to the block
      rename_i hsingle
      intro t _
      refine kept_of_inside hcontainer fun before kid after front back piece place inner => ?_
      rw [hkids] at place
      have hkid : kid ∈ [only] := by simp [place]
      rw [List.mem_singleton] at hkid
      subst hkid
      obtain ⟨-, ⟨hlink, himage⟩, -⟩ := Node.block_kind inner.isContainer_or_isVerbatim
      simp [hlink, himage] at hsingle
    · exact hgeneral
  · exact hgeneral

/-- a quotation or a list item trims what its children are joined to, and puts blanks around it -/
theorem kept_trimmed (hk : head.kind = .blockquote ∨ head.kind = .listItem) {u v : Text} (hu : ink u = [])
    (hv : ink v = []) : (Script.renderChildren children false fun t => .done (u ++ trim t ++ v)).Meets (keeping m)
      (Kept m (.element head children items header rows)) := by
  have hcontainer : (Node.element head children items header rows).isContainer = true := by
    rcases hk with hk | hk <;> simp [Node.isContainer_element, hk]
  have hkids : (Node.element head children items header rows).kids = children := by
    rcases hk with hk | hk <;> rw [Node.kids, hk]
  have hleaves : ∀ nodeBack front back piece,
      (Node.element head children items header rows).leaves nodeBack front back piece =
        trimBeside front back piece := by
    rcases hk with hk | hk <;> simp [Node.leaves, Node.hasKind, hk]
  intro t ht
  refine kept_of_inside hcontainer fun before kid after front back piece place inner => ?_
  rw [hkids] at place
  subst place
  rw [hleaves]
  exact (keeps_joins ht inner).trim.append_blank hu hv

theorem kept_renderListItem (hk : head.kind = .listItem) :
    (renderListItem children).Meets (keeping m) (Kept m (.element head children items header rows)) := by
  have hsame : renderListItem children = .renderChildren children false fun t => .done (['\n'] ++ trim t ++ []) := by
    simp [renderListItem]
  rw [hsame]
  exact kept_trimmed (.inr hk) rfl rfl

theorem kept_renderPlainBlock (hk : head.kind = .blockquote) :
    (renderPlainBlock head.kind head.literal children).Meets (keeping m)
      (Kept m (.element head children items header rows)) := by
  cases children with
  | nil =>
    have hnone : ∀ t, Kept m (.element head [] items header rows) t :=
      kept_of_kids_eq_nil (Node.isContainer_element.2 (.inr (.inl hk))) (by rw [Node.kids, hk])
    rw [renderPlainBlock.eq_def, if_pos List.isEmpty_nil]
    cases head.literal with
    | text t => exact hnone _
    | other v =>
      dsimp only
      split
      · trivial
      · exact hnone _
  | cons first others =>
    have hheading : head.kind ≠ .heading := by simp [hk]
    rw [renderPlainBlock.eq_def, if_neg (by simp), if_neg hheading]
    exact kept_trimmed (.inl hk) (u := []) rfl ink_blockEnd

theorem kept_renderList (hk : head.kind = .list) :
    (renderList head.kind items).Meets (keeping m) (Kept m (.element head children items header rows)) := by
  have hcontainer : ∀ items, (Node.element head children items header rows).isContainer = true := fun _ =>
    Node.isContainer_element.2 (.inr (.inr (.inl hk)))
  unfold renderList
  split
  · trivial
  · exact kept_of_kids_eq_nil (hcontainer _) (by rw [Node.kids, hk]; rfl) _
  · rename_i item rest
    refine meets_renderOneByOne fun texts htexts => ?_
    refine kept_of_inside (hcontainer _) fun before kid after front back piece place inner => ?_
    simp only [Node.kids, hk, Option.getD_some] at place
    rw [place] at htexts
    have hkeeps := (keeps_items htexts inner).trim.append_blank (u := ['\n']) rfl ink_blockEnd
    simpa [listText, Node.leaves, Node.hasKind, hk] using hkeeps

/-- **Each handler keeps what is left of the block.** -/
theorem meets_keeping (m : Node) (head : Head) (children : List Node) (items header rows : Option (List Node))
    (htable : head.kind ≠ .table) (hrow : head.kind ≠ .tableRow) :
    ((ofKind head.kind).handler (.element head children items header rows)).Meets (keeping m)
      ((keeping m).reads (.element head children items header rows)) := by
  have hshowing : ((ofKind head.kind).handler (.element head children items header rows)).Meets (keeping m)
      (showing.reads (.element head children items header rows)) :=
    (meets_showing head children items header rows htable hrow).mono (keeping_showing m) (fun _ => Iff.rfl) fun _ h => h
  refine hshowing.and ?_
  by_cases hblock : (Node.element head children items header rows).isContainer = true ∨
      (Node.element head children items header rows).isVerbatim = true
  · rw [Node.isVerbatim_element, Node.isContainer_element] at hblock
    rcases hblock with (hk | hk | hk | hk) | hk | hk
    · rw [hk]
      exact kept_renderParagraph hk
    · rw [hk]
      exact kept_renderPlainBlock hk
    · rw [hk]
      exact kept_renderList hk
    · rw [hk]
      exact kept_renderListItem hk
    · rw [hk]
      exact kept_renderEscaped (.inl hk)
    · rw [hk]
      exact kept_renderEscaped (.inr hk)
  · -- of a block in any other node, nothing is left to speak of
    refine hshowing.mono (fun _ _ h => h) (fun _ => Iff.rfl) fun t _ front back piece h => ?_
    exact absurd h.isContainer_or_isVerbatim hblock

end

/-! ## Main result -/

/-- **What is left of literal text.** Let a document of paragraphs, quotations, lists and list items, nested in whatever
way around blocks of code and raw HTML, render to a text. Wherever a block stands, the text holds in one stretch what
`Remains` leaves of it: its escaped text, squeezed by the lists around it, and trimmed on the sides where nothing
visible stands beside it. Something is left of every block, with all of its ink, and the whole of its escaped text if
that has no blank lines and no blanks at its ends, or if nothing stands around the block. -/
theorem literal_text_kept (nodes : List Node) (hbuilt : ∀ n ∈ nodes, n.BlockBuilt) (t : Text)
    (ht : (Renderer.plain.renderToText nodes).result = .ok t) :
    (∀ n ∈ nodes, ∀ m front back piece, Remains m n front back piece → piece <:+: t) ∧
    (∀ m ∈ nodes, ∀ raw, m.literalText? = some raw → escapeHtml raw <:+: t) ∧
    ∀ m ∈ Node.walkAll nodes, ∀ raw, m.literalText? = some raw →
      ∃ n ∈ nodes, ∃ front back piece, Remains m n front back piece ∧ piece <:+: t ∧
        ink piece = ink (escapeHtml raw) ∧ (Firm (escapeHtml raw) → piece = escapeHtml raw) := by
  have hkept : ∀ n ∈ nodes, ∀ m front back piece, Remains m n front back piece → piece <:+: t := by
    intro n hn m front back piece h
    obtain ⟨before, after, rfl⟩ := List.append_of_mem hn
    have hjoins : (keeping m).Joins false (before ++ n :: after) t := by
      refine Renderer.joins_of_renderToText (fun n m => Node.TableFree.of_isPart) ?_
        (fun n hn => (hbuilt n hn).tableFree) ht
      intro head children items header rows hfree
      have hself := hfree _ (Node.mem_walk_self _)
      simp only [Node.hasKind, beq_eq_false_iff_ne] at hself
      exact meets_keeping m head children items header rows hself.1 hself.2
    exact (keeps_joins hjoins h).isInfix
  refine ⟨hkept, fun m hm raw hraw => hkept m hm m false false _ (.self hraw), fun m hm raw hraw => ?_⟩
  obtain ⟨n, hn, hbelow⟩ := Node.mem_walkAll.1 hm
  obtain ⟨front, back, piece, hleft⟩ := exists_remains (hbuilt n hn) hbelow hraw
  obtain ⟨raw', hraw', hink, hfirm⟩ := hleft.ink_eq
  rw [hraw] at hraw'
  cases hraw'
  exact ⟨n, hn, front, back, piece, hleft, hkept n hn m front back piece hleft, hink, hfirm⟩

/-- code with a margin and a blank line -/
def spacedCode : Node := Build.codeBlock [' ', 'a', '\n', '\n', '<'] none

def listedHtml : Node := Build.list false [.node (Build.listItem [.node (Build.rawHtml ['<', 'i', '>'])])]

/-- a quotation in which a paragraph stands before the code, and the list after it -/
def quotedCode : Node :=
  Build.blockquote [.node (Build.paragraph [.text ['p']]), .node spacedCode, .node listedHtml]

/-- what the quotation reads as -/
def quotedCodeText : Text :=
  ['p', '\n', '\n', ' ', 'a', '\n', '\n', '&', 'l', 't', ';', '\n', '\n', '\n', '&', 'l', 't', ';', 'i', '&', 'g', 't',
    ';', '\n', '\n']

theorem literal_text_kept_quoted :
    quotedCode.BlockBuilt ∧ (Renderer.plain.renderToText [quotedCode]).result = .ok quotedCodeText ∧
    escapeHtml [' ', 'a', '\n', '\n', '<'] <:+: quotedCodeText ∧ escapeHtml ['<', 'i', '>'] <:+: quotedCodeText := by
  have hbuilt : quotedCode.BlockBuilt := by decide
  obtain ⟨hpieces, -, hblocks⟩ := literal_text_kept [quotedCode] (by simpa using hbuilt) _ rfl
  refine ⟨hbuilt, rfl, ?_, ?_⟩
  · -- something visible stands on both sides of the code
    have hplace : quotedCode.kids = [Build.paragraph [.text ['p']]] ++ spacedCode :: [listedHtml] := rfl
    exact hpieces quotedCode List.mem_cons_self spacedCode _ _ _ (.inside rfl hplace (.self rfl))
  · have hmem : Build.rawHtml ['<', 'i', '>'] ∈ Node.walkAll [quotedCode] :=
      .tail _ (.tail _ (.tail _ (.tail _ (.tail _ (.tail _ (.head _))))))
    obtain ⟨n, -, front, back, piece, -, hinfix, -, hfirm⟩ := hblocks _ hmem _ rfl
    rw [hfirm ⟨rfl, rfl, rfl⟩] at hinfix
    exact hinfix

/-- **Blank lines and margins are lost.** In a list, a run of line feeds in code is squeezed; at the start of a
quotation, the margin of the first line of code is trimmed. -/
theorem literal_text_altered :
    let inItem := [Build.list false [.node (Build.listItem [.node (Build.codeBlock ['a', '\n', '\n', 'b'] none)])]]
    let inQuote := [Build.blockquote [.node (Build.codeBlock [' ', ' ', ' ', ' ', 'x'] none)]]
    (∀ n ∈ inItem ++ inQuote, n.BlockBuilt) ∧
    (Build.codeBlock ['a', '\n', '\n', 'b'] none).literalText? = some ['a', '\n', '\n', 'b'] ∧
    (Renderer.plain.renderToText inItem).result = .ok ['\n', 'a', '\n', 'b', '\n', '\n'] ∧
    ¬ escapeHtml ['a', '\n', '\n', 'b'] <:+: ['\n', 'a', '\n', 'b', '\n', '\n'] ∧
    (Renderer.plain.renderToText inQuote).result = .ok ['x', '\n', '\n'] ∧
    ¬ escapeHtml [' ', ' ', ' ', ' ', 'x'] <:+: ['x', '\n', '\n'] :=
  ⟨by decide, rfl, rfl, by decide, rfl, by decide⟩

end Unmark
