import Unmark.Proofs.Render.ListText
import Unmark.Proofs.Render.Sessions
import Unmark.Proofs.Render.VisibleText
/-!
Outlines. An outline is a list whose entries hold one line each, maybe with a checkbox before it and maybe with an
outline below it. However deep it goes, its text has one line for each entry, from the top, and no blank line.

A paragraph and an outline leave separators behind, and the list around them has to squeeze and trim these exactly.
The content of an entry is followed as lines, separators among them as lines that are empty: tidying an item leaves
the lines that are not (`squeezeNewlines_item`).

Results:
- `Entry.of_parts` and `Flat.of_parts`: what one level of an outline makes of the levels below it;
- an outline reads as the texts of its entries, in every context.
-/
namespace Unmark

open Text

namespace Text

/-- fits on a line of its own: not empty, with no line feed in it and no blanks at the ends -/
def isLine (t : Text) : Bool := !t.isEmpty && !t.contains '\n' && trimStart t == t && trimEnd t == t

end Text

/-! ## Outlines -/

namespace Node

/-- a text that fits on a line -/
def isTextLine : Node → Bool
  | .element head children _ _ _ => head.kind == .text && children.isEmpty && Text.isLine head.text
  | _ => false

/-- such a text, or a paragraph that holds it and nothing else -/
def isLineNode (n : Node) : Bool :=
  n.isTextLine || n.hasKind .paragraph && match n.children with
    | [only] => only.isTextLine
    | _ => false

mutual

/-- a list of one or more entries -/
def isOutline : Node → Bool
  | .element head _ (some items) _ _ => head.kind == .list && !items.isEmpty && isOutlineEntries items
  | _ => false

def isOutlineEntries : List Node → Bool
  | [] => true
  | item :: rest => isOutlineEntry item && isOutlineEntries rest

/-- a list item that holds a line and maybe an outline below it, or a checkbox and then these -/
def isOutlineEntry : Node → Bool
  | .element head children _ _ _ => head.kind == .listItem && (isLineAndBelow children || isTask children)
  | _ => false

/-- a line, and at most one outline after it -/
def isLineAndBelow : List Node → Bool
  | [line] => isLineNode line
  | [line, below] => isLineNode line && isOutline below
  | _ => false

/-- the same after a checkbox -/
def isTask : List Node → Bool
  | mark :: rest => hasKind .checkbox mark && isLineAndBelow rest
  | [] => false

end

mutual

/-- the texts in an outline, each entry before the ones below it -/
def outlineTexts : Node → List Text
  | .element head children items _ _ =>
    match head.kind with
    | .list => outlineTextsSome items
    | .text => [head.text]
    | .checkbox => []
    | _ => outlineTextsAll children
  | _ => []

def outlineTextsAll : List Node → List Text
  | [] => []
  | n :: rest => outlineTexts n ++ outlineTextsAll rest

def outlineTextsSome : Option (List Node) → List Text
  | none => []
  | some nodes => outlineTextsAll nodes

end

end Node

namespace Text

theorem isLine_iff {t : Text} : isLine t = true ↔ t ≠ [] ∧ '\n' ∉ t ∧ trimStart t = t ∧ trimEnd t = t := by
  simp [isLine, and_assoc]

/-- an item whose content is made of lines and empty ones is tidied to the lines -/
theorem squeezeNewlines_item {c : Text} {ls : List Text} (hc : '\n' :: c = lines ls)
    (hls : ∀ t ∈ ls, t = [] ∨ isLine t = true) (hsome : ls.filter (fun t => !t.isEmpty) ≠ []) :
    squeezeNewlines ('\n' :: trim c) = lines (ls.filter fun t => !t.isEmpty) := by
  have htidy : ∀ t ∈ ls, '\n' ∉ t ∧ trimStart t = t ∧ trimEnd t = t := by
    intro t ht
    rcases hls t ht with rfl | hline
    · exact ⟨by simp, rfl, rfl⟩
    · exact (isLine_iff.1 hline).2
  have htrim : trim c = ['\n'].intercalate (dropEmptyEnds ls) := by
    have hstart : trim c = trim ('\n' :: c) := rfl
    rw [hstart, hc, trim_lines fun t ht => (htidy t ht).2]
  have hne : dropEmptyEnds ls ≠ [] := by
    intro hnone
    rw [← filter_dropEmptyEnds, hnone] at hsome
    exact hsome rfl
  calc squeezeNewlines ('\n' :: trim c)
    _ = squeezeNewlines (lines (dropEmptyEnds ls)) := by rw [htrim, newline_intercalate hne]
    _ = lines ((dropEmptyEnds ls).filter fun t => !t.isEmpty) :=
      squeezeNewlines_lines (fun t ht => (htidy t (mem_of_mem_dropEmptyEnds ht)).1) (getLast?_dropEmptyEnds ls)
    _ = lines (ls.filter fun t => !t.isEmpty) := by rw [filter_dropEmptyEnds]

end Text

namespace Renderer

open Render

/-! ## The content of an entry -/

/-- renders to the text in every context -/
def AlwaysReads (n : Node) (t : Text) : Prop := ∀ labels, (plain.renderNode n labels).result = .ok t

theorem AlwaysReads.worded {n : Node} {t : Text} (h : AlwaysReads n t) : Worded (plain.renderNode n) := by
  intro labels hfault
  rw [h labels] at hfault
  cases hfault

/-- blocks one after the other -/
theorem inOrder_blocks {nodes : List Node} {texts : List Text} (h : List.Forall₂ AlwaysReads nodes texts)
    (labels : LabelStack) : (inOrder plain.renderNode false nodes labels).result = .ok texts.flatten := by
  induction h generalizing labels with
  | nil => rfl
  | cons hn _ ih =>
    rw [inOrder_cons hn.worded, bind_eq_ok_iff]
    refine ⟨_, hn labels, ?_⟩
    rw [bind_eq_ok_iff]
    exact ⟨_, ih _, rfl⟩

/-- one text at least, and each fits on a line -/
structure Lined (n : Node) : Prop where
  nonempty : n.outlineTexts ≠ []
  fit : ∀ t ∈ n.outlineTexts, isLine t = true

/-- an outline that reads line by line -/
structure Flat (n : Node) : Prop extends Lined n where
  reads : AlwaysReads n ('\n' :: ['\n'].intercalate n.outlineTexts ++ blockEnd)

/-- an entry that reads line by line, once it is squeezed -/
structure Entry (n : Node) : Prop extends Lined n where
  reads : ∃ t, AlwaysReads n t ∧ squeezeNewlines t = lines n.outlineTexts

/-- nodes that read, one after the other, as lines: those of their texts, and between them some that are empty -/
structure AsLines (nodes : List Node) (ls : List Text) : Prop where
  reads : ∃ texts, List.Forall₂ AlwaysReads nodes texts ∧ '\n' :: texts.flatten = lines ls
  fit : ∀ t ∈ ls, t = [] ∨ isLine t = true
  shown : ls.filter (fun t => !t.isEmpty) = Node.outlineTextsAll nodes
  nonempty : Node.outlineTextsAll nodes ≠ []

/-- the text of a node that is a line -/
structure TextLine (n : Node) (t : Text) : Prop where
  fits : isLine t = true
  reads : AlwaysReads n t
  shown : n.outlineTexts = [t]
  kind : n.hasKind .text = true

theorem exists_textLine {n : Node} (h : n.isTextLine = true) : ∃ t, TextLine n t := by
  cases n with
  | element head children items header rows =>
    simp only [Node.isTextLine, Bool.and_eq_true, beq_iff_eq, List.isEmpty_iff] at h
    obtain ⟨⟨hk, rfl⟩, hline⟩ := h
    have hliteral : head.literal = .text head.text := by
      unfold Head.text at hline ⊢
      cases hl : head.literal with
      | text t => rfl
      | other v => rw [hl] at hline; cases hline
    refine ⟨head.text, hline, fun labels => ?_, by simp [Node.outlineTexts, hk], by simp [Node.hasKind, hk]⟩
    rw [renderNode_element, result_note_bind, hk]
    simp only [Treatment.ofKind, Treatment.handler, Treatment.renderInline, hliteral]
    rfl
  | cells entries => cases h
  | stray value => cases h

/-- a paragraph around a text ends it as a block -/
theorem alwaysReads_paragraph {head : Head} (hk : head.kind = .paragraph) {only : Node} {t : Text}
    (h : TextLine only t) {items header rows : Option (List Node)} :
    AlwaysReads (.element head [only] items header rows) (t ++ blockEnd) := by
  have hkind : (only.hasKind .link || only.hasKind .image) = false ∧ only.isInline = true := by
    cases only with
    | element head children items header rows =>
      have hk : head.kind = .text := by simpa [Node.hasKind] using h.kind
      simp [Node.hasKind, Node.isInline, hk, Kind.isInline, Kind.behaviour]
    | cells entries => cases h.kind
    | stray value => cases h.kind
  intro labels
  rw [renderNode_element, result_note_bind, hk]
  simp only [Treatment.ofKind, Treatment.handler, Treatment.renderParagraph, hkind.1, Bool.false_eq_true, if_false]
  rw [perform, bind_eq_ok_iff]
  refine ⟨t, ?_, rfl⟩
  rw [inOrder_cons h.reads.worded, bind_eq_ok_iff]
  refine ⟨t, h.reads labels, ?_⟩
  simp only [hkind.2, Bool.not_true, Bool.and_false, Bool.false_eq_true, if_false]
  exact congrArg Except.ok (List.append_nil t)

theorem exists_asLines {n : Node} (h : n.isLineNode = true) : ∃ ls, AsLines [n] ls := by
  rw [Node.isLineNode, Bool.or_eq_true] at h
  rcases h with htext | hparagraph
  · obtain ⟨t, ht⟩ := exists_textLine htext
    have hne : t ≠ [] := (isLine_iff.1 ht.fits).1
    refine ⟨[t], ⟨[t], .cons ht.reads .nil, rfl⟩, by simp [ht.fits], ?_, ?_⟩
    · simp [Node.outlineTextsAll, ht.shown, hne]
    · simp [Node.outlineTextsAll, ht.shown]
  · cases n with
    | element head children items header rows =>
      simp only [Node.hasKind, Node.children, Bool.and_eq_true, beq_iff_eq] at hparagraph
      obtain ⟨hk, honly⟩ := hparagraph
      split at honly
      · rename_i only
        obtain ⟨t, ht⟩ := exists_textLine honly
        have hne : t ≠ [] := (isLine_iff.1 ht.fits).1
        have hshown : Node.outlineTextsAll [.element head [only] items header rows] = [t] := by
          simp [Node.outlineTextsAll, Node.outlineTexts, hk, ht.shown]
        refine ⟨[t, [], []], ⟨[t ++ blockEnd], .cons (alwaysReads_paragraph hk ht) .nil, by simp [blockEnd]⟩,
          by simp [ht.fits], ?_, by simp [hshown]⟩
        rw [hshown]
        simp [hne]
      · cases honly
    | cells entries => cases hparagraph
    | stray value => cases hparagraph

theorem outlineTextsAll_eq_flatMap (nodes : List Node) :
    Node.outlineTextsAll nodes = nodes.flatMap Node.outlineTexts := by
  induction nodes with
  | nil => rfl
  | cons n rest ih => rw [Node.outlineTextsAll, ih, List.flatMap_cons]

/-- the outline below goes on where the lines end -/
theorem AsLines.below {nodes : List Node} {ls : List Text} (h : AsLines nodes ls) {n : Node} (hn : Flat n) :
    AsLines (nodes ++ [n]) (ls ++ n.outlineTexts ++ [[], []]) := by
  have hall : Node.outlineTextsAll (nodes ++ [n]) = Node.outlineTextsAll nodes ++ n.outlineTexts := by
    simp [outlineTextsAll_eq_flatMap]
  obtain ⟨texts, htexts, hlines⟩ := h.reads
  refine ⟨⟨texts ++ ['\n' :: ['\n'].intercalate n.outlineTexts ++ blockEnd], ?_, ?_⟩, ?_, ?_, ?_⟩
  · exact List.rel_append htexts (.cons hn.reads .nil)
  · rw [List.flatten_append, ← List.cons_append, hlines, newline_intercalate hn.nonempty, blockEnd_eq_lines]
    simp
  · intro t ht
    rcases List.mem_append.1 ht with ht | ht
    · rcases List.mem_append.1 ht with ht | ht
      · exact h.fit t ht
      · exact .inr (hn.fit t ht)
    · exact .inl (by simpa using ht)
  · have hkept : n.outlineTexts.filter (fun t => !t.isEmpty) = n.outlineTexts := by
      refine List.filter_eq_self.2 fun t ht => ?_
      simpa using (isLine_iff.1 (hn.fit t ht)).1
    rw [List.filter_append, List.filter_append, h.shown, hkept, hall]
    simp
  · rw [hall]
    simp [h.nonempty]

/-- a checkbox shows nothing -/
theorem AsLines.task {nodes : List Node} {ls : List Text} (h : AsLines nodes ls) {mark : Node}
    (hmark : mark.hasKind .checkbox = true) : AsLines (mark :: nodes) ls := by
  cases mark with
  | element head children items header rows =>
    have hk : head.kind = .checkbox := by simpa [Node.hasKind] using hmark
    have hnothing : AlwaysReads (.element head children items header rows) [] := by
      intro labels
      rw [renderNode_element, result_note_bind, hk]
      rfl
    have hall : Node.outlineTextsAll (.element head children items header rows :: nodes) =
        Node.outlineTextsAll nodes := by simp [Node.outlineTextsAll, Node.outlineTexts, hk]
    obtain ⟨texts, htexts, hlines⟩ := h.reads
    exact ⟨⟨[] :: texts, .cons hnothing htexts, hlines⟩, h.fit, hall ▸ h.shown, hall ▸ h.nonempty⟩
  | cells entries => cases hmark
  | stray value => cases hmark

/-! ## One level of an outline -/

theorem exists_asLines_of_isLineAndBelow {children : List Node} (h : Node.isLineAndBelow children = true)
    (hbelow : ∀ n ∈ children, n.isOutline = true → Flat n) : ∃ ls, AsLines children ls := by
  unfold Node.isLineAndBelow at h
  split at h
  · exact exists_asLines h
  · rename_i line below
    obtain ⟨hline, houtline⟩ := Bool.and_eq_true_iff.1 h
    obtain ⟨ls, hls⟩ := exists_asLines hline
    exact ⟨_, hls.below (hbelow below (by simp) houtline)⟩
  · cases h

theorem exists_asLines_of_isTask {children : List Node} (h : Node.isTask children = true)
    (hbelow : ∀ n ∈ children, n.isOutline = true → Flat n) : ∃ ls, AsLines children ls := by
  cases children with
  | nil => cases h
  | cons mark rest =>
    obtain ⟨hmark, hrest⟩ := Bool.and_eq_true_iff.1 h
    obtain ⟨ls, hls⟩ := exists_asLines_of_isLineAndBelow hrest fun n hn => hbelow n (List.mem_cons_of_mem _ hn)
    exact ⟨ls, hls.task hmark⟩

/-- an item around lines -/
theorem AsLines.entry {head : Head} (hk : head.kind = .listItem) {children : List Node} {ls : List Text}
    (h : AsLines children ls) (items header rows : Option (List Node)) :
    Entry (.element head children items header rows) := by
  have htexts : (Node.element head children items header rows).outlineTexts = Node.outlineTextsAll children := by
    simp [Node.outlineTexts, hk]
  obtain ⟨texts, hreads, hlines⟩ := h.reads
  have hitem : AlwaysReads (.element head children items header rows) ('\n' :: trim texts.flatten) := fun labels =>
    (renderNode_listItem_eq_ok (by simp [Node.hasKind, hk])).2 ⟨_, inOrder_blocks hreads labels, rfl⟩
  have hsome : ls.filter (fun t => !t.isEmpty) ≠ [] := h.shown ▸ h.nonempty
  refine ⟨⟨htexts ▸ h.nonempty, ?_⟩, _, hitem, ?_⟩
  · rw [htexts, ← h.shown]
    intro t ht
    obtain ⟨hmem, hne⟩ := List.mem_filter.1 ht
    exact (h.fit t hmem).resolve_left (by simpa using hne)
  · rw [squeezeNewlines_item hlines h.fit hsome, h.shown, htexts]

/-- **An entry of an outline.** If the outline below it reads line by line, so does the entry. -/
theorem Entry.of_parts {n : Node} (h : n.isOutlineEntry = true)
    (hbelow : ∀ m, IsPart m n → m.isOutline = true → Flat m) : Entry n := by
  cases n with
  | element head children items header rows =>
    simp only [Node.isOutlineEntry, Bool.and_eq_true, beq_iff_eq, Bool.or_eq_true] at h
    obtain ⟨hk, hshape⟩ := h
    have hchild : ∀ m ∈ children, m.isOutline = true → Flat m := fun m hm =>
      hbelow m (.child (by simp [hk]) (by simp [hk]) hm)
    obtain ⟨ls, hls⟩ : ∃ ls, AsLines children ls := by
      rcases hshape with hline | htask
      · exact exists_asLines_of_isLineAndBelow hline hchild
      · exact exists_asLines_of_isTask htask hchild
    exact hls.entry hk items header rows
  | cells entries => cases h
  | stray value => cases h

theorem exists_entries {items : List Node} (h : ∀ item ∈ items, Entry item) :
    ∃ texts, List.Forall₂ AlwaysReads items texts ∧
      texts.flatMap squeezeNewlines = lines (Node.outlineTextsAll items) := by
  induction items with
  | nil => exact ⟨[], .nil, rfl⟩
  | cons item rest ih =>
    obtain ⟨hitem, hrest⟩ := List.forall_mem_cons.1 h
    obtain ⟨t, ht, hlines⟩ := hitem.reads
    obtain ⟨texts, htexts, hmore⟩ := ih hrest
    refine ⟨t :: texts, .cons ht htexts, ?_⟩
    rw [List.flatMap_cons, hlines, hmore, Node.outlineTextsAll, lines_append]

theorem forall_of_isOutlineEntries {items : List Node} (h : Node.isOutlineEntries items = true) :
    ∀ item ∈ items, item.isOutlineEntry = true := by
  induction items with
  | nil => simp
  | cons item rest ih =>
    rw [Node.isOutlineEntries, Bool.and_eq_true] at h
    exact List.forall_mem_cons.2 ⟨h.1, ih h.2⟩

/-- **An outline.** If its entries read line by line, so does the outline. -/
theorem Flat.of_parts {n : Node} (h : n.isOutline = true)
    (hentries : ∀ m, IsPart m n → m.isOutlineEntry = true → Entry m) : Flat n := by
  unfold Node.isOutline at h
  split at h
  · rename_i head children items header rows
    simp only [Bool.and_eq_true, beq_iff_eq] at h
    obtain ⟨⟨hk, hne⟩, hall⟩ := h
    have hitems : ∀ item ∈ items, Entry item := fun item hitem =>
      hentries item (.item hk hitem) (forall_of_isOutlineEntries hall item hitem)
    have htexts : (Node.element head children (some items) header rows).outlineTexts = Node.outlineTextsAll items := by
      simp [Node.outlineTexts, Node.outlineTextsSome, hk]
    have hsome : Node.outlineTextsAll items ≠ [] := by
      cases items with
      | nil => simp at hne
      | cons item rest =>
        rw [Node.outlineTextsAll]
        simp [(hitems item (by simp)).nonempty]
    have hfit : ∀ t ∈ Node.outlineTextsAll items, isLine t = true := by
      intro t ht
      rw [outlineTextsAll_eq_flatMap] at ht
      obtain ⟨item, hitem, ht⟩ := List.mem_flatMap.1 ht
      exact (hitems item hitem).fit t ht
    refine ⟨⟨htexts ▸ hsome, htexts ▸ hfit⟩, fun labels => ?_⟩
    obtain ⟨texts, hreads, hlines⟩ := exists_entries hitems
    have htrimmed : trim (lines (Node.outlineTextsAll items)) = ['\n'].intercalate (Node.outlineTextsAll items) := by
      rw [trim_lines fun t ht => (isLine_iff.1 (hfit t ht)).2.2]
      rw [dropEmptyEnds_eq_self fun t ht => (isLine_iff.1 (hfit t ht)).1]
    refine (renderNode_list_eq_ok hk (by simpa using hne)).2 ⟨texts, inTurn_of_forall₂ hreads labels, ?_⟩
    rw [Treatment.listText, hlines, htrimmed, htexts]
  · cases h

/-- level by level: an outline is made of entries, and below an entry there are outlines -/
theorem flat_and_entry (n : Node) : (n.isOutline = true → Flat n) ∧ (n.isOutlineEntry = true → Entry n) := by
  induction n using Node.induction_isPart with
  | element head children items header rows ih =>
    exact ⟨fun h => .of_parts h fun m hm => (ih m hm).2, fun h => .of_parts h fun m hm => (ih m hm).1⟩
  | cells entries => exact ⟨nofun, nofun⟩
  | stray value => exact ⟨nofun, nofun⟩

end Renderer

/-! ## Main result -/

open Renderer in
/-- **Outlines read line by line.** Take a list of one or more list items, each of which holds a text node or a
paragraph of one text node, maybe after a checkbox, and maybe before one list of the same form. The texts are not
empty, hold no line feed and have no blanks at the ends. In every context the list renders, however deep it goes, to
a line feed, all the texts from the top with a line feed between them, and the separator of blocks; and so does a
document that consists of it. -/
theorem outline_reads_line_by_line (n : Node) (h : n.isOutline = true) :
    (∀ labels, (plain.renderNode n labels).result =
      .ok ('\n' :: ['\n'].intercalate n.outlineTexts ++ ['\n', '\n'])) ∧
    (plain.renderToText [n]).result = .ok ('\n' :: ['\n'].intercalate n.outlineTexts ++ ['\n', '\n']) := by
  have hreads := ((flat_and_entry n).1 h).reads
  exact ⟨hreads, (renderToText_singleton hreads.worded).trans (hreads [])⟩

def listOf (ordered : Bool) (items : List Node) : Node :=
  .element { kind := .list, ordered := ordered } [] (some items) none none

/-- a task in a paragraph, with two levels below it, and an entry after these -/
def sampleOutline : Node :=
  let deep := listOf true [.branch .listItem [.leaf .text ['c']]]
  let middle := listOf false [.branch .listItem [.leaf .text ['b'], deep], .branch .listItem [.leaf .text ['d']]]
  let task := .branch .listItem [.leaf .checkbox [], .branch .paragraph [.leaf .text ['a', ' ', 'x']], middle]
  listOf false [task, .branch .listItem [.leaf .text ['e']]]

open Renderer in
theorem sampleOutline_reads_line_by_line : sampleOutline.isOutline = true ∧
    (plain.renderToText [sampleOutline]).result =
      .ok ['\n', 'a', ' ', 'x', '\n', 'b', '\n', 'c', '\n', 'd', '\n', 'e', '\n', '\n'] :=
  ⟨by decide, (outline_reads_line_by_line sampleOutline (by decide)).2⟩

end Unmark
