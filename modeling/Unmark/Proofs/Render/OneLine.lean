import Unmark.Document.Build
import Unmark.Proofs.Document.Walk
import Unmark.Proofs.Text.Entities
/-!
Lines that stay lines. Blocks may stand inside a line, and inside these lines again. Each block ends with line feeds of
its own, and whatever puts a block into a line takes them away first. So a node around which no literal holds a line
feed reads as a single line, with the end of a block after it or without.

These are the two shapes of the invariant (`Node.Fits`), told apart by the kind. Each handler keeps it, also the shorter
way of paragraphs, which passes on the end of the block that it found. Lists, items, tables and rows put line feeds
between their parts, and a quotation keeps those of the blocks in it: in the trees at hand they do not occur, and
quotations have no children.

Results:
- `yields_inOrder`: nodes that fit are joined to one line;
- `yields_renderNode`: a node over such a tree renders on every stack, and fits.
-/
namespace Unmark

open Text

/-! ## Trees of lines -/

def Literal.isLine : Literal → Bool
  | .text t => !t.contains '\n'
  | .other _ => false

theorem Literal.exists_of_isLine {literal : Literal} (h : literal.isLine = true) :
    ∃ t, literal = .text t ∧ '\n' ∉ t := by
  cases literal with
  | text t => exact ⟨t, rfl, by simpa [isLine] using h⟩
  | other v => cases h

namespace Node

/-- the node calls for no line feed but that at the end of a block: it is suppressed, or its literal has none and its
kind puts the children into a line; a link or an image has a target, and any other block has no children -/
def staysInLine : Node → Bool
  | .element head children _ _ _ =>
    match head.kind with
    | .space | .horizontalRule | .checkbox | .lineBreak => true
    | .text | .strong | .emphasis | .codeSpan | .strikethrough | .rawHtml | .codeBlock | .heading | .paragraph
    | .tableCell => head.literal.isLine
    | .link | .image => head.literal.isLine && head.href.isSome
    | .blockquote | .generic | .other _ => head.literal.isLine && children.isEmpty
    | .list | .listItem | .table | .tableRow => false
  | _ => false

variable {head : Head} {children : List Node} {items header rows : Option (List Node)}

theorem exists_literal_of_staysInLine (h : (element head children items header rows).staysInLine = true)
    (hk : head.kind.behaviour ≠ .suppressed) : ∃ t, head.literal = .text t ∧ '\n' ∉ t := by
  have hline : head.literal.isLine = true := by
    cases hkind : head.kind <;> simp_all [staysInLine, Kind.behaviour]
  exact Literal.exists_of_isLine hline

theorem exists_target_of_staysInLine (h : (element head children items header rows).staysInLine = true)
    (hk : head.kind = .link ∨ head.kind = .image) : ∃ target, head.href = some target := by
  rw [← Option.isSome_iff_exists]
  rcases hk with hk | hk <;> simp_all [staysInLine]

end Node

/-- what is made of one line -/
def OfLine (f : Text → Text) (t : Text) : Prop := ∃ u, '\n' ∉ u ∧ t = f u

/-- nodes of the kind end as blocks: it is neither suppressed nor one that stands in a line, and not that of cells -/
def Kind.endsBlock (k : Kind) : Bool := !(k.behaviour == .inline || k.behaviour == .suppressed || k == .tableCell)

def Node.endsBlock (n : Node) : Bool := n.kind?.any Kind.endsBlock

/-- one line, and the end of a block after it if the kind of the node calls for it -/
def Node.Fits (n : Node) : Text → Prop := OfLine (if n.endsBlock then (· ++ blockEnd) else id)

theorem Node.isInline_of_endsBlock {n : Node} (h : n.endsBlock = true) : n.isInline = false := by
  cases n <;> simp_all [endsBlock, kind?, isInline, Kind.isInline, Kind.endsBlock]

theorem Node.endsBlock_of_hasKind {n : Node} {k : Kind} (hn : n.hasKind k = true) (hk : k.endsBlock = true) :
    n.endsBlock = true := by
  cases n <;> simp_all [endsBlock, kind?, hasKind]

namespace Render

variable {α β : Type}

/-! ## The invariant -/

/-- on every stack, the computation ends with a result that is as said -/
def Yields (x : Render α) (post : α → Prop) : Prop := ∀ labels, ∃ a, (x labels).result = .ok a ∧ post a

theorem yields_pure {a : α} {post : α → Prop} (h : post a) : Yields (Pure.pure a : Render α) post :=
  fun _ => ⟨a, rfl, h⟩

theorem Yields.bind {x : Render α} {f : α → Render β} {mid : α → Prop} {post : β → Prop} (hx : Yields x mid)
    (hf : ∀ a, mid a → Yields (f a) post) : Yields (x >>= f) post := by
  intro labels
  obtain ⟨a, ha, hmid⟩ := hx labels
  rw [bind_ok ha]
  exact hf a hmid _

theorem Yields.note {x : Render α} {post : α → Prop} (hx : Yields x post) (events : List Event) :
    Yields (note events >>= fun _ => x) post := fun labels => hx labels

theorem Yields.worded {x : Render α} {post : α → Prop} (hx : Yields x post) : Worded x := by
  intro labels
  obtain ⟨a, ha, -⟩ := hx labels
  simp [ha]

variable {render : Node → Render Text}

/-- inside a line, the end of a block goes -/
theorem not_mem_of_fits {n : Node} {t : Text} (h : n.Fits t) :
    '\n' ∉ if true && !n.isInline then dropTrailingNewlines t else t := by
  obtain ⟨u, hu, rfl⟩ := h
  by_cases hblock : n.endsBlock = true
  · have hinline := Node.isInline_of_endsBlock hblock
    simpa [hblock, hinline, dropTrailingNewlines_blockEnd hu] using hu
  · rw [if_neg hblock]
    split
    · exact fun hmem => hu ((dropTrailingNewlines_sublist u).subset hmem)
    · exact hu

/-- **Nodes that fit make one line.** -/
theorem yields_inOrder {nodes : List Node} (h : ∀ n ∈ nodes, Yields (render n) n.Fits) :
    Yields (inOrder render true nodes) ('\n' ∉ ·) := by
  induction nodes with
  | nil => exact yields_pure List.not_mem_nil
  | cons n rest ih =>
    obtain ⟨hn, hrest⟩ := List.forall_mem_cons.1 h
    rw [inOrder_cons hn.worded]
    refine hn.bind fun t ht => (ih hrest).bind fun others hothers => yields_pure ?_
    rw [List.mem_append, not_or]
    exact ⟨not_mem_of_fits ht, hothers⟩

/-! ## The built-in handlers -/

variable {children : List Node} {t : Text}

theorem yields_renderChildren (h : ∀ n ∈ children, Yields (render n) n.Fits) (f : Text → Text) :
    Yields (perform render (.renderChildren children true fun t => .done (f t))) (OfLine f) :=
  (yields_inOrder h).bind fun u hu => yields_pure ⟨u, hu, rfl⟩

/-- the children in a line, or else the literal -/
theorem yields_childrenOr (h : ∀ n ∈ children, Yields (render n) n.Fits) (ht : '\n' ∉ t) (f : Text → Text) :
    Yields (perform render (if children.isEmpty then .done (f t)
      else .renderChildren children true fun t => .done (f t))) (OfLine f) := by
  split
  · exact yields_pure ⟨t, ht, rfl⟩
  · exact yields_renderChildren h f

theorem yields_renderParagraph (h : ∀ n ∈ children, Yields (render n) n.Fits) :
    Yields (perform render (Treatment.renderParagraph children)) (OfLine (· ++ blockEnd)) := by
  have hgeneral := yields_renderChildren h (· ++ blockEnd)
  rw [Treatment.renderParagraph.eq_def]
  split
  · rename_i only
    split
    · -- the end of the block is that of the link or the image
      rename_i hreference
      have hblock : only.endsBlock = true := by
        rcases Bool.or_eq_true_iff.1 hreference with hlink | himage
        · exact Node.endsBlock_of_hasKind hlink rfl
        · exact Node.endsBlock_of_hasKind himage rfl
      refine (h only List.mem_cons_self).bind fun t ht => yields_pure ?_
      rwa [Node.Fits, if_pos hblock] at ht
    · exact hgeneral
  · exact hgeneral

theorem yields_renderImage (h : ∀ n ∈ children, Yields (render n) n.Fits) (ht : '\n' ∉ t) (kind : Kind)
    (target : Value) :
    Yields (perform render (Treatment.renderImage kind (some target) (.text t) children)) (OfLine (· ++ blockEnd)) := by
  cases t with
  | nil => exact yields_childrenOr h ht (· ++ blockEnd)
  | cons c rest => exact yields_pure ⟨c :: rest, ht, rfl⟩

theorem yields_renderCell (h : ∀ n ∈ children, Yields (render n) n.Fits) (isHeader : Bool) :
    Yields (perform render (Treatment.renderCell isHeader children)) (OfLine id) := by
  refine (yields_inOrder h).bind fun t ht => ?_
  cases isHeader with
  | false => exact yields_pure ⟨t, ht, rfl⟩
  | true => exact fun labels => ⟨t, rfl, t, ht, rfl⟩

end Render

/-! ## Built-in rendering -/

theorem Node.table_eq_false_of_staysInLine {n : Node} (h : n.staysInLine = true) : n.hasKind .table = false := by
  cases n with
  | element head children items header rows =>
    rw [hasKind, beq_eq_false_iff_ne]
    intro hk
    simp [staysInLine, hk] at h
  | cells entries => rfl
  | stray value => rfl

namespace Renderer

open Render Treatment

theorem yields_renderNode {n : Node} (h : ∀ m ∈ n.walk, m.staysInLine = true) :
    Yields (plain.renderNode n) n.Fits := by
  induction n using Node.induction_isPart with
  | cells entries => cases h _ (Node.mem_walk_self _)
  | stray value => cases h _ (Node.mem_walk_self _)
  | element head children items header rows ih =>
    have hself := h _ (Node.mem_walk_self _)
    have hc : head.kind ≠ .list ∧ head.kind ≠ .table → ∀ n ∈ children, Yields (plain.renderNode n) n.Fits := by
      rintro ⟨hlist, htable⟩ n hn
      have hpart : IsPart n (.element head children items header rows) := .child hlist htable hn
      have hbelow := Node.walk_subset_of_isPart (Node.table_eq_false_of_staysInLine hself) hpart
      exact ih n hpart fun m hm => h m (hbelow hm)
    have hliteral := Node.exists_literal_of_staysInLine hself
    have htarget := Node.exists_target_of_staysInLine hself
    have hfits : Node.Fits (.element head children items header rows) =
        OfLine (if head.kind.endsBlock then (· ++ blockEnd) else id) := rfl
    rw [renderNode_element, hfits]
    refine Yields.note ?_ _
    cases hk : head.kind with
    | list | listItem | table | tableRow => simp [Node.staysInLine, hk] at hself
    | space | horizontalRule | checkbox | lineBreak => exact yields_pure ⟨[], List.not_mem_nil, rfl⟩
    | text | strong | emphasis | codeSpan | strikethrough =>
      obtain ⟨t, hl, ht⟩ := hliteral (by simp [hk, Kind.behaviour])
      simp only [ofKind, handler, hl]
      exact yields_childrenOr (hc (by simp [hk])) ht id
    | codeBlock | rawHtml =>
      obtain ⟨t, hl, ht⟩ := hliteral (by simp [hk, Kind.behaviour])
      simp only [ofKind, handler, hl]
      exact yields_pure ⟨escapeHtml t, newline_not_mem_escapeHtml ht, rfl⟩
    | heading =>
      obtain ⟨t, hl, ht⟩ := hliteral (by simp [hk, Kind.behaviour])
      simp only [ofKind, handler, hk, hl]
      exact yields_childrenOr (hc (by simp [hk])) ht (· ++ blockEnd)
    | blockquote | generic | other name =>
      obtain ⟨t, hl, ht⟩ := hliteral (by simp [hk, Kind.behaviour])
      simp only [Node.staysInLine, hk, Bool.and_eq_true] at hself
      simp only [ofKind, handler, hk, hl, renderPlainBlock, hself.2, if_true]
      exact yields_pure ⟨t, ht, rfl⟩
    | paragraph => exact yields_renderParagraph (hc (by simp [hk]))
    | tableCell => exact yields_renderCell (hc (by simp [hk])) head.isHeaderCell
    | link =>
      obtain ⟨t, hl, ht⟩ := hliteral (by simp [hk, Kind.behaviour])
      obtain ⟨target, hhref⟩ := htarget (.inl hk)
      simp only [ofKind, handler, hk, hl, hhref]
      exact yields_childrenOr (hc (by simp [hk])) ht (· ++ blockEnd)
    | image =>
      obtain ⟨t, hl, ht⟩ := hliteral (by simp [hk, Kind.behaviour])
      obtain ⟨target, hhref⟩ := htarget (.inr hk)
      simp only [ofKind, handler, hk, hl, hhref]
      exact yields_renderImage (hc (by simp [hk])) ht .image target

end Renderer

/-! ## Main result -/

/-- **Ends of blocks stay out of lines.** Take a tree in which each node is suppressed, or holds no line feed in its
literal and is of a kind that stands in a line, a cell, code, raw markup, a heading, a paragraph, a link or an image
with a target, or a quotation or a node without rules of its own that has no children, nested in any way. Then each node
of the tree renders, in every context, to one line: as it is if the node is suppressed, stands in a line or is a cell,
and closed as a block otherwise. -/
theorem ends_of_blocks_stay_outside (root : Node) (h : ∀ n ∈ root.walk, n.staysInLine = true) :
    ∀ n ∈ root.walk, ∀ labels, ∃ line, '\n' ∉ line ∧
      (Renderer.plain.renderNode n labels).result = .ok (if n.endsBlock then line ++ ['\n', '\n'] else line) := by
  intro n hn labels
  have hbelow : n.walk ⊆ root.walk :=
    Node.walk_subset (fun x hx => Node.table_eq_false_of_staysInLine (h x hx)) hn
  have hyields := Renderer.yields_renderNode fun m hm => h m (hbelow hm)
  obtain ⟨t, ht, line, hline, rfl⟩ := hyields labels
  refine ⟨line, hline, ht.trans ?_⟩
  split <;> rfl

/-- a heading around a strong text with code and a paragraph of a single link in it, and a header cell at the end -/
def crowdedHeading : Node :=
  let link := Build.link (some (.text "u")) none [.node (Build.rawHtml ['<']), .text ['l']]
  .branch .heading [Build.checkbox true,
    Build.strong [.node (Build.codeBlock ['c'] none), .node (Build.paragraph [.node link])],
    Build.tableCell true [.text ['h']]]

theorem ends_of_blocks_stay_outside_crowdedHeading :
    (∀ n ∈ crowdedHeading.walk, n.staysInLine = true) ∧ ∃ line, '\n' ∉ line ∧
      (Renderer.plain.renderNode crowdedHeading [[]]).result = .ok (line ++ ['\n', '\n']) ∧
      line = ['c', '&', 'l', 't', ';', 'l', 'h'] := by
  have hstays : ∀ n ∈ crowdedHeading.walk, n.staysInLine = true := by decide
  obtain ⟨line, hline, hreads⟩ :=
    ends_of_blocks_stay_outside crowdedHeading hstays crowdedHeading (Node.mem_walk_self _) [[]]
  refine ⟨hstays, line, hline, hreads, ?_⟩
  have hclosed : line ++ ['\n', '\n'] = ['c', '&', 'l', 't', ';', 'l', 'h'] ++ ['\n', '\n'] := Except.ok.inj hreads.symm
  exact List.append_cancel_right hclosed

end Unmark
