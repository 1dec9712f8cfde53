import Unmark.Document.Build
import Unmark.Proofs.Render.Lockstep
/-!
What rendering discards. `erase` takes from a document, at every depth, what must not show in a rendering: targets
(whether there is one stays), titles, numbering, levels, languages, the literals of suppressed nodes, the names of
unknown kinds, and whether a row is a node or a plain sequence of cells. A node and what is left of it run in
lockstep, so the rendering is a function of what is left.

Results:
- `rowNode_erase`: rows are normalised to the same node, up to what is erased;
- `lockstep_erases`: the built-in handlers cannot see what is erased;
- documents that are the same once erased render to the same text or fail with the same fault.
-/
namespace Unmark

/-! ## Erasing -/

/-- the kind, without the name of an unknown one -/
def Kind.erase : Kind → Kind
  | .other _ => .generic
  | k => k

/-- the name of an unknown kind is all that is lost -/
theorem Kind.erase_eq_iff {k j : Kind} (hknown : j.isKnown = true) (hgeneric : j ≠ .generic) : k.erase = j ↔ k = j := by
  cases k with
  | other name =>
    constructor
    · intro h
      exact absurd h.symm hgeneric
    · rintro rfl
      cases hknown
  | _ => exact Iff.rfl

/-- what a node says of itself, without what rendering discards -/
def Head.erase (head : Head) : Head where
  kind := head.kind.erase
  literal := if head.kind.behaviour = .suppressed then .text [] else head.literal
  isHeaderCell := head.isHeaderCell
  href := head.href.map fun _ => .null

namespace Node

mutual

/-- the node without what rendering discards; a row has nothing but its cells, and stands as a plain sequence of them
among the rows of a table -/
def erase (inRows : Bool) : Node → Node
  | .element head children items header rows =>
    if head.kind = .tableRow then
      if inRows then .cells (eraseAll false children) else .branch .tableRow (eraseAll false children)
    else
      .element head.erase (eraseAll false children) (eraseSome false items) (eraseSome false header)
        (eraseSome true rows)
  | .cells entries => .cells (eraseAll false entries)
  | .stray value => .stray value

def eraseAll (inRows : Bool) : List Node → List Node
  | [] => []
  | n :: rest => erase inRows n :: eraseAll inRows rest

def eraseSome (inRows : Bool) : Option (List Node) → Option (List Node)
  | none => none
  | some nodes => some (eraseAll inRows nodes)

end

theorem isEmpty_eraseAll (inRows : Bool) (nodes : List Node) : (eraseAll inRows nodes).isEmpty = nodes.isEmpty := by
  cases nodes <;> rfl

def Erases (n m : Node) : Prop := m = n.erase false

theorem forall₂_erases (nodes : List Node) : List.Forall₂ Erases nodes (eraseAll false nodes) := by
  induction nodes with
  | nil => exact .nil
  | cons n rest ih => exact .cons rfl ih

theorem hasKind_erase {k : Kind} (hknown : k.isKnown = true) (hgeneric : k ≠ .generic) (n : Node) :
    (n.erase false).hasKind k = n.hasKind k := by
  cases n with
  | element head children items header rows =>
    rw [erase]
    split
    · rename_i hrow
      simp [branch, hasKind, hrow]
    · show (head.kind.erase == k) = (head.kind == k)
      rw [Bool.eq_iff_iff, beq_iff_eq, beq_iff_eq]
      exact Kind.erase_eq_iff hknown hgeneric
  | cells entries => rfl
  | stray value => rfl

theorem rel_erases (nodes : Option (List Node)) : Option.Rel (List.Forall₂ Erases) nodes (eraseSome false nodes) := by
  cases nodes with
  | none => exact .none
  | some nodes => exact .some (forall₂_erases nodes)

theorem hasKind_of_erases (n m : Node) (h : Erases n m) : m.hasKind .tableCell = n.hasKind .tableCell := by
  rw [h]
  exact hasKind_erase rfl (by simp) n

theorem isInline_erase (n : Node) : (n.erase false).isInline = n.isInline := by
  cases n with
  | element head children items header rows =>
    rw [erase]
    split
    · rename_i hrow
      simp [branch, isInline, hrow]
    · simp only [isInline, Head.erase]
      cases head.kind <;> rfl
  | cells entries => rfl
  | stray value => rfl

/-- a row stands for what is left of the node that it stood for -/
theorem rowNode_erase (row : Node) :
    Treatment.rowNode (row.erase true) = (Treatment.rowNode row).map (erase false) := by
  cases row with
  | element head children items header rows =>
    by_cases hrow : head.kind = .tableRow
    · simp [erase, hrow, Treatment.rowNode, Except.map]
    · have hkind : head.erase.kind ≠ .tableRow := mt (Kind.erase_eq_iff rfl (by simp)).1 hrow
      simp [erase, hrow, hkind, Treatment.rowNode, Except.map]
  | cells entries => simp [erase, branch, Treatment.rowNode, Except.map]
  | stray value => rfl

theorem rowsAgree_erase (row : Node) : Treatment.RowsAgree Erases row (row.erase true) := by
  have herased := rowNode_erase row
  cases hrow : Treatment.rowNode row with
  | ok n =>
    rw [hrow] at herased
    exact .nodes hrow herased rfl
  | error f =>
    rw [hrow] at herased
    exact .fault hrow herased

theorem rel_rowsAgree (rows : Option (List Node)) :
    Option.Rel (List.Forall₂ (Treatment.RowsAgree Erases)) rows (eraseSome true rows) := by
  cases rows with
  | none => exact .none
  | some rows =>
    refine .some ?_
    induction rows with
    | nil => exact .nil
    | cons row rest ih => exact .cons (rowsAgree_erase row) ih

end Node

/-! ## The built-in handlers -/

open Node Script Treatment

theorem parallel_childrenOr {fallback : Script} (hfallback : fallback.Parallel Erases fallback) (children : List Node)
    (inline : Bool) (next : Text → Script) (hnext : ∀ t, (next t).Parallel Erases (next t)) :
    Script.Parallel Erases (if children.isEmpty then fallback else .renderChildren children inline next)
      (if (eraseAll false children).isEmpty then fallback
        else .renderChildren (eraseAll false children) inline next) := by
  rw [isEmpty_eraseAll]
  split
  · exact hfallback
  · exact .renderChildren (forall₂_erases children) hnext

theorem parallel_renderInline (literal : Literal) (children : List Node) :
    (renderInline literal children).Parallel Erases (renderInline literal (eraseAll false children)) := by
  refine parallel_childrenOr ?_ children true .done .done
  split
  · exact .done _
  · exact .fail _

theorem parallel_renderPlainBlock {kind kind' : Kind} (hk : kind = .heading ↔ kind' = .heading) (literal : Literal)
    (children : List Node) :
    (renderPlainBlock kind literal children).Parallel Erases
      (renderPlainBlock kind' literal (eraseAll false children)) := by
  unfold renderPlainBlock
  rw [isEmpty_eraseAll]
  split
  · split
    · exact .done _
    · split
      · exact .fail _
      · exact .done _
  · by_cases hheading : kind = .heading
    · rw [if_pos hheading, if_pos (hk.1 hheading)]
      exact .renderChildren (forall₂_erases children) fun t => .done _
    · rw [if_neg hheading, if_neg (mt hk.2 hheading)]
      exact .renderChildren (forall₂_erases children) fun t => .done _

theorem parallel_renderParagraph (children : List Node) :
    (renderParagraph children).Parallel Erases (renderParagraph (eraseAll false children)) := by
  have hgeneral : (Script.renderChildren children true fun t => .done (t ++ Text.blockEnd)).Parallel Erases
      (.renderChildren (eraseAll false children) true fun t => .done (t ++ Text.blockEnd)) :=
    .renderChildren (forall₂_erases children) fun t => .done _
  match children with
  | [] => exact hgeneral
  | [only] =>
    simp only [renderParagraph, eraseAll, hasKind_erase (k := .link) rfl (by simp),
      hasKind_erase (k := .image) rfl (by simp)]
    split
    · exact .render rfl .done
    · exact hgeneral
  | _ :: _ :: _ => exact hgeneral

/-- of a target, only whether there is one is looked at -/
theorem parallel_renderLink (kind : Kind) (href : Option Value) (literal : Literal) (children : List Node) :
    (renderLink kind href literal children).Parallel Erases
      (renderLink kind (href.map fun _ => .null) literal (eraseAll false children)) := by
  cases href with
  | none => exact .fail _
  | some target =>
    refine parallel_childrenOr ?_ children true _ fun t => .done _
    split
    · exact .done _
    · exact .fail _

theorem parallel_renderImage (kind : Kind) (href : Option Value) (literal : Literal) (children : List Node) :
    (renderImage kind href literal children).Parallel Erases
      (renderImage kind (href.map fun _ => .null) literal (eraseAll false children)) := by
  cases href with
  | none => exact .fail _
  | some target =>
    simp only [renderImage, Option.map_some, isEmpty_eraseAll]
    split
    · split
      · exact .done _
      · exact .fail _
    · exact .renderChildren (forall₂_erases children) fun t => .done _

theorem parallel_renderCell (isHeader : Bool) (children : List Node) :
    (renderCell isHeader children).Parallel Erases (renderCell isHeader (eraseAll false children)) := by
  refine .renderChildren (forall₂_erases children) fun t => ?_
  split
  · exact .appendLabel t (.done t)
  · exact .done t

/-- a node that is no row and what is left of it are rendered by the same handler -/
theorem parallel_handler (head : Head) (children : List Node) (items header rows : Option (List Node))
    (hrow : head.kind ≠ .tableRow) :
    ((ofKind head.kind).handler (.element head children items header rows)).Parallel Erases
      ((ofKind head.kind.erase).handler (.element head.erase (eraseAll false children) (eraseSome false items)
        (eraseSome false header) (eraseSome true rows))) := by
  have hliteral : head.kind.behaviour ≠ .suppressed → head.erase.literal = head.literal := fun h => if_neg h
  have hkind : head.erase.kind = head.kind.erase := rfl
  have hhref : head.erase.href = head.href.map fun _ => .null := rfl
  cases hk : head.kind with
  | space | horizontalRule | checkbox | lineBreak => exact .done []
  | text | strong | emphasis | codeSpan | strikethrough =>
    simp only [ofKind, handler, Kind.erase, hliteral (by simp [hk, Kind.behaviour])]
    exact parallel_renderInline head.literal children
  | codeBlock | rawHtml =>
    simp only [ofKind, handler, Kind.erase, hliteral (by simp [hk, Kind.behaviour]), renderEscaped]
    split
    · exact .done _
    · exact .fail _
  | heading | blockquote | generic | other name =>
    simp only [ofKind, handler, Kind.erase, hliteral (by simp [hk, Kind.behaviour])]
    exact parallel_renderPlainBlock (Kind.erase_eq_iff rfl (by simp)).symm head.literal children
  | paragraph => exact parallel_renderParagraph children
  | link =>
    simp only [ofKind, handler, hkind, hhref, hk, Kind.erase, hliteral (by simp [hk, Kind.behaviour])]
    exact parallel_renderLink .link head.href head.literal children
  | image =>
    simp only [ofKind, handler, hkind, hhref, hk, Kind.erase, hliteral (by simp [hk, Kind.behaviour])]
    exact parallel_renderImage .image head.href head.literal children
  | list =>
    simp only [ofKind, handler, hkind, hk, Kind.erase]
    exact parallel_renderList .list (rel_erases items)
  | listItem => exact .renderChildren (forall₂_erases children) fun t => .done _
  | table =>
    simp only [ofKind, handler, hkind, hk, Kind.erase]
    exact parallel_renderTable .table hasKind_of_erases (rel_erases header) (rel_rowsAgree rows)
  | tableRow => exact absurd hk hrow
  | tableCell => exact parallel_renderCell head.isHeaderCell children

/-- **The built-in handlers cannot see what is erased.** -/
theorem lockstep_erases : Renderer.Lockstep Erases where
  inline n m h := by
    rw [h]
    exact (isInline_erase n).symm
  scripts n m h := by
    subst h
    cases n with
    | cells entries => exact .fail _
    | stray value => exact .fail _
    | element head children items header rows =>
      rw [erase]
      by_cases hrow : head.kind = .tableRow
      · -- a row is rendered cell by cell, and all else of it is left out of account
        simp only [Renderer.builtinScript, hrow, if_true]
        exact parallel_renderCells hasKind_of_erases [] (forall₂_erases children)
      · rw [if_neg hrow]
        exact parallel_handler head children items header rows hrow

/-! ## Main result -/

/-- **What is discarded never shows.** If two documents are the same once targets, titles, numbering, levels,
languages, the literals of suppressed nodes, the names of unknown kinds and the form of rows are erased at every
depth, then they render to the same text, or fail with the same fault. -/
theorem discarded_never_shows (nodes nodes' : List Node)
    (h : Node.eraseAll false nodes = Node.eraseAll false nodes') :
    (Renderer.plain.renderToText nodes).result = (Renderer.plain.renderToText nodes').result := by
  have herased : ∀ forest, (Renderer.plain.renderToText forest).result =
      (Renderer.plain.renderToText (Node.eraseAll false forest)).result :=
    fun forest => lockstep_erases.renderToText_eq (forall₂_erases forest)
  rw [herased nodes, herased nodes', h]

/-- a link in a heading, a mark, a node of an unknown kind around code, and a table whose row is a node -/
def annotated : List Node :=
  [.element { kind := .heading, level := some 2 }
      [Build.link (some (.text "https://a")) (some (.text "title")) [.text ['l']]] none none none,
    Build.checkbox true, .branch (.other "aside") [Build.codeBlock ['c'] (some "c")],
    Build.table [.text ['k']] [.cells [.text ['v']]]]

/-- the same with another target, no title, another level, another mark, another unknown kind, another language, and
the row as a plain sequence of cells -/
def annotatedOtherwise : List Node :=
  [.element { kind := .heading, level := some 5 } [Build.link (some .null) none [.text ['l']]] none none none,
    Build.checkbox false, .branch (.other "note") [Build.codeBlock ['c'] none],
    .element { kind := .table, ordered := true } [] none (some [Build.tableCell true [.text ['k']]])
      (some [.cells [Build.tableCell false [.text ['v']]]])]

theorem discarded_never_shows_annotations :
    Node.eraseAll false annotated = Node.eraseAll false annotatedOtherwise ∧
    (Renderer.plain.renderToText annotated).result = (Renderer.plain.renderToText annotatedOtherwise).result ∧
    (Renderer.plain.renderToText annotated).result =
      .ok ['l', '\n', '\n', 'c', '\n', '\n', 'k', ':', ' ', 'v', '\n', '\n'] :=
  ⟨rfl, discarded_never_shows annotated annotatedOtherwise rfl, rfl⟩

end Unmark
