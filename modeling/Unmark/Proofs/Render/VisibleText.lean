import Unmark.Document.Build
import Unmark.Proofs.Document.Walk
import Unmark.Proofs.Render.Contract
import Unmark.Proofs.Text.Tidying
/-!
No visible text is lost, doubled or moved. `visible` reads off a tree which text shows, by kind and in document order,
and knows nothing of separators and line breaks. On its way out the text is trimmed, squeezed and separated at every
level; all of this happens to blanks only, so the ink of a rendering is the ink of the visible text.

Tables are left out: a header cell shows once for every row, and a cell without a label not at all.

Results:
- `meets_showing`: the script of each built-in handler ends with the ink of the visible text of its node;
- a document without tables and rows that renders to a text renders to the ink of its visible text, with blanks
  between.
-/
namespace Unmark

def Head.text (head : Head) : Text :=
  match head.literal with
  | .text t => t
  | .other _ => []

namespace Node

/-! ## The text that shows -/

mutual

/-- the text of a node that shows, for nodes without tables and rows -/
def visible : Node → Text
  | .element head children items _ _ =>
    match head.kind with
    | .space | .horizontalRule | .checkbox | .lineBreak => []
    | .codeBlock | .rawHtml => Text.escapeHtml head.text
    | .paragraph | .listItem | .tableCell => visibleAll children
    | .list => visibleSome items
    | .image => if head.text.isEmpty then visibleAll children else head.text
    | .table | .tableRow => []
    | _ => if children.isEmpty then head.text else visibleAll children
  | _ => []

def visibleAll : List Node → Text
  | [] => []
  | n :: rest => visible n ++ visibleAll rest

def visibleSome : Option (List Node) → Text
  | none => []
  | some nodes => visibleAll nodes

end

end Node

/-! ## The contract -/

/-- each node reads as its visible text, up to blanks -/
def showing : Contract where
  reads n t := Text.ink t = Text.ink n.visible
  label _ := True

open Script Treatment Text

theorem ink_joins {inline : Bool} {nodes : List Node} {t : Text} (h : showing.Joins inline nodes t) :
    ink t = ink (Node.visibleAll nodes) := by
  induction h with
  | nil => rfl
  | cons first more ih =>
    have hfirst : ink _ = ink _ := first
    rw [Node.visibleAll, ink_append, ink_append, ih, ← hfirst]
    split
    · rw [ink_dropTrailingNewlines]
    · rfl

theorem ink_flatten {nodes : List Node} {texts : List Text} (h : List.Forall₂ showing.reads nodes texts) :
    ink texts.flatten = ink (Node.visibleAll nodes) := by
  induction h with
  | nil => rfl
  | cons first more ih =>
    have hfirst : ink _ = ink _ := first
    rw [List.flatten_cons, Node.visibleAll, ink_append, ink_append, hfirst, ih]

theorem ink_listText (texts : List Text) : ink (listText texts) = ink texts.flatten := by
  rw [listText, ink_append, ink_newline, ink_trim, ink_flatMap_squeezeNewlines, ink_blockEnd, List.append_nil]

theorem ink_append_blockEnd (t : Text) : ink (t ++ blockEnd) = ink t := by
  rw [ink_append, ink_blockEnd, List.append_nil]

/-! ## The built-in handlers -/

/-- children that are joined, tidied and closed -/
theorem showing_renderChildren {children : List Node} {inline : Bool} {f : Text → Text} (hf : ∀ t, ink (f t) = ink t) :
    (Script.renderChildren children inline fun t => .done (f t)).Meets showing
      fun t => ink t = ink (Node.visibleAll children) := by
  intro t ht
  rw [Meets, hf]
  exact ink_joins ht

/-- the same where something else shows if there are no children -/
theorem showing_childrenOr {children : List Node} {inline : Bool} {fallback : Script} {f : Text → Text} {shown : Text}
    (hfallback : fallback.Meets showing fun t => ink t = ink shown) (hf : ∀ t, ink (f t) = ink t) :
    Script.Meets showing (if children.isEmpty then fallback else .renderChildren children inline fun t => .done (f t))
      fun t => ink t = ink (if children.isEmpty then shown else Node.visibleAll children) := by
  split
  · exact hfallback
  · exact showing_renderChildren hf

theorem showing_renderInline (head : Head) (children : List Node) :
    (renderInline head.literal children).Meets showing
      fun t => ink t = ink (if children.isEmpty then head.text else Node.visibleAll children) := by
  refine showing_childrenOr ?_ fun _ => rfl
  unfold Head.text
  cases head.literal with
  | text t => exact rfl
  | other v => trivial

theorem showing_renderEscaped (head : Head) :
    (renderEscaped head.literal).Meets showing fun t => ink t = ink (escapeHtml head.text) := by
  unfold Head.text
  cases head.literal with
  | text t => exact ink_append_blockEnd _
  | other v => trivial

theorem showing_renderPlainBlock (head : Head) (children : List Node) :
    (renderPlainBlock head.kind head.literal children).Meets showing
      fun t => ink t = ink (if children.isEmpty then head.text else Node.visibleAll children) := by
  have hliteral : (match head.literal with
      | .text t => .done (t ++ blockEnd)
      | .other v => if v.truthy then .fail .wrongType else .done blockEnd : Script).Meets showing
        fun t => ink t = ink head.text := by
    unfold Head.text
    cases head.literal with
    | text t => exact ink_append_blockEnd t
    | other v =>
      dsimp only
      split
      · trivial
      · exact ink_blockEnd
  unfold renderPlainBlock
  by_cases hk : head.kind = .heading
  · simp only [hk, if_true]
    exact showing_childrenOr hliteral ink_append_blockEnd
  · simp only [hk, if_false]
    exact showing_childrenOr hliteral fun t => by rw [ink_append_blockEnd, ink_trim]

theorem showing_renderParagraph (children : List Node) :
    (renderParagraph children).Meets showing fun t => ink t = ink (Node.visibleAll children) := by
  have hgeneral : (Script.renderChildren children true fun t => .done (t ++ blockEnd)).Meets showing
      fun t => ink t = ink (Node.visibleAll children) := showing_renderChildren ink_append_blockEnd
  unfold renderParagraph
  split
  · rename_i only
    split
    · intro t ht
      rw [Node.visibleAll, Node.visibleAll, List.append_nil]
      exact ht
    · exact hgeneral
  · exact hgeneral

theorem showing_renderLink (head : Head) (children : List Node) :
    (renderLink head.kind head.href head.literal children).Meets showing
      fun t => ink t = ink (if children.isEmpty then head.text else Node.visibleAll children) := by
  unfold renderLink
  split
  · trivial
  · refine showing_childrenOr ?_ ink_append_blockEnd
    unfold Head.text
    cases head.literal with
    | text t => exact ink_append_blockEnd t
    | other v => trivial

theorem showing_renderImage (head : Head) (children : List Node) :
    (renderImage head.kind head.href head.literal children).Meets showing
      fun t => ink t = ink (if head.text.isEmpty then Node.visibleAll children else head.text) := by
  unfold renderImage
  cases head.href with
  | none => trivial
  | some target =>
    dsimp only
    by_cases hchildren : (head.literal.truthy || children.isEmpty) = true
    · rw [if_pos hchildren]
      unfold Head.text
      cases hl : head.literal with
      | other v => trivial
      | text t =>
        -- without alternative text, there are no children that could show instead
        rw [Meets, ink_append_blockEnd]
        cases t with
        | cons c rest => rfl
        | nil =>
          rw [hl, Literal.truthy] at hchildren
          rw [List.isEmpty_iff.1 hchildren]
          rfl
    · rw [if_neg hchildren]
      have hblank : head.text.isEmpty = true := by
        unfold Head.text
        cases hl : head.literal with
        | other v => rfl
        | text t => simp_all [Literal.truthy]
      rw [if_pos hblank]
      exact showing_renderChildren ink_append_blockEnd

theorem showing_renderList (kind : Kind) (items : Option (List Node)) :
    (renderList kind items).Meets showing fun t => ink t = ink (Node.visibleSome items) := by
  unfold renderList
  split
  · trivial
  · rfl
  · refine meets_renderOneByOne fun texts htexts => ?_
    show ink (listText texts) = _
    rw [ink_listText, ink_flatten htexts]
    rfl

theorem showing_renderCell (isHeader : Bool) (children : List Node) :
    (renderCell isHeader children).Meets showing fun t => ink t = ink (Node.visibleAll children) := by
  intro t ht
  have hink := ink_joins ht
  split
  · exact ⟨trivial, hink⟩
  · exact hink

/-- **Each handler shows the visible text of its node.** -/
theorem meets_showing (head : Head) (children : List Node) (items header rows : Option (List Node))
    (htable : head.kind ≠ .table) (hrow : head.kind ≠ .tableRow) :
    ((ofKind head.kind).handler (.element head children items header rows)).Meets showing
      (showing.reads (.element head children items header rows)) := by
  unfold showing
  cases hk : head.kind with
  | space | horizontalRule | checkbox | lineBreak => simp [ofKind, handler, Meets, Node.visible, hk]
  | codeBlock | rawHtml =>
    simp only [ofKind, handler, Node.visible, hk]
    exact showing_renderEscaped head
  | text | strong | emphasis | codeSpan | strikethrough =>
    simp only [ofKind, handler, Node.visible, hk]
    exact showing_renderInline head children
  | heading | blockquote | generic | other name =>
    have hblock := showing_renderPlainBlock head children
    simp only [ofKind, handler, Node.visible, hk] at hblock ⊢
    exact hblock
  | paragraph =>
    simp only [ofKind, handler, Node.visible, hk]
    exact showing_renderParagraph children
  | link =>
    have hlink := showing_renderLink head children
    simp only [ofKind, handler, Node.visible, hk] at hlink ⊢
    exact hlink
  | image =>
    have himage := showing_renderImage head children
    simp only [ofKind, handler, Node.visible, hk] at himage ⊢
    exact himage
  | list =>
    simp only [ofKind, handler, Node.visible, hk]
    exact showing_renderList _ items
  | listItem =>
    simp only [ofKind, handler, Node.visible, hk]
    exact showing_renderChildren fun t => by rw [ink_newline, ink_trim]
  | tableCell =>
    simp only [ofKind, handler, Node.visible, hk]
    exact showing_renderCell head.isHeaderCell children
  | table => exact absurd hk htable
  | tableRow => exact absurd hk hrow

/-! ## Main result -/

namespace Node

/-- no table and no row is in the walk over the node -/
def TableFree (n : Node) : Prop := ∀ m ∈ n.walk, m.hasKind .table = false ∧ m.hasKind .tableRow = false

theorem TableFree.of_isPart {n m : Node} (h : IsPart n m) (hm : m.TableFree) : n.TableFree := by
  intro x hx
  exact hm x (walk_subset_of_isPart (hm m m.mem_walk_self).1 h hx)

end Node

/-- **No visible text is lost, doubled or moved.** If a document without tables and rows renders to a text, then that
text without its blanks is the visible text of the document without its blanks. -/
theorem visible_text_kept (nodes : List Node)
    (hfree : ∀ n ∈ Node.walkAll nodes, n.hasKind .table = false ∧ n.hasKind .tableRow = false) (t : Text)
    (ht : (Renderer.plain.renderToText nodes).result = .ok t) : ink t = ink (Node.visibleAll nodes) := by
  have hcovered : ∀ n ∈ nodes, n.TableFree := fun n hn m hm => hfree m (Node.mem_walkAll.2 ⟨n, hn, hm⟩)
  refine ink_joins (Renderer.joins_of_renderToText (fun n m => Node.TableFree.of_isPart) ?_ hcovered ht)
  intro head children items header rows hn
  have hself := hn _ (Node.mem_walk_self _)
  simp only [Node.hasKind, beq_eq_false_iff_ne] at hself
  exact meets_showing head children items header rows hself.1 hself.2

/-- a quotation with a task list, in whose items stand code with a blank line and a paragraph of a single link -/
def quotedTasks : List Node :=
  let code := Build.listItem [.node (Build.checkbox true), .node (Build.codeBlock ['<', '\n', '\n', 'c'] none)]
  let link := Build.listItem [.node (Build.paragraph [.node (Build.link (some (.text "u")) none [.text ['d', ' ']])])]
  [Build.blockquote
    [.node (Build.paragraph [.text [' ', 'a'], .node (Build.strong [.text ['\n', 'b']])]), .node Build.space,
      .node (Build.list true [.node code, .node link])]]

theorem visible_text_kept_quoted :
    (∀ n ∈ Node.walkAll quotedTasks, n.hasKind .table = false ∧ n.hasKind .tableRow = false) ∧
    (Renderer.plain.renderToText quotedTasks).result =
      .ok ['a', '\n', 'b', '\n', '\n', '\n', '&', 'l', 't', ';', '\n', 'c', '\n', 'd', '\n', '\n'] ∧
    ink (Node.visibleAll quotedTasks) = ['a', 'b', '&', 'l', 't', ';', 'c', 'd'] :=
  ⟨by decide, rfl, (visible_text_kept quotedTasks (by decide) _ rfl).symm⟩

end Unmark
