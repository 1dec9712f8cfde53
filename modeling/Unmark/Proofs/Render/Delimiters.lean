import Unmark.Document.Build
import Unmark.Proofs.Document.Walk
import Unmark.Proofs.Render.Contract
import Unmark.Proofs.Text.Tidying
/-!
Delimiters of markup in what is rendered. Code and raw markup are escaped before they go anywhere, and rendering adds
line feeds, a colon and a space of its own. So a delimiter that stands in no other literal of a document is in no text
that is rendered, and in no label either: labels are texts of header cells, and each comes back in every row.

Results:
- `meets_without`: the script of each built-in handler ends without a delimiter, and leaves none in a label;
- a document renders without a delimiter that is in no literal but those of code and raw markup.
-/
namespace Unmark

/-- the literal text of a node, unless it is code or raw markup -/
def Node.bareText : Node → Text
  | .element head _ _ _ _ =>
    match head.kind, head.literal with
    | .rawHtml, _ | .codeBlock, _ => []
    | _, .text t => t
    | _, .other _ => []
  | _ => []

/-- no text and no label has the character -/
def without (c : Char) : Contract where
  reads _ t := c ∉ t
  label t := c ∉ t

open Script Treatment Text

section

variable {c : Char}

/-! ## Texts -/

theorem delimiter_ne (hc : c ∈ delimiters) : c ≠ '\n' ∧ c ≠ ':' ∧ c ≠ ' ' := by
  rcases mem_delimiters.1 hc with rfl | rfl | rfl | rfl <;> decide

theorem not_mem_append_blockEnd (hc : c ∈ delimiters) (t : Text) (ht : c ∉ t) : c ∉ t ++ blockEnd := by
  have hne := (delimiter_ne hc).1
  simp [blockEnd, ht, hne]

theorem not_mem_trim {t : Text} (ht : c ∉ t) : c ∉ trim t := by
  intro h
  exact ht ((trim_sublist t).subset h)

theorem not_mem_intercalate {separator : Text} {texts : List Text} (hs : c ∉ separator) (ht : ∀ t ∈ texts, c ∉ t) :
    c ∉ separator.intercalate texts := by
  induction texts with
  | nil => simp
  | cons t rest ih =>
    obtain ⟨hfirst, hrest⟩ := List.forall_mem_cons.1 ht
    cases rest with
    | nil => simpa using hfirst
    | cons u more =>
      have hmore := ih hrest
      simp only [List.intercalate_cons_cons, List.mem_append, not_or]
      exact ⟨⟨hfirst, hs⟩, hmore⟩

theorem not_mem_listText (hc : c ∈ delimiters) {texts : List Text} (ht : ∀ t ∈ texts, c ∉ t) : c ∉ listText texts := by
  have hitems : c ∉ texts.flatMap squeezeNewlines := by
    intro h
    obtain ⟨t, hmem, h⟩ := List.mem_flatMap.1 h
    exact ht t hmem ((squeezeNewlines_sublist t).subset h)
  have hopened : c ∉ '\n' :: trim (texts.flatMap squeezeNewlines) := by
    rw [List.mem_cons, not_or]
    exact ⟨(delimiter_ne hc).1, not_mem_trim hitems⟩
  exact not_mem_append_blockEnd hc _ hopened

theorem not_mem_rowText (hc : c ∈ delimiters) {labels values : List Text} (hl : ∀ l ∈ labels, c ∉ l)
    (hv : ∀ v ∈ values, c ∉ v) : c ∉ rowText labels values := by
  obtain ⟨hnewline, hcolon, hspace⟩ := delimiter_ne hc
  have hlines : ∀ line ∈ rowLines labels values, c ∉ line := by
    intro line hline
    obtain ⟨⟨label, value⟩, hpair, hmade⟩ := List.mem_filterMap.1 hline
    obtain ⟨hlabel, hvalue⟩ := List.of_mem_zip hpair
    split at hmade
    · cases hmade
    · cases hmade
      simp [hl label hlabel, hv value hvalue, hcolon, hspace]
  unfold rowText
  dsimp only
  split
  · simp
  · exact not_mem_append_blockEnd hc _ (not_mem_intercalate (by simpa using hnewline) hlines)

theorem not_mem_of_joins {inline : Bool} {nodes : List Node} {t : Text} (h : (without c).Joins inline nodes t) :
    c ∉ t := by
  induction h with
  | nil => simp
  | cons first more ih =>
    rw [List.mem_append, not_or]
    refine ⟨?_, ih⟩
    split
    · exact fun h => first ((dropTrailingNewlines_sublist _).subset h)
    · exact first

theorem not_mem_of_forall₂ {nodes : List Node} {texts : List Text}
    (h : List.Forall₂ (without c).reads nodes texts) : ∀ t ∈ texts, c ∉ t := by
  induction h with
  | nil => simp
  | cons first more ih => exact List.forall_mem_cons.2 ⟨first, ih⟩

/-! ## The built-in handlers -/

theorem without_renderChildren {children : List Node} {inline : Bool} {f : Text → Text}
    (hf : ∀ t, c ∉ t → c ∉ f t) :
    (Script.renderChildren children inline fun t => .done (f t)).Meets (without c) (c ∉ ·) := by
  intro t ht
  exact hf t (not_mem_of_joins ht)

theorem without_childrenOr {children : List Node} {inline : Bool} {fallback : Script} {f : Text → Text}
    (hfallback : fallback.Meets (without c) (c ∉ ·)) (hf : ∀ t, c ∉ t → c ∉ f t) :
    Script.Meets (without c)
      (if children.isEmpty then fallback else .renderChildren children inline fun t => .done (f t)) (c ∉ ·) := by
  split
  · exact hfallback
  · exact without_renderChildren hf

theorem without_renderInline {literal : Literal} (hl : ∀ t, literal = .text t → c ∉ t) (children : List Node) :
    (renderInline literal children).Meets (without c) (c ∉ ·) := by
  refine without_childrenOr ?_ fun _ h => h
  cases literal with
  | text t => exact hl t rfl
  | other v => trivial

/-- whatever the literal is, none of its delimiters is left -/
theorem without_renderEscaped (hc : c ∈ delimiters) (literal : Literal) :
    (renderEscaped literal).Meets (without c) (c ∉ ·) := by
  cases literal with
  | text t => exact not_mem_append_blockEnd hc _ (not_mem_escapeHtml hc t)
  | other v => trivial

theorem without_renderPlainBlock (hc : c ∈ delimiters) {literal : Literal} (hl : ∀ t, literal = .text t → c ∉ t)
    (kind : Kind) (children : List Node) : (renderPlainBlock kind literal children).Meets (without c) (c ∉ ·) := by
  unfold renderPlainBlock
  split
  · cases literal with
    | text t => exact not_mem_append_blockEnd hc t (hl t rfl)
    | other v =>
      dsimp only
      split
      · trivial
      · exact not_mem_append_blockEnd hc [] (by simp)
  · split
    · exact without_renderChildren (not_mem_append_blockEnd hc)
    · refine without_renderChildren fun t ht => ?_
      exact not_mem_append_blockEnd hc _ (not_mem_trim ht)

theorem without_renderParagraph (hc : c ∈ delimiters) (children : List Node) :
    (renderParagraph children).Meets (without c) (c ∉ ·) := by
  have hgeneral : (Script.renderChildren children true fun t => .done (t ++ blockEnd)).Meets (without c) (c ∉ ·) :=
    without_renderChildren (not_mem_append_blockEnd hc)
  unfold renderParagraph
  split
  · split
    · exact fun t ht => ht
    · exact hgeneral
  · exact hgeneral

theorem without_renderLink (hc : c ∈ delimiters) {literal : Literal} (hl : ∀ t, literal = .text t → c ∉ t)
    (kind : Kind) (href : Option Value) (children : List Node) :
    (renderLink kind href literal children).Meets (without c) (c ∉ ·) := by
  unfold renderLink
  split
  · trivial
  · refine without_childrenOr ?_ (not_mem_append_blockEnd hc)
    cases literal with
    | text t => exact not_mem_append_blockEnd hc t (hl t rfl)
    | other v => trivial

theorem without_renderImage (hc : c ∈ delimiters) {literal : Literal} (hl : ∀ t, literal = .text t → c ∉ t)
    (kind : Kind) (href : Option Value) (children : List Node) :
    (renderImage kind href literal children).Meets (without c) (c ∉ ·) := by
  unfold renderImage
  split
  · trivial
  · split
    · cases literal with
      | text t => exact not_mem_append_blockEnd hc t (hl t rfl)
      | other v => trivial
    · exact without_renderChildren (not_mem_append_blockEnd hc)

theorem without_renderList (hc : c ∈ delimiters) (kind : Kind) (items : Option (List Node)) :
    (renderList kind items).Meets (without c) (c ∉ ·) := by
  unfold renderList
  split
  · trivial
  · exact List.not_mem_nil
  · exact meets_renderOneByOne fun texts htexts => not_mem_listText hc (not_mem_of_forall₂ htexts)

theorem without_renderHeader {next : Script} (hnext : next.Meets (without c) (c ∉ ·)) (entries : List Node) :
    (renderHeader next entries).Meets (without c) (c ∉ ·) := by
  induction entries with
  | nil => exact hnext
  | cons entry rest ih =>
    rw [renderHeader]
    split
    · exact fun t _ => ih
    · trivial

theorem without_renderRows {before : Option Text} (hb : ∀ b, before = some b → c ∉ b) (rows : List Node) :
    (renderRows before rows).Meets (without c) (c ∉ ·) := by
  induction rows generalizing before with
  | nil =>
    cases before with
    | some b => exact hb b rfl
    | none => trivial
  | cons row rest ih =>
    rw [renderRows]
    split
    · intro t ht
      refine ih fun b hjoined => ?_
      obtain ⟨earlier, hearlier, hmore⟩ := Option.bind_eq_some_iff.1 hjoined
      obtain ⟨own, hown, rfl⟩ := Option.map_eq_some_iff.1 hmore
      rw [List.mem_append, not_or]
      exact ⟨hb earlier hearlier, ht own hown⟩
    · trivial

theorem without_renderTable (kind : Kind) (header rows : Option (List Node)) :
    (renderTable kind header rows).Meets (without c) (c ∉ ·) := by
  unfold renderTable
  split
  · trivial
  · split
    · trivial
    · exact ⟨_, without_renderHeader (without_renderRows (by simp) _) _, fun t ht => ht⟩

/-- a row reads labels and puts them before its values -/
theorem without_renderCells (hc : c ∈ delimiters) {before : List Text} (hb : ∀ t ∈ before, c ∉ t) (cells : List Node) :
    (renderCells before cells).Meets (without c) (c ∉ ·) := by
  induction cells generalizing before with
  | nil =>
    intro labels hlabels
    exact not_mem_rowText hc hlabels fun v hv => hb v (List.mem_reverse.1 hv)
  | cons cell rest ih =>
    rw [renderCells]
    split
    · intro t ht
      have hvalue : c ∉ t.getD [] := by
        cases t with
        | some own => exact ht own rfl
        | none => exact List.not_mem_nil
      exact ih (List.forall_mem_cons.2 ⟨hvalue, hb⟩)
    · trivial

/-- a header cell leaves its text as a label -/
theorem without_renderCell (isHeader : Bool) (children : List Node) :
    (renderCell isHeader children).Meets (without c) (c ∉ ·) := by
  intro t ht
  have htext := not_mem_of_joins ht
  split
  · exact ⟨htext, htext⟩
  · exact htext

/-- the literal of a node counts unless the node is escaped, or is a row, which has nothing but its cells -/
theorem meets_without (hc : c ∈ delimiters) (head : Head) (children : List Node)
    (items header rows : Option (List Node))
    (hbare : head.kind ≠ .tableRow → c ∉ (Node.element head children items header rows).bareText) :
    ((ofKind head.kind).handler (.element head children items header rows)).Meets (without c) (c ∉ ·) := by
  have hliteral : head.kind ≠ .tableRow ∧ head.kind ≠ .rawHtml ∧ head.kind ≠ .codeBlock →
      ∀ t, head.literal = .text t → c ∉ t := by
    rintro ⟨hrow, hhtml, hcode⟩ t ht
    have hbare := hbare hrow
    unfold Node.bareText at hbare
    split at hbare <;> simp_all
  cases hk : head.kind with
  | space | horizontalRule | checkbox | lineBreak => exact List.not_mem_nil
  | codeBlock | rawHtml => exact without_renderEscaped hc head.literal
  | text | strong | emphasis | codeSpan | strikethrough =>
    exact without_renderInline (hliteral (by simp [hk])) children
  | heading | blockquote | generic | other name =>
    exact without_renderPlainBlock hc (hliteral (by simp [hk])) head.kind children
  | paragraph => exact without_renderParagraph hc children
  | link => exact without_renderLink hc (hliteral (by simp [hk])) head.kind head.href children
  | image => exact without_renderImage hc (hliteral (by simp [hk])) head.kind head.href children
  | list => exact without_renderList hc head.kind items
  | listItem =>
    refine without_renderChildren fun t ht => ?_
    rw [List.mem_cons, not_or]
    exact ⟨(delimiter_ne hc).1, not_mem_trim ht⟩
  | table => exact without_renderTable head.kind header rows
  | tableRow => exact without_renderCells hc (by simp) children
  | tableCell => exact without_renderCell head.isHeaderCell children

end

/-! ## Main result -/

namespace Node

/-- no literal in the walk over the node has the character but those that are escaped and those of rows -/
def BareOf (c : Char) (n : Node) : Prop := ∀ m ∈ n.walk, m.hasKind .tableRow = true ∨ c ∉ m.bareText

theorem BareOf.of_isPart {c : Char} {n m : Node} (h : IsPart n m) (hm : m.BareOf c) : n.BareOf c :=
  forall_walk_of_isPart h hm

end Node

/-- **Delimiters of code and raw markup are never rendered.** If a delimiter is in no literal of a document but those
of code and raw markup, wherever these stand, then it is in no text that the document renders to. -/
theorem delimiters_escaped (nodes : List Node) (c : Char) (hc : c ∈ delimiters)
    (hbare : ∀ n ∈ Node.walkAll nodes, c ∉ n.bareText) (t : Text)
    (ht : (Renderer.plain.renderToText nodes).result = .ok t) : c ∉ t := by
  have hcovered : ∀ n ∈ nodes, n.BareOf c := fun n hn m hm => .inr (hbare m (Node.mem_walkAll.2 ⟨n, hn, hm⟩))
  refine not_mem_of_joins (Renderer.joins_of_renderToText (fun n m => Node.BareOf.of_isPart) ?_ hcovered ht)
  intro head children items header rows hn
  refine meets_without hc head children items header rows fun hrow => ?_
  rcases hn _ (Node.mem_walk_self _) with hself | hself
  · exact absurd (by simpa [Node.hasKind] using hself) hrow
  · exact hself

/-- a table with markup for a label and code for a value, under a link whose target is markup -/
def taggedTable : List Node :=
  let header := [Build.tableCell true [.node (Build.rawHtml ['<', 'b', '>'])]]
  let row : Node := .cells [Build.tableCell false [.node (Build.codeBlock ['a', '<'] none)]]
  [Build.link (some (.text "<u>")) none
    [.node (.element { kind := .table } [] none (some header) (some [row, row]))]]

theorem delimiters_escaped_in_labels :
    '<' ∈ delimiters ∧ (∀ n ∈ Node.walkAll taggedTable, '<' ∉ n.bareText) ∧
    ∃ t, (Renderer.plain.renderToText taggedTable).result = .ok t ∧
      t = ['&', 'l', 't', ';', 'b', '&', 'g', 't', ';', ':', ' ', 'a', '&', 'l', 't', ';', '\n', '\n',
        '&', 'l', 't', ';', 'b', '&', 'g', 't', ';', ':', ' ', 'a', '&', 'l', 't', ';', '\n', '\n'] ∧ '<' ∉ t :=
  ⟨by decide, by decide, _, rfl, rfl, delimiters_escaped taggedTable '<' (by decide) (by decide) _ rfl⟩

end Unmark
