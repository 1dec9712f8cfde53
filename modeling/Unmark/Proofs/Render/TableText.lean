import Mathlib.Data.List.Forall2
import Unmark.Document.Build
import Unmark.Proofs.Render.Isolation
/-!
The text of a table in closed form. Header cells of a table leave their texts as labels, in order; body cells leave
none, and what happens inside of a cell stays there (`sealed_of_labelFree`). So all rows meet the labels of the
header and nothing else, and each cell reads as it would on its own.

Results:
- `rowText_eq_rowBlock`: the text of a row, said by positions: one line for each position that has a label and a
  value that is not empty;
- the built-in rendering of a table whose header holds header cells and whose rows hold body cells succeeds with a
  text exactly if every cell renders on its own, and the text is the blocks of the rows one after the other.
-/
namespace Unmark

/-! ## Rows by position -/

/-- the positions of a row that make a line: a label and a value stand there, and the value is not empty -/
def linePositions (labels values : List Text) : List Nat :=
  (List.range (min labels.length values.length)).filter fun i => !(values.getD i []).isEmpty

/-- the line that a label and a value make -/
def lineAt (labels values : List Text) (i : Nat) : Text :=
  labels.getD i [] ++ [':', ' '] ++ values.getD i []

/-- the block of a row: its lines, a line feed between them and two at the end, or nothing if there is no line -/
def rowBlock (labels values : List Text) : Text :=
  match linePositions labels values with
  | [] => []
  | positions => ['\n'].intercalate (positions.map (lineAt labels values)) ++ ['\n', '\n']

theorem linePositions_cons (label value : Text) (labels values : List Text) :
    linePositions (label :: labels) (value :: values) =
      (if value.isEmpty then [] else [0]) ++ (linePositions labels values).map Nat.succ := by
  have hmin : min (label :: labels).length (value :: values).length = min labels.length values.length + 1 := by
    simp only [List.length_cons]; omega
  rw [linePositions, hmin, List.range_succ_eq_map, List.filter_cons, List.filter_map]
  cases hv : value.isEmpty <;> simp [hv, linePositions, Function.comp_def]

theorem rowLines_eq_map (labels values : List Text) :
    Treatment.rowLines labels values = (linePositions labels values).map (lineAt labels values) := by
  induction labels generalizing values with
  | nil => simp [Treatment.rowLines, linePositions]
  | cons label labels ih =>
    cases values with
    | nil => simp [Treatment.rowLines, linePositions]
    | cons value values =>
      have hcons : Treatment.rowLines (label :: labels) (value :: values) =
          (if value.isEmpty then [] else [label ++ [':', ' '] ++ value]) ++ Treatment.rowLines labels values := by
        cases value <;> rfl
      rw [hcons, ih, linePositions_cons, List.map_append, List.map_map]
      congr 1
      cases hv : value.isEmpty <;> simp [lineAt]

theorem rowText_eq_rowBlock (labels values : List Text) : Treatment.rowText labels values = rowBlock labels values := by
  rw [Treatment.rowText, rowLines_eq_map, rowBlock]
  cases linePositions labels values <;> rfl

/-! ## Cells on their own -/

namespace Node

/-- a cell of a header: marked as one, with nothing in it that touches the labels of the table around -/
def isHeaderEntry : Node → Bool
  | .element head children _ _ _ => head.kind == .tableCell && head.isHeaderCell && labelFreeAll children
  | _ => false

/-- a cell of a body: not marked as a header cell, and again with nothing in it that touches labels -/
def isBodyCell : Node → Bool
  | .element head children _ _ _ => head.kind == .tableCell && !head.isHeaderCell && labelFreeAll children
  | _ => false

/-- a row of such cells, as a node or as a plain sequence -/
def isBodyRow : Node → Bool
  | .element head children _ _ _ => head.kind == .tableRow && children.all isBodyCell
  | .cells entries => entries.all isBodyCell
  | .stray _ => false

theorem labelFree_of_isBodyCell {n : Node} (h : n.isBodyCell = true) : n.labelFree = true := by
  cases n with
  | element head children items header rows =>
    simp only [isBodyCell, Bool.and_eq_true, beq_iff_eq] at h
    simp [labelFree, h]
  | cells entries => cases h
  | stray value => cases h

theorem hasKind_of_isBodyCell {n : Node} (h : n.isBodyCell = true) : n.hasKind .tableCell = true := by
  cases n with
  | element head children items header rows =>
    simp only [isBodyCell, Bool.and_eq_true] at h
    exact h.1.1
  | cells entries => cases h
  | stray value => cases h

theorem hasKind_of_isHeaderEntry {n : Node} (h : n.isHeaderEntry = true) : n.hasKind .tableCell = true := by
  cases n with
  | element head children items header rows =>
    simp only [isHeaderEntry, Bool.and_eq_true] at h
    exact h.1.1
  | cells entries => cases h
  | stray value => cases h

end Node

namespace Renderer

open Render Treatment

/-- the node renders to the text on its own, in a fresh context -/
def RendersTo (n : Node) (t : Text) : Prop := (plain.renderNode n []).result = .ok t

/-- the nodes render to the texts, each on its own -/
def RenderTo (nodes : List Node) (texts : List Text) : Prop := List.Forall₂ RendersTo nodes texts

theorem renderNode_bodyCell {n : Node} (h : n.isBodyCell = true) (labels : LabelStack) :
    (plain.renderNode n labels).labels = labels ∧
      ∀ t, (plain.renderNode n labels).result = .ok t ↔ RendersTo n t := by
  obtain ⟨r, events, hs⟩ := sealed_of_labelFree (Node.labelFree_of_isBodyCell h)
  simp [RendersTo, hs]

/-- ends in the same way on every stack, and leaves its text as a label if it has one -/
def Labelling (x : Render Text) : Prop :=
  ∃ (result : Except Fault Text) (events : List Event), ∀ labels, x labels =
    ⟨result, match result with | .ok t => addLabel t labels | .error _ => labels, events⟩

theorem labelling_append {x : Render Text} (hx : Sealed x) :
    Labelling (x >>= fun t => append t >>= fun _ => Pure.pure t) := by
  obtain ⟨r, events, hs⟩ := hx
  cases r with
  | ok t =>
    refine ⟨.ok t, events ++ [], fun labels => ?_⟩
    rw [bind_ok (congrArg Outcome.result (hs labels)), hs]
    rfl
  | error e =>
    refine ⟨.error e, events, fun labels => ?_⟩
    rw [bind_error (congrArg Outcome.result (hs labels)), hs]

theorem Labelling.note {x : Render Text} (hx : Labelling x) (events : List Event) :
    Labelling (note events >>= fun _ => x) := by
  obtain ⟨r, more, hx⟩ := hx
  refine ⟨r, events ++ more, fun labels => ?_⟩
  show Render.bind (Render.note events) (fun _ => x) labels = _
  simp only [Render.bind, Render.note, hx]

theorem renderNode_headerEntry {n : Node} (h : n.isHeaderEntry = true) : Labelling (plain.renderNode n) := by
  cases n with
  | element head children items header rows =>
    simp only [Node.isHeaderEntry, Bool.and_eq_true, beq_iff_eq] at h
    obtain ⟨⟨hk, hflag⟩, hfree⟩ := h
    have hchildren : Sealed (inOrder plain.renderNode true children) :=
      compositional_sealed.inOrder (fun n hn => sealed_of_labelFree (Node.labelFreeAll_iff.1 hfree n hn)) true
    simp only [renderNode_element, hk, ofKind, handler, renderCell, hflag]
    exact (labelling_append hchildren).note _
  | cells entries => cases h
  | stray value => cases h

/-! ## Cells, rows and headers -/

/-- leaves every stack as it is -/
def Still {α : Type} (x : Render α) : Prop := ∀ labels, (x labels).labels = labels

theorem Still.bind {α β : Type} {x : Render α} {f : α → Render β} (hx : Still x) (hf : ∀ a, Still (f a)) :
    Still (x >>= f) := by
  intro labels
  cases h : (x labels).result with
  | ok a => rw [bind_ok h]; exact (hf a _).trans (hx labels)
  | error e => rw [bind_error h]; exact hx labels

theorem compositional_still : Compositional @Still where
  pure _ _ := rfl
  fail _ _ := rfl
  note _ _ := rfl
  bind := .bind
  attempt hx := hx

theorem still_renderCells {cells : List Node} (hc : ∀ c ∈ cells, Still (plain.renderNode c)) (before : List Text) :
    Still (perform plain.renderNode (renderCells before cells)) := by
  induction cells generalizing before with
  | nil => exact fun labels => rfl
  | cons c rest ih =>
    obtain ⟨hcell, hrest⟩ := List.forall_mem_cons.1 hc
    rw [renderCells]
    split
    · exact (compositional_still.text? hcell).bind fun t => ih hrest _
    · exact compositional_still.fail _

theorem perform_renderCells {cells : List Node} (hc : ∀ c ∈ cells, c.isBodyCell = true) (before : List Text)
    (labels : LabelStack) (t : Text) :
    (perform plain.renderNode (renderCells before cells) labels).result = .ok t ↔
      ∃ values, RenderTo cells values ∧ t = rowText (labels.headD []) (before.reverse ++ values) := by
  induction cells generalizing before with
  | nil =>
    have hnil : (perform plain.renderNode (renderCells before []) labels).result =
        .ok (rowText (labels.headD []) before.reverse) := rfl
    simp [hnil, RenderTo, eq_comm]
  | cons c rest ih =>
    obtain ⟨hcell, hrest⟩ := List.forall_mem_cons.1 hc
    obtain ⟨hlabels, hresult⟩ := renderNode_bodyCell hcell labels
    have hkind := Node.hasKind_of_isBodyCell hcell
    simp only [renderCells, hkind, if_true, perform_renderAny (worded_tableCell hkind), Option.getD_some,
      bind_eq_ok_iff, hlabels, hresult, ih hrest]
    constructor
    · rintro ⟨value, hv, values, hvs, rfl⟩
      exact ⟨value :: values, .cons hv hvs, by simp⟩
    · rintro ⟨_, hvs, rfl⟩
      cases hvs with
      | cons hv hvs => exact ⟨_, hv, _, hvs, by simp⟩

/-- a row reads as the labels that it meets and the values of its cells say, and leaves those labels as they are -/
theorem renderNode_bodyRow {row : Node} (h : row.isBodyRow = true) :
    ∃ n, rowNode row = .ok n ∧ Still (plain.renderNode n) ∧ ∀ labels t,
      (plain.renderNode n labels).result = .ok t ↔
        ∃ values, RenderTo row.rowCells values ∧ t = rowText (labels.headD []) values := by
  -- a sequence of cells is rendered as the node made for it, so both kinds of row come down to this
  have helement : ∀ head children items header rows, head.kind = .tableRow → (∀ c ∈ children, c.isBodyCell = true) →
      Still (plain.renderNode (.element head children items header rows)) ∧ ∀ labels t,
        (plain.renderNode (.element head children items header rows) labels).result = .ok t ↔
          ∃ values, RenderTo children values ∧ t = rowText (labels.headD []) values := by
    intro head children items header rows hk hc
    have hstill : Still (note (plain.missingRule head.kind)) := fun _ => rfl
    rw [renderNode_element, hk]
    have hcells : ∀ c ∈ children, Still (plain.renderNode c) := fun c hmem labels =>
      (renderNode_bodyCell (hc c hmem) labels).1
    exact ⟨hstill.bind fun _ => still_renderCells hcells [], fun labels t => perform_renderCells hc [] labels t⟩
  cases row with
  | element head children items header rows =>
    simp only [Node.isBodyRow, Bool.and_eq_true, beq_iff_eq, List.all_eq_true] at h
    exact ⟨_, by simp only [rowNode, h.1, if_true], helement head children items header rows h.1 h.2⟩
  | cells entries => exact ⟨_, rfl, helement _ entries none none none rfl (List.all_eq_true.1 h)⟩
  | stray value => cases h

theorem perform_renderRows {rows : List Node} (hr : ∀ row ∈ rows, row.isBodyRow = true) (before : Text)
    (labels : LabelStack) (t : Text) :
    (perform plain.renderNode (renderRows (some before) rows) labels).result = .ok t ↔
      ∃ values, List.Forall₂ (fun row => RenderTo row.rowCells) rows values ∧
        t = before ++ values.flatMap (rowText (labels.headD [])) := by
  induction rows generalizing before with
  | nil =>
    have hnil : (perform plain.renderNode (renderRows (some before) []) labels).result = .ok before := rfl
    simp [hnil, eq_comm]
  | cons row rest ih =>
    obtain ⟨hrow, hrest⟩ := List.forall_mem_cons.1 hr
    obtain ⟨n, hn, hstill, hresult⟩ := renderNode_bodyRow hrow
    simp only [renderRows, hn, perform_renderAny (worded_rowNode hn), bind_eq_ok_iff, hstill labels, hresult,
      Option.bind_some, Option.map_some, ih hrest]
    constructor
    · rintro ⟨_, ⟨values, hv, rfl⟩, more, hvs, rfl⟩
      exact ⟨values :: more, .cons hv hvs, by simp⟩
    · rintro ⟨_, hvs, rfl⟩
      cases hvs with
      | cons hv hvs => exact ⟨_, ⟨_, hv, rfl⟩, _, hvs, by simp⟩

/-- after the header, what follows meets the texts of the header cells as labels, in order -/
theorem perform_renderHeader {entries : List Node} (he : ∀ n ∈ entries, n.isHeaderEntry = true) (next : Script)
    (top : List Text) (below : LabelStack) (t : Text) :
    (perform plain.renderNode (renderHeader next entries) (top :: below)).result = .ok t ↔
      ∃ texts, RenderTo entries texts ∧ (perform plain.renderNode next ((top ++ texts) :: below)).result = .ok t := by
  induction entries generalizing top with
  | nil => simp [renderHeader, RenderTo]
  | cons n rest ih =>
    obtain ⟨hentry, hentries⟩ := List.forall_mem_cons.1 he
    obtain ⟨r, events, hn⟩ := renderNode_headerEntry hentry
    -- the entry on its own ends as it does here, since its result is the same on every stack
    have hown : ∀ label, RendersTo n label ↔ r = .ok label := by
      intro label
      rw [RendersTo, hn]
    have hkind := Node.hasKind_of_isHeaderEntry hentry
    simp only [renderHeader, hkind, if_true, perform_renderAny (worded_tableCell hkind), bind_eq_ok_iff, hn]
    constructor
    · rintro ⟨label, rfl, hrest⟩
      obtain ⟨texts, htexts, hnext⟩ := (ih hentries _).1 hrest
      exact ⟨label :: texts, .cons ((hown label).2 rfl) htexts, by simpa using hnext⟩
    · rintro ⟨_, htexts, hnext⟩
      cases htexts with
      | cons hlabel htexts =>
        obtain rfl := (hown _).1 hlabel
        refine ⟨_, rfl, (ih hentries _).2 ⟨_, htexts, ?_⟩⟩
        simpa using hnext

end Renderer

/-! ## Main result -/

open Renderer in
/-- **Closed form of tables.** Take a table whose header holds header cells and whose rows, as nodes or as plain
sequences, hold body cells, with anything inside of the cells but rows and header cells that are in no table of their
own. In every context, its built-in rendering ends with a text exactly if each cell renders on its own in a fresh
context, and then it is the blocks of its rows, one after the other: each the lines of the positions at which the
header has a label and the row a value that is not empty. -/
theorem table_text_iff (head : Head) (children : List Node) (items : Option (List Node)) (header rows : List Node)
    (hk : head.kind = .table) (hh : ∀ n ∈ header, n.isHeaderEntry = true) (hr : ∀ row ∈ rows, row.isBodyRow = true)
    (labels : LabelStack) (t : Text) :
    (plain.renderNode (.element head children items (some header) (some rows)) labels).result = .ok t ↔
      ∃ texts values, RenderTo header texts ∧ List.Forall₂ (fun row => RenderTo row.rowCells) rows values ∧
        t = values.flatMap (rowBlock texts) := by
  have hbody := perform_renderHeader hh (Treatment.renderRows (some []) rows) [] labels t
  have hblocks : ∀ texts, rowBlock texts = Treatment.rowText texts :=
    fun texts => funext fun values => (rowText_eq_rowBlock texts values).symm
  have htable : (plain.renderNode (.element head children items (some header) (some rows)) labels).result =
      (Render.perform plain.renderNode (Treatment.renderHeader (Treatment.renderRows (some []) rows) header)
        ([] :: labels)).result := by
    rw [renderNode_element, hk, Render.result_note_bind]
    simp only [Treatment.ofKind, Treatment.handler, Treatment.renderTable]
    rw [Render.perform_inTable_done]
    rfl
  rw [htable, hbody]
  simp only [perform_renderRows hr, List.nil_append, List.headD_cons, hblocks]
  simp only [exists_and_left]

def innerTable : Node := Build.table [.text ['k']] [.cells [.text ['v']]]

/-- a header of a text and a table -/
def nestedHeader : List Node := [Build.tableCell true [.text ['A']], Build.tableCell true [.node innerTable]]

/-- a row of a text and a table, and a longer one that opens with an empty cell -/
def nestedRows : List Node :=
  [.cells [Build.tableCell false [.text ['1']], Build.tableCell false [.node innerTable]],
    Build.tableRow [.text [], .text ['2'], .text ['3']]]

theorem table_text_nested :
    (∀ n ∈ nestedHeader, n.isHeaderEntry = true) ∧ (∀ row ∈ nestedRows, row.isBodyRow = true) ∧
    (Renderer.plain.renderNode (.element { kind := .table } [] none (some nestedHeader) (some nestedRows))
      [[['x']]]).result =
      .ok (['A', ':', ' ', '1', '\n', 'k', ':', ' ', 'v', ':', ' ', 'k', ':', ' ', 'v', '\n', '\n'] ++
        ['k', ':', ' ', 'v', ':', ' ', '2', '\n', '\n']) :=
  ⟨by decide, by decide,
    (table_text_iff { kind := .table } [] none nestedHeader nestedRows rfl (by decide) (by decide) [[['x']]] _).2
      ⟨[['A'], ['k', ':', ' ', 'v']], [[['1'], ['k', ':', ' ', 'v']], [[], ['2'], ['3']]],
        .cons rfl (.cons rfl .nil),
        .cons (.cons rfl (.cons rfl .nil)) (.cons (.cons rfl (.cons rfl (.cons rfl .nil))) .nil), by decide⟩⟩

end Unmark
