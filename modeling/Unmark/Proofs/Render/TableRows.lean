import Mathlib.Data.List.Perm.Basic
import Unmark.Proofs.Render.LabelStack
import Unmark.Proofs.Render.TableText
/-!
The rows of a table, each by itself. All rows share one list of labels: those of the header, and after them whatever
header cells in earlier rows have left there. So a row reads as it does in a table of its own whose header has these
labels, and nothing else passes from row to row.

A node is `silent` if no header cell is rendered in it but in tables of its own. Silent rows leave the labels as they
found them (`still_of_silent`), and then every row meets the labels of the header alone.

Results:
- a table that renders reads as its rows do, one after the other, each in a table of its own;
- with silent rows, the header of these tables is the given one, and rows can change places;
- a header cell in a row adds a label for the rows after it.
-/
namespace Unmark

/-! ## Silent nodes -/

namespace Node

mutual

/-- no header cell is rendered in the node but in tables of its own, so that it leaves no label -/
def silent : Node → Bool
  | .element head children items _ _ =>
    match head.kind with
    | .space | .horizontalRule | .checkbox | .lineBreak | .codeBlock | .rawHtml | .table => true
    | .list => silentSome items
    | .image => head.literal.truthy || silentAll children
    | .tableCell => !head.isHeaderCell && silentAll children
    | _ => silentAll children
  | .cells entries => silentAll entries
  | .stray _ => true

def silentAll : List Node → Bool
  | [] => true
  | n :: rest => silent n && silentAll rest

def silentSome : Option (List Node) → Bool
  | none => true
  | some nodes => silentAll nodes

end

theorem silentAll_iff {nodes : List Node} : silentAll nodes = true ↔ ∀ n ∈ nodes, n.silent = true := by
  induction nodes with
  | nil => simp [silentAll]
  | cons n rest ih => simp [silentAll, ih]

end Node

namespace Renderer

open Render Treatment

/-- what was appended to the list of a table goes when the table is closed -/
theorem still_inTable (body : Script) : Still (inTable (perform plain.renderNode body)) := by
  intro labels
  have hgrown : Grown ([] :: labels) (perform plain.renderNode body ([] :: labels)).labels :=
    disciplined_perform (fun n => disciplined_renderWithin plain (depthLimit n) n) body ([] :: labels)
  exact hgrown.tail_eq

theorem Still.of_sealed {x : Render Text} (h : Sealed x) : Still x := by
  obtain ⟨r, events, hx⟩ := h
  intro labels
  rw [hx]

/-- a handler that does not touch the labels around it leaves them alone if its parts do -/
theorem still_of_parts {head : Head} {children : List Node} {items header rows : Option (List Node)}
    (hlabels : ¬ usesLabels head)
    (hparts : ∀ m, IsPart m (.element head children items header rows) → Still (plain.renderNode m)) :
    Still (perform plain.renderNode ((ofKind head.kind).handler (.element head children items header rows))) :=
  compositional_still.perform (handler_within head children items header rows) id hlabels hparts
    fun body _ => still_inTable body

theorem still_renderEscaped (literal : Literal) : Still (perform plain.renderNode (renderEscaped literal)) := by
  cases literal with
  | text t => exact compositional_still.pure _
  | other v => exact compositional_still.fail _

/-- no child is rendered where there is an alternative text -/
theorem still_renderImage {kind : Kind} {href : Option Value} {literal : Literal} {children : List Node}
    (h : literal.truthy = true) : Still (perform plain.renderNode (renderImage kind href literal children)) := by
  cases href with
  | none => exact compositional_still.fail _
  | some _ =>
    simp only [renderImage, h, Bool.true_or, if_true]
    cases literal with
    | other v => exact compositional_still.fail _
    | text t => exact compositional_still.pure _

/-- **Silent nodes leave no label.** -/
theorem still_of_silent {n : Node} (h : n.silent = true) : Still (plain.renderNode n) := by
  induction n using Node.induction_isPart with
  | cells entries => rw [renderNode_cells]; exact compositional_still.fail _
  | stray value => rw [renderNode_stray]; exact compositional_still.fail _
  | element head children items header rows ih =>
    by_cases htable : head.kind = .table
    · exact .of_sealed (sealed_renderNode_table htable children items header rows)
    -- where the children are what is rendered, they are silent if the node is
    have hparts : head.kind ≠ .list → Node.silentAll children = true →
        ∀ m, IsPart m (.element head children items header rows) → Still (plain.renderNode m) := by
      intro hlist hall m hm
      cases hm with
      | child _ _ mem => exact ih m (.child hlist htable mem) (Node.silentAll_iff.1 hall m mem)
      | item isList => exact absurd isList hlist
      | entry isTable => exact absurd isTable htable
      | row isTable => exact absurd isTable htable
    rw [renderNode_element]
    refine (compositional_still.note _).bind fun _ => ?_
    cases hk : head.kind with
    | space | horizontalRule | checkbox | lineBreak => exact compositional_still.pure []
    | table => exact absurd hk htable
    | codeBlock | rawHtml => exact still_renderEscaped head.literal
    | text | strong | emphasis | codeSpan | strikethrough | heading | blockquote | generic | other name | paragraph
    | link | listItem =>
      simp only [Node.silent, hk] at h
      rw [← hk]
      exact still_of_parts (by simp [usesLabels, hk]) (hparts (by simp [hk]) h)
    | tableCell =>
      simp only [Node.silent, hk, Bool.and_eq_true, Bool.not_eq_true'] at h
      rw [← hk]
      exact still_of_parts (by simp [usesLabels, hk, h.1]) (hparts (by simp [hk]) h.2)
    | image =>
      simp only [Node.silent, hk, Bool.or_eq_true] at h
      rcases h with hliteral | hchildren
      · exact still_renderImage hliteral
      · rw [← hk]
        exact still_of_parts (by simp [usesLabels, hk]) (hparts (by simp [hk]) hchildren)
    | list =>
      simp only [Node.silent, hk] at h
      rw [← hk]
      refine still_of_parts (by simp [usesLabels, hk]) fun m hm => ih m hm ?_
      cases hm with
      | child notList => exact absurd hk notList
      | item _ mem => exact Node.silentAll_iff.1 h m mem
      | entry isTable => exact absurd isTable htable
      | row isTable => exact absurd isTable htable
    | tableRow =>
      simp only [Node.silent, hk] at h
      have hstill := hparts (by simp [hk]) h
      exact still_renderCells (fun c hc => hstill c (.child (by simp [hk]) htable hc)) []

/-! ## One row after the other -/

def renderRow (row : Node) : Render Text :=
  match rowNode row with
  | .ok n => plain.renderNode n
  | .error f => fail f

/-- the stack that renderings leave, one after the other -/
def stackAfter (render : Node → Render Text) (labels : LabelStack) (nodes : List Node) : LabelStack :=
  nodes.foldl (fun s n => (render n s).labels) labels

theorem still_renderRow {row : Node} (h : row.silent = true) : Still (renderRow row) := by
  unfold renderRow
  cases row with
  | element head children items header rows =>
    rw [rowNode]
    by_cases hk : head.kind = .tableRow
    · rw [if_pos hk]
      exact still_of_silent h
    · rw [if_neg hk]
      exact compositional_still.fail _
  | cells entries =>
    refine still_of_silent ?_
    simpa [Node.branch, Node.silent] using h
  | stray value => exact compositional_still.fail _

theorem stackAfter_of_still {render : Node → Render Text} {nodes : List Node} (h : ∀ n ∈ nodes, Still (render n))
    (labels : LabelStack) : stackAfter render labels nodes = labels := by
  unfold stackAfter
  induction nodes generalizing labels with
  | nil => rfl
  | cons n rest ih =>
    obtain ⟨hn, hrest⟩ := List.forall_mem_cons.1 h
    rw [List.foldl_cons, hn labels, ih hrest]

/-- the step: a row is rendered, and its text goes after those of the rows before -/
theorem perform_renderRows_cons (before : Text) (row : Node) (rest : List Node) :
    perform plain.renderNode (renderRows (some before) (row :: rest)) =
      renderRow row >>= fun t => perform plain.renderNode (renderRows (some (before ++ t)) rest) := by
  rw [renderRows, renderRow]
  cases hn : rowNode row with
  | ok n => exact perform_renderAny (worded_rowNode hn) _
  | error f => rfl

/-- the run: each row ends with its block on the stack that the header and the rows before have left -/
theorem perform_renderRows_eq_ok {rows : List Node} {before : Text} {labels : LabelStack} {t : Text}
    (h : (perform plain.renderNode (renderRows (some before) rows) labels).result = .ok t) :
    ∃ blocks : List Text, blocks.length = rows.length ∧ t = before ++ blocks.flatten ∧
      ∀ (i : Nat) row block, rows[i]? = some row → blocks[i]? = some block →
        (renderRow row (stackAfter renderRow labels (rows.take i))).result = .ok block := by
  induction rows generalizing before labels with
  | nil =>
    cases h
    exact ⟨[], rfl, by simp, by simp⟩
  | cons row rest ih =>
    rw [perform_renderRows_cons, bind_eq_ok_iff] at h
    obtain ⟨first, hfirst, hrest⟩ := h
    obtain ⟨blocks, hlength, rfl, hblocks⟩ := ih hrest
    refine ⟨first :: blocks, by simp [hlength], by simp, fun i row' block hrow hblock => ?_⟩
    cases i with
    | zero =>
      cases hrow
      cases hblock
      exact hfirst
    | succ i => exact hblocks i row' block hrow hblock

/-- and the other way round, if no row leaves a label -/
theorem perform_renderRows_of_still {rows : List Node} {labels : LabelStack} {blocks : List Text} (before : Text)
    (hstill : ∀ row ∈ rows, Still (renderRow row))
    (h : List.Forall₂ (fun row block => (renderRow row labels).result = .ok block) rows blocks) :
    (perform plain.renderNode (renderRows (some before) rows) labels).result = .ok (before ++ blocks.flatten) := by
  induction h generalizing before with
  | nil => simp [renderRows, perform, Render.pure]
  | cons hrow hrest ih =>
    obtain ⟨hfirst, hothers⟩ := List.forall_mem_cons.1 hstill
    rw [perform_renderRows_cons, bind_eq_ok_iff]
    refine ⟨_, hrow, ?_⟩
    rw [hfirst labels, ih _ hothers]
    simp

/-! ## A table around some rows -/

/-- the entries of a header are cells, and all of them are rendered -/
def HeaderRenders (labels : LabelStack) (entries : List Node) : Prop :=
  ∃ t, (perform plain.renderNode (renderHeader (.done []) entries) labels).result = .ok t

theorem headerRenders_cons {labels : LabelStack} {n : Node} {rest : List Node} :
    HeaderRenders labels (n :: rest) ↔ n.hasKind .tableCell = true ∧
      (∃ t, (plain.renderNode n labels).result = .ok t) ∧ HeaderRenders (plain.renderNode n labels).labels rest := by
  unfold HeaderRenders
  rw [renderHeader]
  by_cases hcell : n.hasKind .tableCell = true
  · simp only [hcell, if_true, true_and, perform_renderAny (worded_tableCell hcell), bind_eq_ok_iff]
    constructor
    · rintro ⟨t, u, hn, hrest⟩
      exact ⟨⟨u, hn⟩, t, hrest⟩
    · rintro ⟨⟨u, hn⟩, t, hrest⟩
      exact ⟨t, u, hn, hrest⟩
  · simp [hcell, Script.malformed, perform, fail]

/-- what comes after a header meets the labels that the header leaves -/
theorem perform_renderHeader_eq_ok {entries : List Node} {next : Script} {labels : LabelStack} {t : Text} :
    (perform plain.renderNode (renderHeader next entries) labels).result = .ok t ↔
      HeaderRenders labels entries ∧
        (perform plain.renderNode next (stackAfter plain.renderNode labels entries)).result = .ok t := by
  induction entries generalizing labels with
  | nil =>
    have hnil : HeaderRenders labels [] := ⟨[], rfl⟩
    simp [hnil, renderHeader, stackAfter]
  | cons n rest ih =>
    have hafter : stackAfter plain.renderNode labels (n :: rest) =
        stackAfter plain.renderNode (plain.renderNode n labels).labels rest := rfl
    rw [headerRenders_cons, renderHeader, hafter]
    by_cases hcell : n.hasKind .tableCell = true
    · simp only [hcell, if_true, true_and, perform_renderAny (worded_tableCell hcell), bind_eq_ok_iff, ih]
      constructor
      · rintro ⟨u, hn, hrest, hnext⟩
        exact ⟨⟨⟨u, hn⟩, hrest⟩, hnext⟩
      · rintro ⟨⟨⟨u, hn⟩, hrest⟩, hnext⟩
        exact ⟨u, hn, hrest, hnext⟩
    · simp [hcell, Script.malformed, perform, fail]

/-- what a node of kind table reads as, with some header and some rows -/
def tableResult (head : Head) (children : List Node) (items : Option (List Node)) (labels : LabelStack)
    (header rows : List Node) : Except Fault Text :=
  (plain.renderNode (.element head children items (some header) (some rows)) labels).result

variable {head : Head} {children : List Node} {items : Option (List Node)} {labels : LabelStack}
  {header rows : List Node} {t : Text}

theorem tableResult_eq_ok (hk : head.kind = .table) :
    tableResult head children items labels header rows = .ok t ↔
      HeaderRenders [[]] header ∧
      (perform plain.renderNode (renderRows (some []) rows) (stackAfter plain.renderNode [[]] header)).result =
        .ok t := by
  obtain ⟨r, events, hsealed⟩ := sealed_renderNode_table hk children items (some header) (some rows)
  have hempty : tableResult head children items labels header rows =
      tableResult head children items [] header rows := by
    rw [tableResult, tableResult, hsealed, hsealed]
  rw [hempty, tableResult, renderNode_element, hk, result_note_bind]
  simp only [ofKind, handler, renderTable]
  rw [perform_inTable_done, inTable]
  exact perform_renderHeader_eq_ok

/-- a table of one row reads as that row does under the labels of the header -/
theorem tableResult_singleton (hk : head.kind = .table) {row : Node} :
    tableResult head children items labels header [row] = .ok t ↔ HeaderRenders [[]] header ∧
      (renderRow row (stackAfter plain.renderNode [[]] header)).result = .ok t := by
  rw [tableResult_eq_ok hk, perform_renderRows_cons, bind_eq_ok_iff]
  simp [renderRows, perform, Render.pure]

/-! ## Headers with given labels -/

/-- the labels that a row meets in a table, after the header and the rows before it -/
def rowLabels (header before : List Node) : List Text :=
  (stackAfter renderRow (stackAfter plain.renderNode [[]] header) before).headD []

/-- a header of plain cells with given texts -/
def plainHeader (texts : List Text) : List Node := texts.map fun t => Build.tableCell true [.text t]

theorem renderNode_plainCell (t : Text) (top : List Text) (below : LabelStack) :
    plain.renderNode (Build.tableCell true [.text t]) (top :: below) = ⟨.ok t, (top ++ [t]) :: below, []⟩ := by
  have hjoined : plain.renderNode (Build.tableCell true [.text t]) (top :: below) =
      ⟨.ok (t ++ []), (top ++ [t ++ []]) :: below, []⟩ := rfl
  rw [hjoined, List.append_nil]

theorem plainHeader_leaves (texts top : List Text) (below : LabelStack) :
    HeaderRenders (top :: below) (plainHeader texts) ∧
      stackAfter plain.renderNode (top :: below) (plainHeader texts) = (top ++ texts) :: below := by
  induction texts generalizing top with
  | nil => exact ⟨⟨[], rfl⟩, by simp [plainHeader, stackAfter]⟩
  | cons t rest ih =>
    obtain ⟨hrenders, hafter⟩ := ih (top ++ [t])
    have hcell := renderNode_plainCell t top below
    refine ⟨headerRenders_cons.2 ⟨rfl, ⟨t, by rw [hcell]⟩, by rwa [hcell]⟩, ?_⟩
    rw [stackAfter, plainHeader, List.map_cons, List.foldl_cons, hcell]
    rw [stackAfter, plainHeader] at hafter
    simpa using hafter

theorem grown_stackAfter {render : Node → Render Text} (h : ∀ n, Disciplined (render n)) (labels : LabelStack)
    (nodes : List Node) : Grown labels (stackAfter render labels nodes) := by
  unfold stackAfter
  induction nodes generalizing labels with
  | nil => exact .refl labels
  | cons n rest ih => exact (h n labels).trans (ih _)

theorem disciplined_renderRow (row : Node) : Disciplined (renderRow row) := by
  unfold renderRow
  split
  · exact disciplined_renderWithin plain _ _
  · exact scoped_disciplined.fail _

/-- the list of the table is the one list on the stack -/
theorem stackAfter_eq (header before : List Node) :
    stackAfter renderRow (stackAfter plain.renderNode [[]] header) before = [rowLabels header before] := by
  have hheader := grown_stackAfter (fun n => disciplined_renderWithin plain (depthLimit n) n) [[]] header
  have hrows := grown_stackAfter disciplined_renderRow (stackAfter plain.renderNode [[]] header) before
  have hgrown := hheader.trans hrows
  unfold rowLabels
  generalize stackAfter renderRow (stackAfter plain.renderNode [[]] header) before = s at hgrown
  cases hgrown
  rfl

/-- rows may add to the labels of the header, and silent ones do not -/
theorem rowLabels_eq_append (header before : List Node) :
    ∃ added, rowLabels header before = rowLabels header [] ++ added ∧
      ((∀ row ∈ before, row.silent = true) → added = []) := by
  have hrows := grown_stackAfter disciplined_renderRow (stackAfter plain.renderNode [[]] header) before
  have hheader : stackAfter plain.renderNode [[]] header = [rowLabels header []] := stackAfter_eq header []
  have hsilent : (∀ row ∈ before, row.silent = true) → rowLabels header before = rowLabels header [] := by
    intro h
    have hstill : ∀ row ∈ before, Still (renderRow row) := fun row hrow => still_renderRow (h row hrow)
    rw [rowLabels, stackAfter_of_still hstill]
    rfl
  rw [stackAfter_eq, hheader] at hrows
  generalize rowLabels header before = labels at hrows hsilent
  cases hrows with
  | top _ added _ => exact ⟨added, rfl, fun h => List.append_right_eq_self.1 (hsilent h)⟩

/-- the rows before a row are not the last -/
theorem mem_dropLast_of_mem_take {α : Type} {l : List α} {i : Nat} (hi : i < l.length) {a : α} (h : a ∈ l.take i) :
    a ∈ l.dropLast := by
  rw [List.dropLast_eq_take]
  exact List.take_subset_take_left l (Nat.le_sub_one_of_lt hi) h

/-- where no row but the last leaves a label, every row meets the labels of the header -/
theorem forall₂_of_silent (hk : head.kind = .table) (h : tableResult head children items labels header rows = .ok t)
    (hsilent : ∀ row ∈ rows.dropLast, row.silent = true) :
    ∃ blocks, List.Forall₂ (fun row block => tableResult head children items labels header [row] = .ok block)
      rows blocks ∧ t = blocks.flatten := by
  obtain ⟨hheader, hrows⟩ := (tableResult_eq_ok hk).1 h
  obtain ⟨blocks, hlength, ht, hblocks⟩ := perform_renderRows_eq_ok hrows
  refine ⟨blocks, List.forall₂_iff_get.2 ⟨hlength.symm, fun i hi hi' => ?_⟩, ht⟩
  have hstill : ∀ row ∈ rows.take i, Still (renderRow row) := fun row hrow =>
    still_renderRow (hsilent row (mem_dropLast_of_mem_take hi hrow))
  have hown := hblocks i _ _ (List.getElem?_eq_getElem hi) (List.getElem?_eq_getElem hi')
  rw [stackAfter_of_still hstill] at hown
  exact (tableResult_singleton hk).2 ⟨hheader, hown⟩

/-- and if the last one leaves none either, rows that read alone read in a row -/
theorem tableResult_of_forall₂ (hk : head.kind = .table) (hheader : HeaderRenders [[]] header)
    (hsilent : ∀ row ∈ rows, row.silent = true) {blocks : List Text}
    (h : List.Forall₂ (fun row block => tableResult head children items labels header [row] = .ok block) rows blocks) :
    tableResult head children items labels header rows = .ok blocks.flatten := by
  have hrows := perform_renderRows_of_still [] (fun row hrow => still_renderRow (hsilent row hrow))
    (h.imp fun row block hown => ((tableResult_singleton hk).1 hown).2)
  exact (tableResult_eq_ok hk).2 ⟨hheader, hrows⟩

end Renderer

/-! ## Main result -/

open Renderer in
/-- **Rows of a table read each by itself.** Let a table render to a text. Then the text is the blocks of its rows,
one after the other, and the block of a row is what the same table reads as with that row alone, under a header whose
labels are those of its own header followed by those that header cells in earlier rows have left, if there are any.

If no row but the last renders a header cell outside of tables of its own, the block of a row is what the table reads
as with its own header and that row alone. If the last one does not either, the rows may be put in any order, and
their blocks come in that order and are the same as before. -/
theorem rows_read_alone (head : Head) (children : List Node) (items : Option (List Node)) (header rows : List Node)
    (labels : LabelStack) (t : Text) (hk : head.kind = .table)
    (h : tableResult head children items labels header rows = .ok t) :
    (∃ blocks : List Text, blocks.length = rows.length ∧ t = blocks.flatten ∧
      ∀ (i : Nat) row block, rows[i]? = some row → blocks[i]? = some block →
        tableResult head children items labels (plainHeader (rowLabels header (rows.take i))) [row] = .ok block ∧
          ∃ added, rowLabels header (rows.take i) = rowLabels header [] ++ added ∧
            ((∀ earlier ∈ rows.take i, earlier.silent = true) → added = [])) ∧
    ((∀ row ∈ rows.dropLast, row.silent = true) →
      ∃ blocks, List.Forall₂ (fun row block => tableResult head children items labels header [row] = .ok block)
          rows blocks ∧ t = blocks.flatten ∧
        ((∀ row ∈ rows, row.silent = true) → ∀ rows' : List Node, rows'.Perm rows →
          ∃ blocks', List.Forall₂ (fun row block => tableResult head children items labels header [row] = .ok block)
              rows' blocks' ∧ blocks'.Perm blocks ∧
            tableResult head children items labels header rows' = .ok blocks'.flatten)) := by
  obtain ⟨hheader, hrows⟩ := (tableResult_eq_ok hk).1 h
  refine ⟨?_, fun hsilent => ?_⟩
  · obtain ⟨blocks, hlength, ht, hblocks⟩ := perform_renderRows_eq_ok hrows
    refine ⟨blocks, hlength, ht, fun i row block hrow hblock => ⟨?_, rowLabels_eq_append header (rows.take i)⟩⟩
    obtain ⟨hrenders, hafter⟩ := plainHeader_leaves (rowLabels header (rows.take i)) [] []
    have hown := hblocks i row block hrow hblock
    rw [stackAfter_eq] at hown
    refine (tableResult_singleton hk).2 ⟨hrenders, ?_⟩
    rw [hafter, List.nil_append, hown]
  · obtain ⟨blocks, hown, ht⟩ := forall₂_of_silent hk h hsilent
    refine ⟨blocks, hown, ht, fun hall rows' hperm => ?_⟩
    obtain ⟨blocks', hown', hperm'⟩ := List.perm_comp_forall₂ hperm hown
    refine ⟨blocks', hown', hperm', ?_⟩
    exact tableResult_of_forall₂ hk hheader (fun row hrow => hall row (hperm.mem_iff.1 hrow)) hown'

def twoLabels : List Node := Renderer.plainHeader [['a'], ['b']]

/-- a row with a table in its first cell, and one with a row in its second that is in no table of its own -/
def crossedRows : List Node :=
  let table := Build.table [.text ['i']] [.cells [.text ['1']]]
  [.cells [Build.tableCell false [.node table], Build.tableCell false [.text ['2']]],
    Build.tableRow [.text ['3'], .node (Build.tableCell false [.node (Build.tableRow [.text ['4']])])]]

open Renderer in
theorem rows_read_alone_crossed :
    (∀ row ∈ crossedRows, row.silent = true) ∧
    tableResult { kind := .table } [] none [] twoLabels crossedRows =
      .ok "a: i: 1\nb: 2\n\na: 3\nb: a: 4\n\n".toList ∧
    ∃ blocks, List.Forall₂ (fun row block => tableResult { kind := .table } [] none [] twoLabels [row] = .ok block)
        crossedRows.reverse blocks ∧
      tableResult { kind := .table } [] none [] twoLabels crossedRows.reverse = .ok blocks.flatten := by
  have hsilent : ∀ row ∈ crossedRows, row.silent = true := by decide
  have htext : tableResult { kind := .table } [] none [] twoLabels crossedRows =
      .ok "a: i: 1\nb: 2\n\na: 3\nb: a: 4\n\n".toList := rfl
  obtain ⟨-, hrows⟩ := rows_read_alone { kind := .table } [] none twoLabels crossedRows [] _ rfl htext
  obtain ⟨blocks, -, -, hperm⟩ := hrows fun row hrow => hsilent row (List.dropLast_subset _ hrow)
  obtain ⟨blocks', hown, -, hreverse⟩ := hperm hsilent crossedRows.reverse (List.reverse_perm _)
  exact ⟨hsilent, htext, blocks', hown, hreverse⟩

open Renderer in
/-- **A header cell in a row reaches the rows after it.** Its text becomes one more label, so that the second row shows
a cell here that it does not show alone. -/
theorem stray_label_reaches_later_rows :
    let header := plainHeader [['a']]
    let first : Node := .cells [Build.tableCell true [.text ['x']], Build.tableCell false [.text ['y']]]
    let second : Node := .cells [Build.tableCell false [.text ['1']], Build.tableCell false [.text ['2']]]
    tableResult { kind := .table } [] none [] header [first, second] =
      .ok "a: x\nx: y\n\na: 1\nx: 2\n\n".toList ∧
    tableResult { kind := .table } [] none [] header [first] = .ok "a: x\nx: y\n\n".toList ∧
    tableResult { kind := .table } [] none [] header [second] = .ok "a: 1\n\n".toList ∧
    "a: x\nx: y\n\na: 1\nx: 2\n\n".toList ≠ "a: x\nx: y\n\n".toList ++ "a: 1\n\n".toList :=
  ⟨rfl, rfl, rfl, by decide +kernel⟩

end Unmark
