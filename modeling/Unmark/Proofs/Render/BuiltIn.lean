import Unmark.Proofs.Render.Footprint
import Unmark.Render.Renderer
/-!
Built-in rendering as a recursion on the tree.

Results:
- a built-in handler renders the parts of its node and no others, touches the labels around it only for a row or a
  header cell, and never asks for the depth (`handler_within`);
- parts are lower than their node, so that the bound on nested renderings is never met (`renderWithin_eq`);
- the built-in rendering of a node is its handler's script, carried out with the built-in rendering of its parts
  (`renderNode_element`). Proofs about built-in rendering start from this equation and go by `induction_isPart`.
-/
namespace Unmark

/-! ## Parts -/

/-- the nodes that the built-in handler of a node renders: a list its items, a table its header entries and its
rows, any other node its children -/
inductive IsPart : Node → Node → Prop
  | child {head : Head} {children : List Node} {items header rows : Option (List Node)} {n : Node}
      (notList : head.kind ≠ .list) (notTable : head.kind ≠ .table) (mem : n ∈ children) :
      IsPart n (.element head children items header rows)
  | item {head : Head} {children items : List Node} {header rows : Option (List Node)} {n : Node}
      (isList : head.kind = .list) (mem : n ∈ items) : IsPart n (.element head children (some items) header rows)
  | entry {head : Head} {children entries : List Node} {items rows : Option (List Node)} {n : Node}
      (isTable : head.kind = .table) (mem : n ∈ entries) : IsPart n (.element head children items (some entries) rows)
  | row {head : Head} {children rows : List Node} {items header : Option (List Node)} {given n : Node}
      (isTable : head.kind = .table) (mem : given ∈ rows) (asNode : Treatment.rowNode given = .ok n) :
      IsPart n (.element head children items header (some rows))

namespace Node

theorem height_le_heightAll {n : Node} {nodes : List Node} (h : n ∈ nodes) : n.height ≤ heightAll nodes := by
  induction nodes with
  | nil => simp at h
  | cons m rest ih =>
    rw [heightAll]
    rcases List.mem_cons.1 h with rfl | h
    · omega
    · have := ih h; omega

theorem height_pos (n : Node) : 0 < n.height := by
  cases n <;> rw [height] <;> omega

/-- a plain sequence of cells becomes a node of the same height -/
theorem height_rowNode {row n : Node} (h : Treatment.rowNode row = .ok n) : n.height = row.height := by
  cases row with
  | element head children items header rows =>
    simp only [Treatment.rowNode] at h
    split at h
    · cases h; rfl
    · cases h
  | cells entries =>
    simp only [Treatment.rowNode] at h
    cases h
    simp [branch, height, heightSome]
  | stray value => cases h

end Node

theorem height_lt_of_isPart {n m : Node} (h : IsPart n m) : n.height < m.height := by
  cases h with
  | child _ _ mem =>
    have := Node.height_le_heightAll mem
    rw [Node.height]; omega
  | item _ mem =>
    have := Node.height_le_heightAll mem
    simp only [Node.height, Node.heightSome]; omega
  | entry _ mem =>
    have := Node.height_le_heightAll mem
    simp only [Node.height, Node.heightSome]; omega
  | row _ mem asNode =>
    have := Node.height_le_heightAll mem
    have := Node.height_rowNode asNode
    simp only [Node.height, Node.heightSome]; omega

/-- induction along the parts of nodes; a row that is given as a plain sequence stands as a node of its own -/
theorem Node.induction_isPart {motive : Node → Prop}
    (element : ∀ head children items header rows,
      (∀ m, IsPart m (.element head children items header rows) → motive m) →
        motive (.element head children items header rows))
    (cells : ∀ entries, motive (.cells entries)) (stray : ∀ value, motive (.stray value)) (n : Node) : motive n := by
  -- on the height: the node of a row that is given as a sequence is made for it, and is no subterm
  generalize hk : n.height = k
  induction k using Nat.strongRecOn generalizing n with
  | ind k ih =>
    cases n with
    | element head children items header rows =>
      exact element _ _ _ _ _ fun m hm => ih m.height (hk ▸ height_lt_of_isPart hm) m rfl
    | cells entries => exact cells entries
    | stray value => exact stray value

/-! ## The footprints of the built-in handlers -/

theorem Script.within_renderText {F : Footprint} {n : Node} {next : Text → Script} (hn : F.renders n)
    (hnext : ∀ t, (next t).Within F) : (renderText n next).Within F := by
  refine ⟨hn, fun t => ?_⟩
  cases t with
  | some t => exact hnext t
  | none => trivial

theorem Script.within_renderOneByOne {F : Footprint} {before : List Text} {next : List Text → Script}
    {nodes : List Node} (hn : ∀ n ∈ nodes, F.renders n) (hnext : ∀ texts, (next texts).Within F) :
    (renderOneByOne before next nodes).Within F := by
  induction nodes generalizing before with
  | nil => exact hnext _
  | cons n rest ih =>
    obtain ⟨hfirst, hrest⟩ := List.forall_mem_cons.1 hn
    exact within_renderText hfirst fun t => ih hrest

namespace Treatment

open Script

variable {F : Footprint}

theorem within_renderHeader {next : Script} {entries : List Node} (hn : ∀ n ∈ entries, F.renders n)
    (hnext : next.Within F) : (renderHeader next entries).Within F := by
  induction entries with
  | nil => exact hnext
  | cons entry rest ih =>
    obtain ⟨hentry, hrest⟩ := List.forall_mem_cons.1 hn
    rw [renderHeader]
    split
    · exact ⟨hentry, fun _ => ih hrest⟩
    · trivial

theorem within_renderRows {before : Option Text} {rows : List Node}
    (hn : ∀ row ∈ rows, ∀ n, rowNode row = .ok n → F.renders n) : (renderRows before rows).Within F := by
  induction rows generalizing before with
  | nil => cases before <;> trivial
  | cons row rest ih =>
    obtain ⟨hrow, hrest⟩ := List.forall_mem_cons.1 hn
    rw [renderRows]
    split
    · rename_i n hnode
      exact ⟨hrow n hnode, fun t => ih hrest⟩
    · trivial

theorem within_renderCells {before : List Text} {cells : List Node} (hn : ∀ n ∈ cells, F.renders n)
    (hl : F.labels) : (renderCells before cells).Within F := by
  induction cells generalizing before with
  | nil => exact ⟨hl, fun _ => trivial⟩
  | cons cell rest ih =>
    obtain ⟨hcell, hrest⟩ := List.forall_mem_cons.1 hn
    rw [renderCells]
    split
    · exact ⟨hcell, fun t => ih hrest⟩
    · trivial

theorem ofKind_eq_list {k : Kind} : ofKind k = .list ↔ k = .list := by
  cases k <;> simp [ofKind]

theorem ofKind_eq_table {k : Kind} : ofKind k = .table ↔ k = .table := by
  cases k <;> simp [ofKind]

theorem ofKind_eq_tableRow {k : Kind} : ofKind k = .tableRow ↔ k = .tableRow := by
  cases k <;> simp [ofKind]

theorem ofKind_eq_tableCell {k : Kind} : ofKind k = .tableCell ↔ k = .tableCell := by
  cases k <;> simp [ofKind]

/-- the nodes that look at the labels around them: a row reads them, a header cell appends its own -/
def usesLabels (head : Head) : Prop :=
  head.kind = .tableRow ∨ head.kind = .tableCell ∧ head.isHeaderCell = true

/-- what the built-in handler of a node may use -/
def footprint (n : Node) (head : Head) : Footprint where
  renders m := IsPart m n
  labels := usesLabels head
  depth := False

/-- **Footprint of the built-in handlers.** -/
theorem handler_within (head : Head) (children : List Node) (items header rows : Option (List Node)) :
    ((ofKind head.kind).handler (.element head children items header rows)).Within
      (footprint (.element head children items header rows) head) := by
  have hchild : ofKind head.kind ≠ .list ∧ ofKind head.kind ≠ .table → ∀ n ∈ children,
      IsPart n (.element head children items header rows) := by
    rintro ⟨hl, ht⟩ n hn
    exact .child (mt ofKind_eq_list.2 hl) (mt ofKind_eq_table.2 ht) hn
  cases hk : ofKind head.kind with
  | suppressed => trivial
  | inline | plainBlock | link | image =>
    -- either no child is rendered, or all of them together
    have hc := hchild (by simp [hk])
    simp only [handler, renderInline, renderPlainBlock, renderLink, renderImage, malformed]
    repeat' split
    all_goals first | trivial | exact ⟨hc, fun _ => trivial⟩
  | escapedBlock =>
    simp only [handler, renderEscaped]
    split <;> trivial
  | paragraph =>
    have hc := hchild (by simp [hk])
    simp only [handler, renderParagraph]
    repeat' split
    all_goals first | exact ⟨hc, fun _ => trivial⟩ | exact ⟨hc _ List.mem_cons_self, fun _ => trivial⟩
  | list =>
    simp only [handler, renderList, malformed]
    split
    · trivial
    · trivial
    · exact within_renderOneByOne (fun n hn => .item (ofKind_eq_list.1 hk) hn) fun _ => trivial
  | listItem => exact ⟨hchild (by simp [hk]), fun _ => trivial⟩
  | table =>
    have ht := ofKind_eq_table.1 hk
    simp only [handler, renderTable, malformed]
    split
    · trivial
    · split
      · trivial
      · refine ⟨within_renderHeader (fun n hn => .entry ht hn) ?_, fun _ => trivial⟩
        exact within_renderRows fun row hrow n hn => .row ht hrow hn
  | tableRow => exact within_renderCells (hchild (by simp [hk])) (.inl (ofKind_eq_tableRow.1 hk))
  | tableCell =>
    refine ⟨hchild (by simp [hk]), fun t => ?_⟩
    split
    · rename_i hflag
      exact ⟨.inr ⟨ofKind_eq_tableCell.1 hk, hflag⟩, trivial⟩
    · trivial

end Treatment

/-! ## The recursion -/

namespace Renderer

open Render

theorem ruleFor_plain (k : Kind) : plain.ruleFor k = .builtin (.ofKind k) := by
  cases k <;> rfl

theorem renderWithin_plain (limit : Nat) (head : Head) (children : List Node) (items header rows : Option (List Node)) :
    plain.renderWithin (limit + 1) (.element head children items header rows) =
      note (plain.missingRule head.kind) >>= fun _ => perform (plain.renderWithin limit)
        ((Treatment.ofKind head.kind).handler (.element head children items header rows)) := by
  rw [renderWithin, ruleFor_plain]
  rfl

/-- any bound that the height of the node meets will do -/
theorem renderWithin_eq {k l : Nat} {n : Node} (hk : n.height ≤ k) (hl : n.height ≤ l) :
    plain.renderWithin k n = plain.renderWithin l n := by
  have hpos := n.height_pos
  induction k generalizing l n with
  | zero => omega
  | succ k ih =>
    obtain ⟨l, rfl⟩ : ∃ m, l = m + 1 := ⟨l - 1, by omega⟩
    cases n with
    | element head children items header rows =>
      rw [renderWithin_plain, renderWithin_plain]
      -- the two bounds differ by what is left for the parts, and these are lower
      rw [perform_congr (Treatment.handler_within head children items header rows) fun m hm => ?_]
      have := height_lt_of_isPart hm
      exact ih (by omega) (by omega) m.height_pos
    | cells entries => rfl
    | stray value => rfl

theorem renderNode_eq_renderWithin {limit : Nat} {n : Node} (h : n.height ≤ limit) :
    plain.renderNode n = plain.renderWithin limit n := by
  have hbound : n.height ≤ n.height * (Kind.known.length + 2) := Nat.le_mul_of_pos_right _ (Nat.succ_pos _)
  exact renderWithin_eq (Nat.le_add_right_of_le hbound) h

/-- **Built-in rendering, node by node.** The script of the handler, with the built-in rendering of the parts. -/
theorem renderNode_element (head : Head) (children : List Node) (items header rows : Option (List Node)) :
    plain.renderNode (.element head children items header rows) =
      note (plain.missingRule head.kind) >>= fun _ => perform plain.renderNode
        ((Treatment.ofKind head.kind).handler (.element head children items header rows)) := by
  rw [renderNode_eq_renderWithin (Nat.le_succ _), renderWithin_plain]
  rw [perform_congr (Treatment.handler_within head children items header rows) fun m hm => ?_]
  exact (renderNode_eq_renderWithin (Nat.le_of_lt (height_lt_of_isPart hm))).symm

theorem renderNode_cells (entries : List Node) : plain.renderNode (.cells entries) = fail .missingMember := by
  rw [renderNode_eq_renderWithin (Nat.le_succ _)]
  rfl

theorem renderNode_stray (value : Value) : plain.renderNode (.stray value) = fail .missingMember := by
  rw [renderNode_eq_renderWithin (Nat.le_succ _)]
  rfl

/-! ## Cells and rows -/

theorem worded_tableCell {n : Node} (h : n.hasKind .tableCell = true) : Worded (plain.renderNode n) := by
  cases n with
  | element head children items header rows =>
    have hk : head.kind = .tableCell := by simpa [Node.hasKind] using h
    have hcell : Worded (perform plain.renderNode (Treatment.renderCell head.isHeaderCell children)) := by
      refine (worded_inOrder plain.renderNode true children).bind fun t labels => ?_
      split <;> rintro ⟨⟩
    intro labels
    rw [renderNode_element, result_note_bind, hk]
    exact hcell labels
  | cells entries => cases h
  | stray value => cases h

theorem worded_renderCells (before : List Text) (cells : List Node) :
    Worded (perform plain.renderNode (Treatment.renderCells before cells)) := by
  induction cells generalizing before with
  | nil =>
    have hread : Worded innermost := fun labels h => by cases h
    exact hread.bind fun labels => worded_pure _
  | cons cell rest ih =>
    rw [Treatment.renderCells]
    split
    · exact (worded_text? (plain.renderNode cell)).bind fun t => ih _
    · exact worded_fail fun h => by cases h

/-- what stands for a row is text, or fails where it is rendered -/
theorem worded_rowNode {row n : Node} (h : Treatment.rowNode row = .ok n) : Worded (plain.renderNode n) := by
  have helement : ∀ head children items header rows, head.kind = .tableRow →
      Worded (plain.renderNode (.element head children items header rows)) := by
    intro head children items header rows hk labels
    rw [renderNode_element, result_note_bind, hk]
    exact worded_renderCells [] children labels
  cases row with
  | element head children items header rows =>
    rw [Treatment.rowNode] at h
    split at h
    · cases h
      exact helement _ _ _ _ _ ‹_›
    · cases h
  | cells entries =>
    cases h
    exact helement _ _ _ _ _ rfl
  | stray value => cases h

/-! ## Documents -/

theorem renderToText_result (r : Renderer) (nodes : List Node) :
    (r.renderToText nodes).result = (r.renderChildren false nodes []).result := by
  rw [renderToText, Logged.result_bind]
  simp only [Logged.result_bind, Logged.result_note, Logged.result_pure, Except.bind, renderDocument]
  cases (r.renderChildren false nodes []).result <;> rfl

end Renderer

end Unmark
