import Unmark.Proofs.Render.Malformation
/-!
Well-formed documents. A position says which nodes may stand in it: rows stand in tables and nowhere else, cells in
headers and in rows, items fill lists, a task marker opens an item, and a line break stands nowhere. A well-formed
node has what its kind calls for, and so has every node in it, in its position.

Results:
- a well-formed node has text for a literal wherever it is looked at, and nothing malformed is reached in it
  (`wellTyped_of_wellFormed`, `malformations_eq_nil`);
- a well-formed document renders to a text (`renders_of_wellFormed`).
-/
namespace Unmark

inductive Position where
  /-- anywhere but in the positions below -/
  | flow
  /-- first of the children of a list item -/
  | opening
  /-- among the items of a list -/
  | item
  /-- in the header of a table -/
  | headerCell
  /-- among the rows of a table -/
  | row
  /-- in a row -/
  | bodyCell
deriving DecidableEq, Repr

namespace Position

def admits (head : Head) : Position → Bool
  | .flow => head.kind ∉ [Kind.tableRow, .tableCell, .lineBreak, .checkbox]
  | .opening => head.kind ∉ [Kind.tableRow, .tableCell, .lineBreak]
  | .item => head.kind = .listItem
  | .headerCell => head.kind = .tableCell && head.isHeaderCell
  | .row => head.kind = .tableRow
  | .bodyCell => head.kind = .tableCell && !head.isHeaderCell

/-- the position of the first child of a node -/
def ofFirst : Kind → Position
  | .listItem => .opening
  | .tableRow => .bodyCell
  | _ => .flow

/-- the position of the other children of a node -/
def ofOthers : Kind → Position
  | .tableRow => .bodyCell
  | _ => .flow

end Position

/-- the literal is text, a heading has a level from 1 to 6, and a link or an image a target -/
def Head.isComplete (head : Head) : Bool :=
  (match head.literal with
    | .text _ => true
    | .other _ => false) &&
  match head.kind with
  | .heading => head.level.any fun l => 1 ≤ l && l ≤ 6
  | .link | .image => head.href.isSome
  | _ => true

theorem Head.literal_eq_text {head : Head} (h : head.isComplete = true) : ∃ t, head.literal = .text t := by
  cases hl : head.literal with
  | text t => exact ⟨t, rfl⟩
  | other v => simp [Head.isComplete, hl] at h

theorem Head.href_eq_some {head : Head} (h : head.isComplete = true)
    (hkind : head.kind = .link ∨ head.kind = .image) : ∃ target, head.href = some target := by
  obtain ⟨t, ht⟩ := literal_eq_text h
  rcases hkind with hk | hk <;> simpa [isComplete, ht, hk, Option.isSome_iff_exists] using h

namespace Node

mutual

/-- the node may stand in the position and is complete, a list has items and a table a header and rows, no other node
has any of these, and all that the node holds is well-formed in its own position -/
def wellFormed : Position → Node → Bool
  | position, .element head children items header rows =>
    position.admits head && head.isComplete && wellFormedAll (.ofFirst head.kind) (.ofOthers head.kind) children &&
      wellFormedIf (head.kind = .list) .item items && wellFormedIf (head.kind = .table) .headerCell header &&
      wellFormedIf (head.kind = .table) .row rows
  | _, .cells _ => false
  | _, .stray _ => false

/-- the same over a forest whose first node has a position of its own -/
def wellFormedAll : Position → Position → List Node → Bool
  | _, _, [] => true
  | first, others, n :: rest => wellFormed first n && wellFormedAll others others rest

/-- the same over a forest that is there exactly if it is called for -/
def wellFormedIf : Bool → Position → Option (List Node) → Bool
  | called, _, none => !called
  | called, position, some nodes => called && wellFormedAll position position nodes

end

theorem wellFormedAll_iff {position : Position} {nodes : List Node} :
    wellFormedAll position position nodes = true ↔ ∀ n ∈ nodes, n.wellFormed position = true := by
  induction nodes with
  | nil => simp [wellFormedAll]
  | cons n rest ih => simp [wellFormedAll, ih]

theorem wellFormed_mono {p q : Position} (h : ∀ head, p.admits head = true → q.admits head = true) {n : Node}
    (hn : n.wellFormed p = true) : n.wellFormed q = true := by
  cases n with
  | element head children items header rows =>
    simp only [wellFormed, Bool.and_eq_true] at hn ⊢
    obtain ⟨⟨⟨⟨⟨hadmits, hcomplete⟩, hchildren⟩, hitems⟩, hheader⟩, hrows⟩ := hn
    exact ⟨⟨⟨⟨⟨h head hadmits, hcomplete⟩, hchildren⟩, hitems⟩, hheader⟩, hrows⟩
  | cells entries => cases hn
  | stray value => cases hn

theorem wellFormed_opening {n : Node} (h : n.wellFormed .flow = true) : n.wellFormed .opening = true := by
  refine wellFormed_mono (fun head hflow => ?_) h
  simp only [Position.admits, decide_eq_true_eq, List.mem_cons, not_or] at hflow ⊢
  exact ⟨hflow.1, hflow.2.1, hflow.2.2.1, List.not_mem_nil⟩

theorem exists_mem_position {first others : Position} {nodes : List Node}
    (h : wellFormedAll first others nodes = true) : ∀ n ∈ nodes, ∃ position, n.wellFormed position = true := by
  cases nodes with
  | nil => simp
  | cons n rest =>
    simp only [wellFormedAll, Bool.and_eq_true, wellFormedAll_iff] at h
    exact List.forall_mem_cons.2 ⟨⟨first, h.1⟩, fun m hm => ⟨others, h.2 m hm⟩⟩

theorem wellFormed_of_mem {called : Bool} {position : Position} {nodes : Option (List Node)}
    (h : wellFormedIf called position nodes = true) : ∀ n ∈ nodes.getD [], n.wellFormed position = true := by
  cases nodes with
  | none => simp
  | some nodes =>
    simp only [wellFormedIf, Bool.and_eq_true] at h
    exact wellFormedAll_iff.1 h.2

/-- what a well-formed node is made of -/
theorem wellFormed_element {position : Position} {head : Head} {children : List Node}
    {items header rows : Option (List Node)}
    (h : (element head children items header rows).wellFormed position = true) :
    head.isComplete = true ∧ (∀ n ∈ children, ∃ p, n.wellFormed p = true) ∧
      (∀ n ∈ items.getD [], n.wellFormed .item = true) ∧ (∀ n ∈ header.getD [], n.wellFormed .headerCell = true) ∧
      ∀ n ∈ rows.getD [], n.wellFormed .row = true := by
  simp only [wellFormed, Bool.and_eq_true] at h
  obtain ⟨⟨⟨⟨⟨-, hcomplete⟩, hchildren⟩, hitems⟩, hheader⟩, hrows⟩ := h
  exact ⟨hcomplete, exists_mem_position hchildren, wellFormed_of_mem hitems, wellFormed_of_mem hheader,
    wellFormed_of_mem hrows⟩

/-- induction along all that a node holds -/
theorem induction_members {motive : Node → Prop}
    (element : ∀ head children items header rows, (∀ n ∈ children, motive n) → (∀ n ∈ items.getD [], motive n) →
      (∀ n ∈ header.getD [], motive n) → (∀ n ∈ rows.getD [], motive n) →
        motive (.element head children items header rows))
    (cells : ∀ entries, (∀ n ∈ entries, motive n) → motive (.cells entries))
    (stray : ∀ value, motive (.stray value)) (n : Node) : motive n := by
  generalize hk : n.height = k
  induction k using Nat.strongRecOn generalizing n with
  | ind k ih =>
    have hlower : ∀ nodes : List Node, heightAll nodes < k → ∀ n ∈ nodes, motive n :=
      fun nodes hnodes n hn => ih n.height (Nat.lt_of_le_of_lt (height_le_heightAll hn) hnodes) n rfl
    cases n with
    | element head children items header rows =>
      have hsome : ∀ nodes : Option (List Node), heightSome nodes < k → ∀ n ∈ nodes.getD [], motive n := by
        intro nodes hnodes
        cases nodes with
        | none => simp
        | some nodes => exact hlower nodes hnodes
      rw [height] at hk
      refine element _ _ _ _ _ (hlower children (by omega)) (hsome items ?_) (hsome header ?_) (hsome rows ?_) <;> omega
    | cells entries =>
      rw [height] at hk
      exact cells entries (hlower entries (by omega))
    | stray value => exact stray value

/-! ## Rendering -/

theorem wellTyped_of_wellFormed {position : Position} {n : Node} (h : n.wellFormed position = true) (place : Place) :
    n.wellTyped place = true := by
  induction n using induction_members generalizing position place with
  | cells entries => cases h
  | stray value => cases h
  | element head children items header rows ihChildren ihItems ihHeader ihRows =>
    obtain ⟨hcomplete, hchildren, hitems, hheader, hrows⟩ := wellFormed_element h
    obtain ⟨t, ht⟩ := Head.literal_eq_text hcomplete
    have hsome : ∀ place (nodes : Option (List Node)), (∀ n ∈ nodes.getD [], n.wellTyped place = true) →
        wellTypedSome place nodes = true := by
      intro place nodes hnodes
      cases nodes with
      | none => rfl
      | some nodes => exact wellTypedAll_iff.2 hnodes
    simp only [wellTyped, ht, Bool.and_eq_true, true_and]
    refine ⟨⟨⟨wellTypedAll_iff.2 fun n hn => ?_, hsome _ _ fun n hn => ?_⟩, hsome _ _ fun n hn => ?_⟩,
      hsome _ _ fun n hn => ?_⟩
    · obtain ⟨p, hp⟩ := hchildren n hn
      exact ihChildren n hn hp _
    · exact ihItems n hn (hitems n hn) _
    · exact ihHeader n hn (hheader n hn) _
    · exact ihRows n hn (hrows n hn) _

theorem malformationsAll_eq_nil {nodes : List Node} (h : ∀ n ∈ nodes, n.malformations = []) :
    malformationsAll nodes = [] := by
  induction nodes with
  | nil => rfl
  | cons n rest ih =>
    obtain ⟨hn, hrest⟩ := List.forall_mem_cons.1 h
    rw [malformationsAll, hn, ih hrest]
    rfl

theorem cellsMalformations_eq_nil {nodes : List Node} (kind : Kind) (field : String)
    (h : ∀ n ∈ nodes, n.hasKind .tableCell = true ∧ n.malformations = []) :
    cellsMalformations kind field nodes = [] := by
  induction nodes with
  | nil => rfl
  | cons n rest ih =>
    obtain ⟨⟨hcell, hn⟩, hrest⟩ := List.forall_mem_cons.1 h
    rw [cellsMalformations, if_pos hcell, hn, ih hrest]
    rfl

theorem rowListMalformations_eq_nil {rows : List Node}
    (h : ∀ n ∈ rows, n.hasKind .tableRow = true ∧ n.malformations = []) : rowListMalformations rows = [] := by
  induction rows with
  | nil => rfl
  | cons row rest ih =>
    obtain ⟨⟨hkind, hrow⟩, hrest⟩ := List.forall_mem_cons.1 h
    rw [rowListMalformations, ih hrest, List.append_nil]
    cases row with
    | element head children items header rows =>
      have hk : head.kind = .tableRow := by simpa [hasKind] using hkind
      rw [rowMalformations, if_pos hk]
      rw [malformations] at hrow
      simpa only [hk] using hrow
    | cells entries => cases hkind
    | stray value => cases hkind

/-- the kind of a node in a position where only one kind may stand -/
theorem hasKind_of_wellFormed {position : Position} {n : Node} {k : Kind}
    (hk : ∀ head, position.admits head = true → head.kind = k) (h : n.wellFormed position = true) :
    n.hasKind k = true := by
  cases n with
  | element head children items header rows =>
    simp only [wellFormed, Bool.and_eq_true] at h
    have hkind := hk head h.1.1.1.1.1
    simpa [hasKind] using hkind
  | cells entries => cases h
  | stray value => cases h

/-- what is called for is there -/
theorem exists_of_wellFormedIf {position : Position} {nodes : Option (List Node)}
    (h : wellFormedIf true position nodes = true) : ∃ given, nodes = some given := by
  cases nodes with
  | none => cases h
  | some nodes => exact ⟨nodes, rfl⟩

theorem malformations_eq_nil {position : Position} {n : Node} (h : n.wellFormed position = true) :
    n.malformations = [] := by
  induction n using induction_members generalizing position with
  | cells entries => cases h
  | stray value => cases h
  | element head children items header rows ihChildren ihItems ihHeader ihRows =>
    obtain ⟨hcomplete, hchildren, hitems, hheader, hrows⟩ := wellFormed_element h
    simp only [wellFormed, Bool.and_eq_true] at h
    obtain ⟨⟨⟨⟨-, hmembers⟩, hgivenItems⟩, hgivenHeader⟩, hgivenRows⟩ := h
    have hall : malformationsAll children = [] := malformationsAll_eq_nil fun n hn => by
      obtain ⟨p, hp⟩ := hchildren n hn
      exact ihChildren n hn hp
    rw [malformations]
    cases hk : head.kind with
    | space | horizontalRule | checkbox | lineBreak | codeBlock | rawHtml => rfl
    | heading | paragraph | text | strong | emphasis | codeSpan | strikethrough | listItem | blockquote | tableCell
    | generic | other name => exact hall
    | link =>
      obtain ⟨target, htarget⟩ := Head.href_eq_some hcomplete (.inl hk)
      simp [htarget, missingField, hall]
    | image =>
      obtain ⟨target, htarget⟩ := Head.href_eq_some hcomplete (.inr hk)
      obtain ⟨t, ht⟩ := Head.literal_eq_text hcomplete
      simp only [htarget, missingField, ht, List.nil_append]
      split
      · exact hall
      · rfl
    | list =>
      simp only [hk, decide_true] at hgivenItems
      obtain ⟨given, rfl⟩ := exists_of_wellFormedIf hgivenItems
      exact malformationsAll_eq_nil fun n hn => ihItems n hn (hitems n hn)
    | table =>
      simp only [hk, decide_true] at hgivenHeader hgivenRows
      obtain ⟨entries, rfl⟩ := exists_of_wellFormedIf hgivenHeader
      obtain ⟨given, rfl⟩ := exists_of_wellFormedIf hgivenRows
      have hentries : cellsMalformations .table "header" entries = [] :=
        cellsMalformations_eq_nil _ _ fun n hn =>
          ⟨hasKind_of_wellFormed (by simp +contextual [Position.admits]) (hheader n hn), ihHeader n hn (hheader n hn)⟩
      have hbody : rowListMalformations given = [] :=
        rowListMalformations_eq_nil fun n hn =>
          ⟨hasKind_of_wellFormed (by simp [Position.admits]) (hrows n hn), ihRows n hn (hrows n hn)⟩
      simp [missingField, headerMalformations, rowsMalformations, hentries, hbody]
    | tableRow =>
      simp only [hk, Position.ofFirst, Position.ofOthers] at hmembers
      have hcells := wellFormedAll_iff.1 hmembers
      exact cellsMalformations_eq_nil _ _ fun n hn =>
        ⟨hasKind_of_wellFormed (by simp +contextual [Position.admits]) (hcells n hn), ihChildren n hn (hcells n hn)⟩

end Node

/-- **A well-formed document renders.** -/
theorem Renderer.renders_of_wellFormed {nodes : List Node}
    (h : ∀ n ∈ nodes, ∃ position, n.wellFormed position = true) (inline : Bool) (labels : LabelStack) :
    ∃ t, (plain.renderChildren inline nodes labels).result = .ok t := by
  have hnone : Node.malformationsAll nodes = [] := Node.malformationsAll_eq_nil fun n hn => by
    obtain ⟨p, hp⟩ := h n hn
    exact Node.malformations_eq_nil hp
  have hnodes : ∀ n ∈ nodes, Render.Reports (plain.renderNode n) n.malformations := fun n hn => by
    obtain ⟨p, hp⟩ := h n hn
    exact reports_renderNode (Node.wellTyped_of_wellFormed hp .node)
  have hreports := Render.reports_inOrder hnodes inline labels
  rwa [hnone] at hreports

end Unmark
