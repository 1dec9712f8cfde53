import Unmark.Document.Build
import Unmark.Proofs.Render.BuiltIn
/-!
When built-in rendering fails, and with which error. `malformations` walks over what a rendering reaches, in document
order, and lists what is malformed there: a list without items, a table without header or rows, a link or an image
without a target, what is no cell where a cell belongs, and what is no row where a row belongs. It says nothing of how
rendering goes about it.

`Reports` is the invariant: a computation ends with a result if there is no malformation, and with the error of the
first one otherwise. Sequencing appends the lists (`Reports.bind`), so each handler is a sum of its parts.

Results:
- the built-in rendering of a document fails exactly if there is a malformation, and then with the error that names
  the kind and the field of the first one.
-/
namespace Unmark

/-- something malformed: the kind and the field that the error names, and what is wrong with the field -/
structure Malformation where
  kind : Kind
  field : String
  defect : Defect
deriving DecidableEq, Repr

def Malformation.fault (m : Malformation) : Fault := .reported (.malformedNode m.kind.name m.field m.defect)

/-- a missing field, if it is missing -/
def missingField {α : Type} (kind : Kind) (field : String) : Option α → List Malformation
  | none => [⟨kind, field, .missing⟩]
  | some _ => []

namespace Node

mutual

/-- what is malformed among all that the rendering of a node reaches, in document order -/
def malformations : Node → List Malformation
  | .element head children items header rows =>
    match head.kind with
    | .space | .horizontalRule | .checkbox | .lineBreak | .codeBlock | .rawHtml => []
    | .list => missingField .list "items" items ++ malformationsSome items
    | .table =>
      missingField .table "header" header ++ (missingField .table "rows" rows ++
        (headerMalformations header ++ rowsMalformations rows))
    | .tableRow => cellsMalformations .tableRow "children" children
    | .link => missingField .link "href" head.href ++ malformationsAll children
    | .image =>
      missingField .image "href" head.href ++
        match head.literal with
        | .text [] => malformationsAll children
        | _ => []
    | _ => malformationsAll children
  | _ => []

def malformationsAll : List Node → List Malformation
  | [] => []
  | n :: rest => malformations n ++ malformationsAll rest

def malformationsSome : Option (List Node) → List Malformation
  | none => []
  | some nodes => malformationsAll nodes

/-- the same where cells belong: what is no cell is malformed itself, and is not entered -/
def cellsMalformations (kind : Kind) (field : String) : List Node → List Malformation
  | [] => []
  | n :: rest =>
    (if n.hasKind .tableCell then malformations n else [⟨kind, field, .notCells⟩]) ++
      cellsMalformations kind field rest

def headerMalformations : Option (List Node) → List Malformation
  | none => []
  | some entries => cellsMalformations .table "header" entries

def rowsMalformations : Option (List Node) → List Malformation
  | none => []
  | some rows => rowListMalformations rows

def rowListMalformations : List Node → List Malformation
  | [] => []
  | row :: rest => rowMalformations row ++ rowListMalformations rest

/-- the same over one row: a node that is no row is malformed itself, and is not entered -/
def rowMalformations : Node → List Malformation
  | .element head children _ _ _ =>
    if head.kind = .tableRow then cellsMalformations .tableRow "children" children
    else [⟨.table, "rows", .notRows⟩]
  | .cells entries => cellsMalformations .tableRow "children" entries
  | .stray _ => []

end

/-- the places of a tree: where a node must stand, where a cell belongs, where a row belongs -/
inductive Place where
  | node
  | entry
  | row
deriving DecidableEq, Repr

mutual

/-- the tree is made of values of the right types: literals are text, and what is no node stands only where a cell
belongs, or as a plain sequence where a row belongs -/
def wellTyped : Place → Node → Bool
  | _, .element head children items header rows =>
    (match head.literal with
      | .text _ => true
      | .other _ => false) &&
    wellTypedAll (if head.kind = .tableRow then .entry else .node) children && wellTypedSome .node items &&
    wellTypedSome .entry header && wellTypedSome .row rows
  | .node, .cells _ => false
  | .entry, .cells _ => true
  | .row, .cells entries => wellTypedAll .entry entries
  | .entry, .stray _ => true
  | _, .stray _ => false

def wellTypedAll : Place → List Node → Bool
  | _, [] => true
  | place, n :: rest => wellTyped place n && wellTypedAll place rest

def wellTypedSome : Place → Option (List Node) → Bool
  | _, none => true
  | place, some nodes => wellTypedAll place nodes

end

theorem wellTypedAll_iff {place : Place} {nodes : List Node} :
    wellTypedAll place nodes = true ↔ ∀ n ∈ nodes, n.wellTyped place = true := by
  induction nodes with
  | nil => simp [wellTypedAll]
  | cons n rest ih => simp [wellTypedAll, ih]

end Node

namespace Render

open Node

variable {α β : Type}

/-! ## The invariant -/

/-- a result if the list is empty, and the fault of its first malformation otherwise -/
def Answers (r : Except Fault α) : List Malformation → Prop
  | [] => ∃ a, r = .ok a
  | m :: _ => r = .error m.fault

/-- on every stack, the computation ends as the list calls for -/
def Reports (x : Render α) (ms : List Malformation) : Prop := ∀ labels, Answers (x labels).result ms

theorem reports_pure (a : α) : Reports (Pure.pure a : Render α) [] := fun _ => ⟨a, rfl⟩

theorem reports_fail (m : Malformation) (ms : List Malformation) : Reports (fail m.fault : Render α) (m :: ms) :=
  fun _ => rfl

theorem Reports.bind {x : Render α} {f : α → Render β} {ms ms' : List Malformation} (hx : Reports x ms)
    (hf : ∀ a, Reports (f a) ms') : Reports (x >>= f) (ms ++ ms') := by
  intro labels
  cases ms with
  | nil =>
    obtain ⟨a, ha⟩ := hx labels
    rw [bind_ok ha]
    exact hf a (x labels).labels
  | cons m rest =>
    have hm : (x labels).result = .error m.fault := hx labels
    rw [bind_error hm]
    rfl

/-- nothing malformed comes after -/
theorem Reports.map {x : Render α} {f : α → Render β} {ms : List Malformation} (hx : Reports x ms)
    (hf : ∀ a, Reports (f a) []) : Reports (x >>= f) ms := by
  rw [← List.append_nil ms]
  exact hx.bind hf

theorem Reports.note {x : Render α} {ms : List Malformation} (hx : Reports x ms) (events : List Event) :
    Reports (note events >>= fun _ => x) ms := fun labels => hx labels

theorem Reports.inTable {x : Render α} {ms : List Malformation} (hx : Reports x ms) : Reports (inTable x) ms :=
  fun labels => hx ([] :: labels)

theorem Reports.worded {x : Render α} {ms : List Malformation} (hx : Reports x ms) : Worded x := by
  intro labels h
  have hreport := hx labels
  cases ms with
  | nil =>
    obtain ⟨a, ha⟩ := hreport
    rw [ha] at h
    cases h
  | cons m rest =>
    have hm : (x labels).result = .error m.fault := hreport
    rw [hm] at h
    cases h

variable {render : Node → Render Text}

theorem reports_inOrder {nodes : List Node} (hr : ∀ n ∈ nodes, Reports (render n) n.malformations) (inline : Bool) :
    Reports (inOrder render inline nodes) (malformationsAll nodes) := by
  induction nodes with
  | nil => exact reports_pure []
  | cons n rest ih =>
    obtain ⟨hn, hrest⟩ := List.forall_mem_cons.1 hr
    rw [inOrder_cons hn.worded, malformationsAll]
    refine hn.bind fun t => ?_
    exact (ih hrest).map fun others => reports_pure _

/-! ## The built-in handlers -/

/-- children are rendered, and what is made of their text is no longer a matter of form -/
theorem reports_renderChildren {nodes : List Node} (hr : ∀ n ∈ nodes, Reports (render n) n.malformations)
    (inline : Bool) (f : Text → Text) :
    Reports (perform render (.renderChildren nodes inline fun t => .done (f t))) (malformationsAll nodes) :=
  (reports_inOrder hr inline).map fun t => reports_pure (f t)

theorem reports_malformed (kind : Kind) (field : String) (defect : Defect) (ms : List Malformation) :
    Reports (perform render (Script.malformed kind field defect)) (⟨kind, field, defect⟩ :: ms) :=
  reports_fail ⟨kind, field, defect⟩ ms

theorem reports_renderOneByOne {nodes : List Node} (hr : ∀ n ∈ nodes, Reports (render n) n.malformations)
    (before : List Text) (f : List Text → Text) :
    Reports (perform render (Script.renderOneByOne before (fun texts => .done (f texts)) nodes))
      (malformationsAll nodes) := by
  induction nodes generalizing before with
  | nil => exact reports_pure _
  | cons n rest ih =>
    obtain ⟨hn, hrest⟩ := List.forall_mem_cons.1 hr
    rw [Script.renderOneByOne, perform_renderText hn.worded]
    exact hn.bind fun t => ih hrest _

/-- what a list of entries reports where cells belong -/
theorem reports_renderHeader {entries : List Node} {next : Script} {ms : List Malformation}
    (hr : ∀ n ∈ entries, n.hasKind .tableCell = true → Reports (render n) n.malformations)
    (hnext : Reports (perform render next) ms) :
    Reports (perform render (Treatment.renderHeader next entries))
      (cellsMalformations .table "header" entries ++ ms) := by
  induction entries with
  | nil => exact hnext
  | cons n rest ih =>
    obtain ⟨hn, hrest⟩ := List.forall_mem_cons.1 hr
    rw [Treatment.renderHeader, cellsMalformations, List.append_assoc]
    by_cases hcell : n.hasKind .tableCell = true
    · rw [if_pos hcell, if_pos hcell, perform_renderAny (hn hcell).worded]
      exact (hn hcell).bind fun _ => ih hrest
    · rw [if_neg hcell, if_neg hcell]
      exact reports_malformed _ _ _ _

theorem reports_renderCells {cells : List Node}
    (hr : ∀ n ∈ cells, n.hasKind .tableCell = true → Reports (render n) n.malformations) (before : List Text) :
    Reports (perform render (Treatment.renderCells before cells)) (cellsMalformations .tableRow "children" cells) := by
  induction cells generalizing before with
  | nil => exact fun labels => ⟨_, rfl⟩
  | cons n rest ih =>
    obtain ⟨hn, hrest⟩ := List.forall_mem_cons.1 hr
    rw [Treatment.renderCells, cellsMalformations]
    by_cases hcell : n.hasKind .tableCell = true
    · rw [if_pos hcell, if_pos hcell, perform_renderAny (hn hcell).worded]
      exact (hn hcell).bind fun t => ih hrest _
    · rw [if_neg hcell, if_neg hcell]
      exact reports_malformed _ _ _ _

end Render

namespace Node

/-- a row either stands for a node that has its malformations, or is one itself -/
theorem rowNode_cases {row : Node} (h : row.wellTyped .row = true) :
    (∃ n, Treatment.rowNode row = .ok n ∧ n.wellTyped .node = true ∧ n.malformations = row.rowMalformations) ∨
      Treatment.rowNode row = .error (Malformation.fault ⟨.table, "rows", .notRows⟩) ∧
        row.rowMalformations = [⟨.table, "rows", .notRows⟩] := by
  cases row with
  | element head children items header rows =>
    by_cases hk : head.kind = .tableRow
    · left
      refine ⟨_, by rw [Treatment.rowNode, if_pos hk], ?_, ?_⟩
      · simpa only [wellTyped] using h
      · simp only [malformations, rowMalformations, hk, if_true]
    · right
      exact ⟨by rw [Treatment.rowNode, if_neg hk]; rfl, by rw [rowMalformations, if_neg hk]⟩
  | cells entries =>
    left
    refine ⟨_, rfl, ?_, ?_⟩
    · simpa [branch, wellTyped, wellTypedSome] using h
    · simp only [branch, malformations, rowMalformations]
  | stray value => cases h

end Node

namespace Render

open Node

variable {render : Node → Render Text}

theorem reports_renderRows {rows : List Node} (hw : ∀ row ∈ rows, row.wellTyped .row = true)
    (hr : ∀ row ∈ rows, ∀ n, Treatment.rowNode row = .ok n → n.wellTyped .node = true →
      Reports (render n) n.malformations) (before : Text) :
    Reports (perform render (Treatment.renderRows (some before) rows)) (rowListMalformations rows) := by
  induction rows generalizing before with
  | nil => exact reports_pure before
  | cons row rest ih =>
    obtain ⟨hrow, hrows⟩ := List.forall_mem_cons.1 hw
    obtain ⟨hrender, hrest⟩ := List.forall_mem_cons.1 hr
    rw [rowListMalformations, Treatment.renderRows]
    rcases rowNode_cases hrow with ⟨n, hn, hwell, hsame⟩ | ⟨hn, hsame⟩
    · rw [← hsame]
      simp only [hn]
      rw [perform_renderAny (hrender n hn hwell).worded]
      exact (hrender n hn hwell).bind fun t => ih hrows hrest (before ++ t)
    · rw [hsame]
      simp only [hn]
      exact reports_fail _ _

/-- the built-in handlers that fall back on their literal when there are no children -/
theorem reports_childrenOr {children : List Node} (hc : ∀ n ∈ children, Reports (render n) n.malformations)
    (inline : Bool) (fallback : Text) (f : Text → Text) :
    Reports (perform render (if children.isEmpty then .done fallback
      else .renderChildren children inline fun t => .done (f t))) (malformationsAll children) := by
  cases children with
  | nil => exact reports_pure fallback
  | cons n rest => exact reports_renderChildren hc inline f

theorem reports_renderPlainBlock {children : List Node} (hc : ∀ n ∈ children, Reports (render n) n.malformations)
    (kind : Kind) (t : Text) :
    Reports (perform render (Treatment.renderPlainBlock kind (.text t) children)) (malformationsAll children) := by
  rw [Treatment.renderPlainBlock]
  by_cases hk : kind = .heading
  · simp only [hk, if_true]
    exact reports_childrenOr hc true _ (· ++ Text.blockEnd)
  · simp only [if_neg hk]
    exact reports_childrenOr hc false _ (Text.trim · ++ Text.blockEnd)

theorem reports_renderParagraph {children : List Node} (hc : ∀ n ∈ children, Reports (render n) n.malformations) :
    Reports (perform render (Treatment.renderParagraph children)) (malformationsAll children) := by
  have hgeneral := reports_renderChildren hc true (· ++ Text.blockEnd)
  rw [Treatment.renderParagraph.eq_def]
  split
  · rename_i only
    split
    · rw [malformationsAll, malformationsAll, List.append_nil]
      exact Reports.map (hc only List.mem_cons_self) fun t => reports_pure t
    · exact hgeneral
  · exact hgeneral

theorem reports_renderLink {children : List Node} (hc : ∀ n ∈ children, Reports (render n) n.malformations)
    (href : Option Value) (t : Text) :
    Reports (perform render (Treatment.renderLink .link href (.text t) children))
      (missingField .link "href" href ++ malformationsAll children) := by
  cases href with
  | none => exact reports_malformed _ _ _ _
  | some target => exact reports_childrenOr hc true _ (· ++ Text.blockEnd)

theorem reports_renderImage {children : List Node} (hc : ∀ n ∈ children, Reports (render n) n.malformations)
    (href : Option Value) (t : Text) :
    Reports (perform render (Treatment.renderImage .image href (.text t) children))
      (missingField .image "href" href ++ if t = [] then malformationsAll children else []) := by
  cases href with
  | none => exact reports_malformed _ _ _ _
  | some target =>
    cases t with
    | nil => exact reports_childrenOr hc true _ (· ++ Text.blockEnd)
    | cons c t => exact reports_pure _

theorem reports_renderList {items : Option (List Node)}
    (hi : ∀ n ∈ items.getD [], Reports (render n) n.malformations) :
    Reports (perform render (Treatment.renderList .list items))
      (missingField .list "items" items ++ malformationsSome items) := by
  cases items with
  | none => exact reports_malformed _ _ _ _
  | some items =>
    cases items with
    | nil => exact reports_pure []
    | cons item rest => exact reports_renderOneByOne hi [] Treatment.listText

theorem reports_renderTable {header rows : Option (List Node)}
    (hh : ∀ n ∈ header.getD [], n.hasKind .tableCell = true → Reports (render n) n.malformations)
    (hw : ∀ row ∈ rows.getD [], row.wellTyped .row = true)
    (hr : ∀ row ∈ rows.getD [], ∀ n, Treatment.rowNode row = .ok n → n.wellTyped .node = true →
      Reports (render n) n.malformations) :
    Reports (perform render (Treatment.renderTable .table header rows))
      (missingField .table "header" header ++ (missingField .table "rows" rows ++
        (headerMalformations header ++ rowsMalformations rows))) := by
  cases header with
  | none => exact reports_malformed _ _ _ _
  | some entries =>
    cases rows with
    | none => exact reports_malformed _ _ _ _
    | some rows =>
      rw [Treatment.renderTable, perform_inTable_done]
      exact (reports_renderHeader hh (reports_renderRows hw hr [])).inTable

theorem reports_renderCell {children : List Node} (hc : ∀ n ∈ children, Reports (render n) n.malformations)
    (isHeader : Bool) :
    Reports (perform render (Treatment.renderCell isHeader children)) (malformationsAll children) := by
  refine (reports_inOrder hc true).map fun t => ?_
  cases isHeader with
  | false => exact reports_pure t
  | true => exact fun labels => ⟨t, rfl⟩

end Render

/-! ## Built-in rendering -/

namespace Node

variable {head : Head} {children : List Node} {items header rows : Option (List Node)}

/-- what is well-typed in one place and a node is well-typed as a node -/
theorem wellTyped_of_hasKind {n : Node} {place : Place} {k : Kind} (h : n.wellTyped place = true)
    (hk : n.hasKind k = true) : n.wellTyped .node = true := by
  cases n with
  | element => simpa only [wellTyped] using h
  | cells => cases hk
  | stray => cases hk

theorem wellTyped_element (h : (element head children items header rows).wellTyped .node = true) :
    (∃ t, head.literal = .text t) ∧
      (∀ n ∈ children, n.wellTyped (if head.kind = .tableRow then .entry else .node) = true) ∧
      (∀ n ∈ items.getD [], n.wellTyped .node = true) ∧ (∀ n ∈ header.getD [], n.wellTyped .entry = true) ∧
      (∀ n ∈ rows.getD [], n.wellTyped .row = true) := by
  have hsome : ∀ place (nodes : Option (List Node)), wellTypedSome place nodes = true →
      ∀ n ∈ nodes.getD [], n.wellTyped place = true := by
    intro place nodes hnodes
    cases nodes with
    | none => simp
    | some nodes => exact wellTypedAll_iff.1 hnodes
  simp only [wellTyped, Bool.and_eq_true] at h
  obtain ⟨⟨⟨⟨hliteral, hchildren⟩, hitems⟩, hheader⟩, hrows⟩ := h
  refine ⟨?_, wellTypedAll_iff.1 hchildren, hsome _ _ hitems, hsome _ _ hheader, hsome _ _ hrows⟩
  cases hl : head.literal with
  | text t => exact ⟨t, rfl⟩
  | other v => rw [hl] at hliteral; cases hliteral

end Node

theorem Renderer.reports_renderNode {n : Node} (h : n.wellTyped .node = true) :
    Render.Reports (plain.renderNode n) n.malformations := by
  induction n using Node.induction_isPart with
  | cells entries => cases h
  | stray value => cases h
  | element head children items header rows ih =>
    obtain ⟨⟨t, ht⟩, hchildren, hitems, hheader, hrows⟩ := Node.wellTyped_element h
    -- children are nodes but in a row, and are rendered but in a list and in a table
    have hc : head.kind ≠ .list ∧ head.kind ≠ .table ∧ head.kind ≠ .tableRow →
        ∀ n ∈ children, Render.Reports (plain.renderNode n) n.malformations := by
      rintro ⟨hlist, htable, hrow⟩ n hn
      rw [if_neg hrow] at hchildren
      exact ih n (.child hlist htable hn) (hchildren n hn)
    rw [renderNode_element]
    refine Render.Reports.note ?_ _
    cases hk : head.kind with
    | space | horizontalRule | checkbox | lineBreak =>
      simp only [Treatment.ofKind, Treatment.handler, Node.malformations, hk]
      exact Render.reports_pure []
    | codeBlock | rawHtml =>
      simp only [Treatment.ofKind, Treatment.handler, Node.malformations, hk, ht]
      exact Render.reports_pure _
    | text | strong | emphasis | codeSpan | strikethrough =>
      simp only [Treatment.ofKind, Treatment.handler, Node.malformations, hk, ht]
      exact Render.reports_childrenOr (hc (by simp [hk])) true t id
    | heading | blockquote | generic | other name =>
      simp only [Treatment.ofKind, Treatment.handler, Node.malformations, hk, ht]
      exact Render.reports_renderPlainBlock (hc (by simp [hk])) _ t
    | paragraph =>
      simp only [Treatment.ofKind, Treatment.handler, Node.malformations, hk]
      exact Render.reports_renderParagraph (hc (by simp [hk]))
    | link =>
      simp only [Treatment.ofKind, Treatment.handler, Node.malformations, hk, ht]
      exact Render.reports_renderLink (hc (by simp [hk])) head.href t
    | image =>
      have himage := Render.reports_renderImage (hc (by simp [hk])) head.href t
      simp only [Treatment.ofKind, Treatment.handler, Node.malformations, hk, ht]
      cases t <;> exact himage
    | listItem =>
      simp only [Treatment.ofKind, Treatment.handler, Node.malformations, hk]
      exact Render.reports_renderChildren (hc (by simp [hk])) false _
    | tableCell =>
      simp only [Treatment.ofKind, Treatment.handler, Node.malformations, hk]
      exact Render.reports_renderCell (hc (by simp [hk])) head.isHeaderCell
    | list =>
      simp only [Treatment.ofKind, Treatment.handler, Node.malformations, hk]
      refine Render.reports_renderList fun n hn => ?_
      cases items with
      | none => simp at hn
      | some items => exact ih n (.item hk hn) (hitems n hn)
    | tableRow =>
      simp only [Treatment.ofKind, Treatment.handler, Node.malformations, hk]
      refine Render.reports_renderCells (fun n hn hcell => ?_) []
      exact ih n (.child (by simp [hk]) (by simp [hk]) hn) (Node.wellTyped_of_hasKind (hchildren n hn) hcell)
    | table =>
      simp only [Treatment.ofKind, Treatment.handler, Node.malformations, hk]
      refine Render.reports_renderTable (fun n hn hcell => ?_) hrows fun row hrow n hn hwell => ?_
      · cases header with
        | none => simp at hn
        | some entries => exact ih n (.entry hk hn) (Node.wellTyped_of_hasKind (hheader n hn) hcell)
      · cases rows with
        | none => simp at hrow
        | some rows => exact ih n (.row hk hrow hn) hwell

/-! ## Main result -/

/-- **First malformation reported.** The built-in rendering of a document, of whatever kinds, with anything where
header entries and cells of rows belong, gives text exactly if it reaches nothing malformed. It fails with a fault
exactly if that is the error of the first malformation that it reaches, in document order, with the kind, the field
and the defect of that one. -/
theorem first_malformation_reported (nodes : List Node) (h : ∀ n ∈ nodes, n.wellTyped .node = true) :
    ((∃ t, (Renderer.plain.renderToText nodes).result = .ok t) ↔ Node.malformationsAll nodes = []) ∧
    ((∃ f, (Renderer.plain.renderToText nodes).result = .error f) ↔ Node.malformationsAll nodes ≠ []) ∧
    ∀ f, (Renderer.plain.renderToText nodes).result = .error f ↔ ∃ m, (Node.malformationsAll nodes).head? = some m ∧
      f = .reported (.malformedNode m.kind.name m.field m.defect) := by
  have hreports : Render.Reports (Renderer.plain.renderChildren false nodes) (Node.malformationsAll nodes) :=
    Render.reports_inOrder (fun n hn => Renderer.reports_renderNode (h n hn)) false
  have hanswer := hreports []
  rw [← Renderer.renderToText_result] at hanswer
  cases hms : Node.malformationsAll nodes with
  | nil =>
    rw [hms] at hanswer
    obtain ⟨t, ht⟩ := hanswer
    simp [ht]
  | cons m rest =>
    rw [hms] at hanswer
    have hm : (Renderer.plain.renderToText nodes).result = .error m.fault := hanswer
    simp [hm, Malformation.fault, eq_comm]

/-- a list whose item holds a table with a header entry that is no node, and after it a link without a target -/
def malformedDocument : List Node :=
  let table : Node := .element { kind := .table } [] none
    (some [Build.tableCell true [.text ['k']], .stray .null, .branch .paragraph []]) (some [.cells [.stray .null]])
  [Build.list false [.text ['a'], .node (Build.listItem [.node table])], Build.link none none [.text ['b']]]

theorem first_malformation_in_list :
    (∀ n ∈ malformedDocument, n.wellTyped .node = true) ∧
    Node.malformationsAll malformedDocument =
      [⟨.table, "header", .notCells⟩, ⟨.table, "header", .notCells⟩, ⟨.tableRow, "children", .notCells⟩,
        ⟨.link, "href", .missing⟩] ∧
    (Renderer.plain.renderToText malformedDocument).result =
      .error (.reported (.malformedNode "table" "header" .notCells)) :=
  ⟨by decide, by decide, ((first_malformation_reported malformedDocument (by decide)).2.2 _).2 ⟨_, rfl, rfl⟩⟩

end Unmark
