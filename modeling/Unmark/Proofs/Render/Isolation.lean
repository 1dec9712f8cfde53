import Unmark.Document.Build
import Unmark.Proofs.Render.BuiltIn
/-!
Isolation of tables. Every built-in rendering is `Local`: it depends on and changes the innermost list of labels
only, whatever lies below. What is local becomes `Sealed` when it is run with a table of its own open: then the stack
around plays no part at all, neither for the result nor after it.

Results:
- `local_renderNode`: the built-in rendering of every node is local;
- `sealed_of_labelFree`: without rows and header cells outside of tables, it is sealed;
- the built-in rendering of every table is sealed, whatever the table holds and however malformed it is.
-/
namespace Unmark

namespace Render

variable {α β : Type}

/-- depends on and changes the innermost list only: what lies below it stays and makes no difference -/
def Local (x : Render α) : Prop :=
  ∀ top : List Text, ∃ (result : Except Fault α) (added : List Text) (events : List Event),
    ∀ below, x (top :: below) = ⟨result, (top ++ added) :: below, events⟩

/-- ends in the same way on every stack, and leaves every stack as it is -/
def Sealed (x : Render α) : Prop :=
  ∃ (result : Except Fault α) (events : List Event), ∀ labels, x labels = ⟨result, labels, events⟩

theorem Sealed.bind {x : Render α} {f : α → Render β} (hx : Sealed x) (hf : ∀ a, Sealed (f a)) :
    Sealed (x >>= f) := by
  obtain ⟨r, events, hx⟩ := hx
  cases r with
  | ok a =>
    obtain ⟨r', events', hf⟩ := hf a
    refine ⟨r', events ++ events', fun labels => ?_⟩
    rw [bind_ok (congrArg Outcome.result (hx labels)), hx, hf]
  | error e =>
    refine ⟨.error e, events, fun labels => ?_⟩
    rw [bind_error (congrArg Outcome.result (hx labels)), hx]

theorem Sealed.attempt {x : Render α} (hx : Sealed x) : Sealed (attempt x) := by
  obtain ⟨r, events, hx⟩ := hx
  exact ⟨.ok r, events, fun labels => by simp only [Render.attempt, hx]⟩

theorem Sealed.local {x : Render α} (hx : Sealed x) : Local x := by
  obtain ⟨r, events, hx⟩ := hx
  intro top
  exact ⟨r, [], events, fun below => by rw [hx, List.append_nil]⟩

theorem Local.bind {x : Render α} {f : α → Render β} (hx : Local x) (hf : ∀ a, Local (f a)) : Local (x >>= f) := by
  intro top
  obtain ⟨r, added, events, hx⟩ := hx top
  cases r with
  | ok a =>
    obtain ⟨r', more, events', hf⟩ := hf a (top ++ added)
    refine ⟨r', added ++ more, events ++ events', fun below => ?_⟩
    rw [bind_ok (congrArg Outcome.result (hx below)), hx]
    simp only [hf, List.append_assoc]
  | error e =>
    refine ⟨.error e, added, events, fun below => ?_⟩
    rw [bind_error (congrArg Outcome.result (hx below)), hx]

theorem Local.attempt {x : Render α} (hx : Local x) : Local (attempt x) := by
  intro top
  obtain ⟨r, added, events, hx⟩ := hx top
  exact ⟨.ok r, added, events, fun below => by simp only [Render.attempt, hx]⟩

/-- the list of a new table is the innermost one, and all that a local computation needs -/
theorem Local.sealed_inTable {x : Render α} (hx : Local x) : Sealed (inTable x) := by
  obtain ⟨r, added, events, hx⟩ := hx []
  exact ⟨r, events, fun labels => by simp only [inTable, hx, List.tail_cons]⟩

theorem compositional_sealed : Compositional @Sealed where
  pure a := ⟨.ok a, [], fun _ => rfl⟩
  fail f := ⟨.error f, [], fun _ => rfl⟩
  note events := ⟨.ok (), events, fun _ => rfl⟩
  bind := .bind
  attempt := .attempt

theorem scoped_local : Scoped @Local where
  pure a := (compositional_sealed.pure a).local
  fail f := (compositional_sealed.fail f).local
  note events := (compositional_sealed.note events).local
  bind := .bind
  attempt := .attempt
  append label _ := ⟨.ok (), [label], [], fun _ => rfl⟩
  innermost top := ⟨.ok top, [], [], fun below => by simp [innermost]⟩
  inTable hx := hx.sealed_inTable.local

/-- a script that leaves the labels around it alone has no use for the stack -/
theorem sealed_perform {F : Footprint} {render : Node → Render Text} {s : Script} (hs : s.Within F)
    (hdepth : ¬ F.depth) (hlabels : ¬ F.labels) (hr : ∀ n, F.renders n → Sealed (render n)) :
    Sealed (perform render s) :=
  compositional_sealed.perform hs hdepth hlabels hr fun _ hbody =>
    -- inside the new table labels may be used, so the body is local but need not be sealed
    (scoped_local.perform hbody (fun h => absurd h hdepth) fun n hn => (hr n hn).local).sealed_inTable

end Render

namespace Renderer

open Render

/-! ## Built-in rendering -/

theorem local_renderNode (n : Node) : Local (plain.renderNode n) := by
  induction n using Node.induction_isPart with
  | element head children items header rows ih =>
    have hwithin := Treatment.handler_within head children items header rows
    rw [renderNode_element]
    exact (scoped_local.note _).bind fun _ => scoped_local.perform hwithin False.elim ih
  | cells entries => rw [renderNode_cells]; exact scoped_local.fail _
  | stray value => rw [renderNode_stray]; exact scoped_local.fail _

theorem sealed_renderNode_table {head : Head} (h : head.kind = .table) (children : List Node)
    (items header rows : Option (List Node)) :
    Sealed (plain.renderNode (.element head children items header rows)) := by
  have hQ := compositional_sealed
  have hwithin := Treatment.handler_within head children items header rows
  rw [renderNode_element]
  refine (hQ.note _).bind fun _ => ?_
  simp only [h, Treatment.ofKind, Treatment.handler, Treatment.renderTable] at hwithin ⊢
  split
  · exact hQ.fail _
  · split
    · exact hQ.fail _
    · have hbody := scoped_local.perform hwithin.1 False.elim fun n _ => local_renderNode n
      exact hbody.sealed_inTable.bind fun t => hQ.pure t

end Renderer

namespace Node

/-! ## Nodes that leave the labels around them alone -/

mutual

/-- a node with no row and no header cell in it, other than inside of tables -/
def labelFree : Node → Bool
  | .element head children items _ _ =>
    match head.kind with
    | .table => true
    | .tableRow => false
    | .tableCell => !head.isHeaderCell && labelFreeAll children
    | .list => labelFreeSome items
    | _ => labelFreeAll children
  | _ => true

def labelFreeAll : List Node → Bool
  | [] => true
  | n :: rest => labelFree n && labelFreeAll rest

def labelFreeSome : Option (List Node) → Bool
  | none => true
  | some nodes => labelFreeAll nodes

end

theorem labelFreeAll_iff {nodes : List Node} : labelFreeAll nodes = true ↔ ∀ n ∈ nodes, n.labelFree = true := by
  induction nodes with
  | nil => simp [labelFreeAll]
  | cons n rest ih => simp [labelFreeAll, ih]

end Node

theorem IsPart.labelFree {n : Node} {head : Head} {children : List Node} {items header rows : Option (List Node)}
    (hn : IsPart n (.element head children items header rows)) (ht : head.kind ≠ .table)
    (h : (Node.element head children items header rows).labelFree = true) : n.labelFree = true := by
  cases hn with
  | child notList _ mem =>
    refine Node.labelFreeAll_iff.1 ?_ n mem
    simp only [Node.labelFree] at h
    split at h <;> simp_all
  | item isList mem =>
    simp only [Node.labelFree, isList, Node.labelFreeSome] at h
    exact Node.labelFreeAll_iff.1 h n mem
  | entry isTable => exact absurd isTable ht
  | row isTable => exact absurd isTable ht

theorem Renderer.sealed_of_labelFree {n : Node} (h : n.labelFree = true) : Render.Sealed (plain.renderNode n) := by
  induction n using Node.induction_isPart with
  | element head children items header rows ih =>
    by_cases ht : head.kind = .table
    · exact sealed_renderNode_table ht children items header rows
    · have hlabels : ¬ Treatment.usesLabels head := by
        rintro (hrow | ⟨hcell, hflag⟩)
        · simp [Node.labelFree, hrow] at h
        · simp [Node.labelFree, hcell, hflag] at h
      rw [renderNode_element]
      refine (Render.compositional_sealed.note _).bind fun _ => ?_
      exact Render.sealed_perform (Treatment.handler_within head children items header rows) id hlabels
        fun m hm => ih m hm (hm.labelFree ht h)
  | cells entries => rw [renderNode_cells]; exact Render.compositional_sealed.fail _
  | stray value => rw [renderNode_stray]; exact Render.compositional_sealed.fail _

/-! ## Main result -/

/-- **Isolation of tables.** The built-in rendering of a node of kind table, well-formed or not and whatever it
holds, ends in the same way in any two contexts, with the same text or the same fault, and leaves the whole stack of
each as it was. -/
theorem table_isolated (n : Node) (h : n.hasKind .table = true) (labels labels' : LabelStack) :
    (Renderer.plain.renderNode n labels).result = (Renderer.plain.renderNode n labels').result ∧
      (Renderer.plain.renderNode n labels).labels = labels ∧
      (Renderer.plain.renderNode n labels').labels = labels' := by
  cases n with
  | element head children items header rows =>
    have hk : head.kind = .table := by simpa [Node.hasKind] using h
    obtain ⟨r, events, hs⟩ := Renderer.sealed_renderNode_table hk children items header rows
    rw [hs, hs]
    exact ⟨rfl, rfl, rfl⟩
  | cells entries => cases h
  | stray value => cases h

/-- a table whose only body cell holds a header cell that is in no header -/
def strayHeaderCell : Node :=
  Build.table [.text ['k']] [.cells [.node (Build.tableCell false [.node (Build.tableCell true [.text ['v']])])]]

theorem table_isolated_stray :
    strayHeaderCell.hasKind .table = true ∧
      (Renderer.plain.renderNode strayHeaderCell []).result = .ok ['k', ':', ' ', 'v', '\n', '\n'] ∧
      (Renderer.plain.renderNode strayHeaderCell [[['x']], []]).result = .ok ['k', ':', ' ', 'v', '\n', '\n'] ∧
      (Renderer.plain.renderNode strayHeaderCell [[['x']], []]).labels = [[['x']], []] := by
  have h := table_isolated strayHeaderCell rfl [] [[['x']], []]
  exact ⟨rfl, rfl, h.1 ▸ rfl, h.2.2⟩

end Unmark
