import Mathlib.Data.List.Forall2
import Unmark.Proofs.Render.BuiltIn
/-!
Two renderings side by side. Two scripts run in lockstep under a relation of nodes if they take the same steps with
the same texts and labels, and wherever one renders a node the other one renders a related node. A relation under
which the built-in handlers of related nodes run in lockstep (`Lockstep`) is one that rendering cannot see: related
nodes render to the same text or the same fault, and leave the same stack (`alike_renderNode`). What is noted on the
way may differ.

Lists, tables and rows go through what they hold one by one, so they run in lockstep over related items, cells and rows
whatever the relation is.
-/
namespace Unmark

/-! ## Scripts -/

/-- the scripts take the same steps, on related nodes -/
inductive Script.Parallel (R : Node → Node → Prop) : Script → Script → Prop
  | done (t : Text) : Parallel R (.done t) (.done t)
  | fail (f : Fault) : Parallel R (.fail f) (.fail f)
  | render {n m : Node} {next next' : Text → Script} (related : R n m) (more : ∀ t, Parallel R (next t) (next' t)) :
      Parallel R (.render n next) (.render m next')
  | renderAny {n m : Node} {next next' : Option Text → Script} (related : R n m)
      (more : ∀ t, Parallel R (next t) (next' t)) : Parallel R (.renderAny n next) (.renderAny m next')
  | renderChildren {nodes nodes' : List Node} {inline : Bool} {next next' : Text → Script}
      (related : List.Forall₂ R nodes nodes') (more : ∀ t, Parallel R (next t) (next' t)) :
      Parallel R (.renderChildren nodes inline next) (.renderChildren nodes' inline next')
  | appendLabel (label : Text) {next next' : Script} (more : Parallel R next next') :
      Parallel R (.appendLabel label next) (.appendLabel label next')
  | readLabels {next next' : List Text → Script} (more : ∀ labels, Parallel R (next labels) (next' labels)) :
      Parallel R (.readLabels next) (.readLabels next')
  | readDepth {next next' : Nat → Script} (more : ∀ d, Parallel R (next d) (next' d)) :
      Parallel R (.readDepth next) (.readDepth next')
  | inTable {body body' : Script} {next next' : Text → Script} (inner : Parallel R body body')
      (more : ∀ t, Parallel R (next t) (next' t)) : Parallel R (.inTable body next) (.inTable body' next')
  | recovering {body body' : Script} {recover recover' : Error → Script} {next next' : Text → Script}
      (inner : Parallel R body body') (caught : ∀ e, Parallel R (recover e) (recover' e))
      (more : ∀ t, Parallel R (next t) (next' t)) :
      Parallel R (.recovering body recover next) (.recovering body' recover' next')

theorem Script.parallel_renderText {R : Node → Node → Prop} {n m : Node} (h : R n m) {next next' : Text → Script}
    (hnext : ∀ t, Parallel R (next t) (next' t)) : Parallel R (renderText n next) (renderText m next') := by
  refine .renderAny h fun t => ?_
  cases t with
  | some t => exact hnext t
  | none => exact .fail _

theorem Script.parallel_renderOneByOne {R : Node → Node → Prop} {nodes nodes' : List Node}
    (h : List.Forall₂ R nodes nodes') {before : List Text} {next : List Text → Script}
    (hnext : ∀ texts, Parallel R (next texts) (next texts)) :
    Parallel R (renderOneByOne before next nodes) (renderOneByOne before next nodes') := by
  induction h generalizing before with
  | nil => exact hnext before.reverse
  | cons first more ih => exact parallel_renderText first fun t => ih

namespace Render

variable {α β : Type}

/-! ## Computations -/

/-- on every stack, the two end with the same result or fault and leave the same stack -/
def Alike (x y : Render α) : Prop :=
  ∀ labels, (x labels).result = (y labels).result ∧ (x labels).labels = (y labels).labels

theorem Alike.refl (x : Render α) : Alike x x := fun _ => ⟨rfl, rfl⟩

theorem Alike.symm {x y : Render α} (h : Alike x y) : Alike y x := fun labels => ⟨(h labels).1.symm, (h labels).2.symm⟩

theorem Alike.trans {x y z : Render α} (h : Alike x y) (h' : Alike y z) : Alike x z :=
  fun labels => ⟨(h labels).1.trans (h' labels).1, (h labels).2.trans (h' labels).2⟩

instance : Trans (@Alike α) (@Alike α) (@Alike α) := ⟨Alike.trans⟩

theorem Alike.bind {x y : Render α} {f g : α → Render β} (h : Alike x y) (hf : ∀ a, Alike (f a) (g a)) :
    Alike (x >>= f) (y >>= g) := by
  intro labels
  obtain ⟨hresult, hlabels⟩ := h labels
  cases hx : (x labels).result with
  | ok a =>
    have hy : (y labels).result = .ok a := hresult.symm.trans hx
    rw [bind_ok hx, bind_ok hy, hlabels]
    exact hf a (y labels).labels
  | error e =>
    have hy : (y labels).result = .error e := hresult.symm.trans hx
    rw [bind_error hx, bind_error hy]
    exact ⟨rfl, hlabels⟩

theorem alike_pure_bind (a : α) (f : α → Render β) : Alike (Pure.pure a >>= f) (f a) := fun _ => ⟨rfl, rfl⟩

theorem Alike.attempt {x y : Render α} (h : Alike x y) : Alike (attempt x) (attempt y) := by
  intro labels
  obtain ⟨hresult, hlabels⟩ := h labels
  exact ⟨congrArg Except.ok hresult, hlabels⟩

theorem Alike.text? {x y : Render Text} (h : Alike x y) : Alike (text? x) (text? y) := h.attempt.bind fun _ => .refl _

theorem Alike.inTable {x y : Render α} (h : Alike x y) : Alike (inTable x) (inTable y) := by
  intro labels
  obtain ⟨hresult, hlabels⟩ := h ([] :: labels)
  exact ⟨hresult, congrArg List.tail hlabels⟩

variable {R : Node → Node → Prop} {render render' : Node → Render Text}

theorem alike_inOrder_cons {n m : Node} {rest rest' : List Node} {inline : Bool} (hinline : n.isInline = m.isInline)
    (hfirst : Alike (render n) (render' m))
    (hrest : Alike (inOrder render inline rest) (inOrder render' inline rest')) :
    Alike (inOrder render inline (n :: rest)) (inOrder render' inline (m :: rest')) := by
  rw [inOrder, inOrder, hinline]
  refine hfirst.text?.bind fun r => ?_
  split
  · exact hrest.bind fun others => Alike.refl _
  · split
    · exact Alike.refl _
    · exact hrest.bind fun _ => Alike.refl _

theorem alike_inOrder {nodes nodes' : List Node} (h : List.Forall₂ R nodes nodes')
    (hinline : ∀ n m, R n m → n.isInline = m.isInline) (hr : ∀ n m, R n m → Alike (render n) (render' m))
    (inline : Bool) : Alike (inOrder render inline nodes) (inOrder render' inline nodes') := by
  induction h with
  | nil => exact Alike.refl _
  | cons first more ih => exact alike_inOrder_cons (hinline _ _ first) (hr _ _ first) ih

/-- scripts in parallel cannot be told apart if renderings of related nodes cannot -/
theorem alike_perform {s s' : Script} (h : s.Parallel R s') (hinline : ∀ n m, R n m → n.isInline = m.isInline)
    (hr : ∀ n m, R n m → Alike (render n) (render' m)) : Alike (perform render s) (perform render' s') := by
  induction h with
  | done t => exact Alike.refl _
  | fail f => exact Alike.refl _
  | render related more ih => exact (hr _ _ related).bind ih
  | renderAny related more ih => exact (hr _ _ related).text?.bind ih
  | renderChildren related more ih => exact (alike_inOrder related hinline hr _).bind ih
  | appendLabel label more ih => exact (Alike.refl _).bind fun _ => ih
  | readLabels more ih => exact (Alike.refl _).bind ih
  | readDepth more ih => exact (Alike.refl _).bind ih
  | inTable inner more ihInner ih => exact ihInner.inTable.bind ih
  | recovering inner caught more ihInner ihCaught ih =>
    rw [perform, perform]
    refine ihInner.attempt.bind fun r => ?_
    split
    · exact ih _
    · exact (ihCaught _).bind ih
    · exact Alike.refl _

end Render

/-! ## Lists, tables and rows -/

namespace Treatment

open Script

variable {R : Node → Node → Prop}

theorem parallel_renderList (kind : Kind) {items items' : Option (List Node)}
    (h : Option.Rel (List.Forall₂ R) items items') : (renderList kind items).Parallel R (renderList kind items') := by
  cases h with
  | none => exact .fail _
  | some h =>
    cases h with
    | nil => exact .done _
    | cons first more => exact parallel_renderOneByOne (.cons first more) fun texts => .done _

theorem parallel_renderHeader (hcell : ∀ n m, R n m → m.hasKind .tableCell = n.hasKind .tableCell)
    {next next' : Script} (hnext : next.Parallel R next') {entries entries' : List Node}
    (h : List.Forall₂ R entries entries') : (renderHeader next entries).Parallel R (renderHeader next' entries') := by
  induction h with
  | nil => exact hnext
  | cons first more ih =>
    rw [renderHeader, renderHeader, hcell _ _ first]
    split
    · exact .renderAny first fun t => ih
    · exact .fail _

/-- in place of rows, the two stand for related nodes, or both for none with the same fault -/
inductive RowsAgree (R : Node → Node → Prop) (row row' : Node) : Prop
  | nodes {n m : Node} (first : rowNode row = .ok n) (second : rowNode row' = .ok m) (related : R n m)
  | fault {f : Fault} (first : rowNode row = .error f) (second : rowNode row' = .error f)

theorem parallel_renderRows (before : Option Text) {rows rows' : List Node}
    (h : List.Forall₂ (RowsAgree R) rows rows') :
    (renderRows before rows).Parallel R (renderRows before rows') := by
  induction h generalizing before with
  | nil =>
    cases before with
    | some t => exact .done t
    | none => exact .fail _
  | cons first more ih =>
    rw [renderRows, renderRows]
    cases first with
    | nodes hn hm related =>
      rw [hn, hm]
      exact .renderAny related fun t => ih _
    | fault hn hm =>
      rw [hn, hm]
      exact .fail _

theorem parallel_renderTable (kind : Kind) (hcell : ∀ n m, R n m → m.hasKind .tableCell = n.hasKind .tableCell)
    {header header' rows rows' : Option (List Node)} (hheader : Option.Rel (List.Forall₂ R) header header')
    (hrows : Option.Rel (List.Forall₂ (RowsAgree R)) rows rows') :
    (renderTable kind header rows).Parallel R (renderTable kind header' rows') := by
  cases hheader with
  | none => exact .fail _
  | some hentries =>
    cases hrows with
    | none => exact .fail _
    | some hrows => exact .inTable (parallel_renderHeader hcell (parallel_renderRows (some []) hrows) hentries) .done

theorem parallel_renderCells (hcell : ∀ n m, R n m → m.hasKind .tableCell = n.hasKind .tableCell)
    (before : List Text) {cells cells' : List Node} (h : List.Forall₂ R cells cells') :
    (renderCells before cells).Parallel R (renderCells before cells') := by
  induction h generalizing before with
  | nil => exact .readLabels fun labels => .done _
  | cons first more ih =>
    rw [renderCells, renderCells, hcell _ _ first]
    split
    · exact .renderAny first fun t => ih _
    · exact .fail _

end Treatment

/-! ## Built-in rendering -/

namespace Renderer

open Render

/-- the script of the built-in handler for a node -/
def builtinScript : Node → Script
  | .element head children items header rows =>
    (Treatment.ofKind head.kind).handler (.element head children items header rows)
  | _ => .fail .missingMember

/-- a relation that the built-in handlers cannot see -/
structure Lockstep (R : Node → Node → Prop) : Prop where
  /-- related nodes stand in a line both or neither -/
  inline : ∀ n m, R n m → n.isInline = m.isInline
  /-- and their handlers take the same steps, on related nodes again -/
  scripts : ∀ n m, R n m → (builtinScript n).Parallel R (builtinScript m)

theorem alike_builtinScript (limit : Nat) (n : Node) :
    Alike (plain.renderWithin (limit + 1) n) (perform (plain.renderWithin limit) (builtinScript n)) := by
  cases n with
  | element head children items header rows =>
    rw [renderWithin_plain]
    exact fun labels => ⟨rfl, rfl⟩
  | cells entries => exact Alike.refl _
  | stray value => exact Alike.refl _

variable {R : Node → Node → Prop}

/-- by induction on how deep renderings may nest, so that the relation need not respect the height of nodes -/
theorem Lockstep.alike_renderWithin (hR : Lockstep R) (limit : Nat) {n m : Node} (h : R n m) :
    Alike (plain.renderWithin limit n) (plain.renderWithin limit m) := by
  induction limit generalizing n m with
  | zero => exact Alike.refl _
  | succ limit ih =>
    have hscripts := alike_perform (hR.scripts n m h) hR.inline fun _ _ => ih
    exact (alike_builtinScript limit n).trans (hscripts.trans (alike_builtinScript limit m).symm)

theorem Lockstep.alike_renderNode (hR : Lockstep R) {n m : Node} (h : R n m) :
    Alike (plain.renderNode n) (plain.renderNode m) := by
  rw [renderNode_eq_renderWithin (Nat.le_max_left n.height m.height)]
  rw [renderNode_eq_renderWithin (Nat.le_max_right n.height m.height)]
  exact hR.alike_renderWithin _ h

/-- **Documents of related nodes render to the same text or the same fault.** -/
theorem Lockstep.renderToText_eq (hR : Lockstep R) {nodes nodes' : List Node} (h : List.Forall₂ R nodes nodes') :
    (plain.renderToText nodes).result = (plain.renderToText nodes').result := by
  rw [renderToText_result, renderToText_result]
  exact (alike_inOrder h hR.inline (fun n m hnm => hR.alike_renderNode hnm) false []).1

end Renderer

end Unmark
