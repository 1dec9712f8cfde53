import Unmark.Document.Build
import Unmark.Proofs.Render.Footprint
import Unmark.Render.Renderer
/-!
The discipline of the label stack. Whatever a renderer is made of, and however a rendering ends, it leaves the stack
as deep as it was and all lists but the innermost as they were; the innermost list may have labels appended to it.

The invariant is the relation `Grown` between the stack before and the stack after. Every operation of the context
keeps it (`scoped_disciplined`), hence every script does, hence every rendering, however deep renderings may nest
(`disciplined_renderWithin`).

Results:
- renderings of nodes and of sequences of nodes, and whatever a handler does, keep the discipline; an empty stack
  stays empty;
- a handler that catches an error finds as many tables open as there were when it started what failed.
-/
namespace Unmark

/-- the second stack is the first one with labels appended to its innermost list, and changed in no other way -/
inductive Grown : LabelStack → LabelStack → Prop
  | empty : Grown [] []
  | top (labels added : List Text) (below : LabelStack) : Grown (labels :: below) ((labels ++ added) :: below)

namespace Grown

variable {s t u : LabelStack}

theorem refl (s : LabelStack) : Grown s s := by
  cases s with
  | nil => exact .empty
  | cons labels below => simpa using Grown.top labels [] below

theorem trans (h : Grown s t) (h' : Grown t u) : Grown s u := by
  cases h with
  | empty => exact h'
  | top labels added below =>
    cases h' with
    | top _ more _ => simpa using Grown.top labels (added ++ more) below

theorem length_eq (h : Grown s t) : t.length = s.length := by
  cases h <;> rfl

theorem tail_eq (h : Grown s t) : t.tail = s.tail := by
  cases h <;> rfl

theorem eq_nil (h : Grown [] t) : t = [] := by
  cases h
  rfl

theorem addLabel (label : Text) (s : LabelStack) : Grown s (Render.addLabel label s) := by
  cases s with
  | nil => exact .empty
  | cons labels below => exact .top labels [label] below

end Grown

namespace Render

variable {α β : Type}

/-! ## The invariant -/

/-- however the computation ends, the stack has grown at most -/
def Disciplined (x : Render α) : Prop := ∀ labels, Grown labels (x labels).labels

theorem Disciplined.bind {x : Render α} {f : α → Render β} (hx : Disciplined x) (hf : ∀ a, Disciplined (f a)) :
    Disciplined (x >>= f) := by
  intro labels
  cases h : (x labels).result with
  | ok a => rw [bind_ok h]; exact (hx labels).trans (hf a _)
  | error e => rw [bind_error h]; exact hx labels

/-- the list that was pushed for the table is the one that is popped, so nothing of it is left -/
theorem Disciplined.inTable {x : Render α} (hx : Disciplined x) : Disciplined (inTable x) := by
  intro labels
  have h : (x ([] :: labels)).labels.tail = labels := (hx ([] :: labels)).tail_eq
  show Grown labels (x ([] :: labels)).labels.tail
  rw [h]
  exact .refl labels

theorem scoped_disciplined : Scoped @Disciplined where
  pure _ labels := .refl labels
  fail _ labels := .refl labels
  note _ labels := .refl labels
  bind := .bind
  attempt hx := hx
  append label labels := .addLabel label labels
  innermost labels := .refl labels
  inTable := .inTable

theorem disciplined_perform {render : Node → Render Text} (hr : ∀ n, Disciplined (render n)) (s : Script) :
    Disciplined (perform render s) :=
  scoped_disciplined.perform s.within_all (fun _ labels => .refl labels) fun n _ => hr n

theorem disciplined_renderWithin (r : Renderer) (limit : Nat) (n : Node) : Disciplined (r.renderWithin limit n) := by
  induction limit generalizing n with
  | zero => exact scoped_disciplined.fail _
  | succ limit ih =>
    cases n with
    | element head children items header rows =>
      exact (scoped_disciplined.note _).bind fun _ => disciplined_perform ih _
    | cells entries => exact scoped_disciplined.fail _
    | stray value => exact scoped_disciplined.fail _

/-! ## Catching errors -/

/-- where an error is caught, the depth of the stack is that at which the failing part started -/
theorem perform_recovering_depth {render : Node → Render Text} (hr : ∀ n, Disciplined (render n)) (body : Script)
    (recover : Error → Nat → Script) (next : Text → Script) (labels : LabelStack) :
    perform render (.recovering body (fun e => .readDepth (recover e)) next) labels =
      perform render (.recovering body (fun e => recover e labels.length) next) labels := by
  have hdepth : (perform render body labels).labels.length = labels.length :=
    (disciplined_perform hr body labels).length_eq
  have hread : ∀ e, perform render (.readDepth (recover e)) (perform render body labels).labels =
      perform render (recover e labels.length) (perform render body labels).labels := by
    intro e
    rw [← hdepth]
    rfl
  have hok : (attempt (perform render body) labels).result = .ok (perform render body labels).result := rfl
  rw [perform, perform, bind_ok hok, bind_ok hok]
  cases (perform render body labels).result with
  | ok t => rfl
  | error f =>
    cases f with
    | reported e => simp only [attempt, bind_congr (hread e)]
    | _ => rfl

end Render

/-! ## Main result -/

open Render in
/-- **Stack discipline.** For every renderer, built-in or registered handlers alike, and every stack: rendering a
node, rendering a sequence of nodes, and whatever script a handler answers with leave the stack with labels appended
to its innermost list at most, whether they end with text or with a fault. An empty stack stays empty. A handler that
catches an error, however many tables were open where it arose, is told the depth at which the failing part started. -/
theorem stack_discipline (r : Renderer) (labels : LabelStack) :
    (∀ n, Grown labels (r.renderNode n labels).labels) ∧
    (∀ inline nodes, Grown labels (r.renderChildren inline nodes labels).labels) ∧
    (∀ limit script, Grown labels (perform (r.renderWithin limit) script labels).labels) ∧
    (∀ n, (r.renderNode n []).labels = []) ∧ (∀ inline nodes, (r.renderChildren inline nodes []).labels = []) ∧
    (∀ limit body (recover : Error → Nat → Script) next,
      perform (r.renderWithin limit) (.recovering body (fun e => .readDepth (recover e)) next) labels =
        perform (r.renderWithin limit) (.recovering body (fun e => recover e labels.length) next) labels) := by
  have hnode : ∀ n, Disciplined (r.renderNode n) := fun n => disciplined_renderWithin r _ n
  have hnodes : ∀ inline nodes, Disciplined (r.renderChildren inline nodes) :=
    fun inline nodes => scoped_disciplined.inOrder (fun n _ => hnode n) inline
  refine ⟨fun n => hnode n labels, fun inline nodes => hnodes inline nodes labels, ?_, ?_, ?_, ?_⟩
  · exact fun limit script => disciplined_perform (disciplined_renderWithin r limit) script labels
  · exact fun n => (hnode n []).eq_nil
  · exact fun inline nodes => (hnodes inline nodes []).eq_nil
  · intro limit body recover next
    exact perform_recovering_depth (disciplined_renderWithin r limit) body recover next labels

-- a header cell in no header is where a stack does grow
example : (Renderer.plain.renderNode (Build.tableCell true [.text ['a']]) [[], [['b']]]).labels = [[['a']], [['b']]] :=
  rfl

end Unmark
