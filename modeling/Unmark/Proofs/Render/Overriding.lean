import Unmark.Document.Build
import Unmark.Proofs.Document.Walk
import Unmark.Proofs.Render.Registration
/-!
Registered handlers and the documents that they do not concern. A handler comes into play where a node of its kind is
rendered, and rendering starts from the nodes of a document and goes from a node to its parts. The walk over the
document visits all of these, the rows of its tables apart. So it can be told from the walk that a handler is never
asked.

Results:
- `Untouched.of_isPart`: what the walk over a node says holds of its parts;
- `renderWithin_of_untouched`: a node that the handlers do not concern renders as without them;
- a document that does not hold the kinds that handlers are registered for renders as without them.
-/
namespace Unmark

/-- no handler is registered for a kind that the walk meets, and none for rows if a table in it has any -/
structure Untouched (o : RenderOptions) (visited : List Node) : Prop where
  kinds : ∀ n ∈ visited, ∀ k ∈ o.kinds, n.hasKind k = false
  rows : .tableRow ∉ o.kinds ∨ ∀ n ∈ visited, n.hasKind .table = true → n.rows.getD [] = []

variable {o : RenderOptions}

theorem Untouched.mono {visited others : List Node} (h : Untouched o visited) (hsub : others ⊆ visited) :
    Untouched o others where
  kinds n hn := h.kinds n (hsub hn)
  rows := h.rows.imp_right fun hrows n hn => hrows n (hsub hn)

theorem Node.hasKind_of_ne {n : Node} {k l : Kind} (h : n.hasKind k = true) (hne : k ≠ l) : n.hasKind l = false := by
  cases n with
  | element head children items header rows =>
    have hk : head.kind = k := by simpa [hasKind] using h
    simpa [hasKind, hk] using hne
  | cells entries => rfl
  | stray value => rfl

/-- a row is not visited, and then it is the kind of rows that no handler is registered for -/
theorem Untouched.of_isPart {n m : Node} (h : Untouched o m.walk) (hpart : IsPart n m) : Untouched o n.walk := by
  have hcases : ∀ x ∈ n.walk, x ∈ m.walk ∨ .tableRow ∉ o.kinds ∧ x.hasKind .tableRow = true := by
    intro x hx
    rcases Node.mem_walk_of_isPart_cases hpart hx with hvisited | ⟨htable, ⟨row, hmem, -⟩, hrow, rfl⟩
    · exact .inl hvisited
    · refine .inr ⟨h.rows.resolve_right fun hnone => ?_, hrow⟩
      rw [hnone m m.mem_walk_self htable] at hmem
      simp at hmem
  refine ⟨fun x hx k hk => ?_, h.rows.imp_right fun hnone x hx htable => ?_⟩
  · rcases hcases x hx with hvisited | ⟨hfree, hrow⟩
    · exact h.kinds x hvisited k hk
    · exact Node.hasKind_of_ne hrow fun heq => hfree (heq ▸ hk)
  · rcases hcases x hx with hvisited | ⟨-, hrow⟩
    · exact hnone x hvisited htable
    · rw [Node.hasKind_of_ne hrow (by decide)] at htable
      cases htable

namespace Renderer

open Render

/-- a kind that no handler is registered for has the built-in rule -/
theorem rule?_ofOptions {k : Kind} (h : k ∉ o.kinds) : (ofOptions o).rule? k = plain.rule? k := by
  have hnone : OrderedTable.get? k o.handlers.reverse = none :=
    OrderedTable.get?_eq_none (by simpa [OrderedTable.keys, RenderOptions.kinds] using h)
  rw [rule?_ofOptions_eq_or, hnone]
  rfl

/-- **Rendering goes where the walk goes.** By the bound on nested renderings, from a node to its parts. -/
theorem renderWithin_of_untouched (limit : Nat) {n : Node} (h : Untouched o n.walk) :
    (ofOptions o).renderWithin limit n = plain.renderWithin limit n := by
  induction limit generalizing n with
  | zero => rfl
  | succ limit ih =>
    cases n with
    | element head children items header rows =>
      have hkind : head.kind ∉ o.kinds := by
        intro hmem
        have hfree := h.kinds _ (Node.mem_walk_self _) _ hmem
        simp [Node.hasKind] at hfree
      have hrule : (ofOptions o).ruleFor head.kind = .builtin (.ofKind head.kind) := by
        rw [← ruleFor_plain, ruleFor, ruleFor, rule?_ofOptions hkind]
      have hmissing : (ofOptions o).missingRule head.kind = plain.missingRule head.kind := by
        rw [missingRule, missingRule, rule?_ofOptions hkind]
      rw [renderWithin_plain, renderWithin, hrule, hmissing, Rule.handler]
      rw [perform_congr (Treatment.handler_within head children items header rows) fun m hm => ih (h.of_isPart hm)]
    | cells entries => rfl
    | stray value => rfl

theorem renderChildren_of_untouched {nodes : List Node} (h : Untouched o (Node.walkAll nodes)) (inline : Bool) :
    (ofOptions o).renderChildren inline nodes = plain.renderChildren inline nodes := by
  refine inOrder_congr (fun n hn => renderWithin_of_untouched _ (h.mono fun x hx => ?_)) inline
  exact Node.mem_walkAll.2 ⟨n, hn, hx⟩

end Renderer

/-! ## Main result -/

open Renderer in
/-- **Handlers for other kinds make no difference.** Let handlers be registered for some kinds, and let the walk over
a document meet none of these. Rows of tables are rendered and not met, so let in addition none be registered for
rows, or no table that is met have a row. Then the document renders as without the handlers: to the same text or
fault, with the same events on the way, and in every context as well as on its own. -/
theorem unrelated_handlers_change_nothing (o : RenderOptions) (nodes : List Node)
    (hkinds : ∀ n ∈ Node.walkAll nodes, ∀ k ∈ o.kinds, n.hasKind k = false)
    (hrows : .tableRow ∉ o.kinds ∨ ∀ n ∈ Node.walkAll nodes, n.hasKind .table = true → n.rows.getD [] = []) :
    (ofOptions o).renderToText nodes = plain.renderToText nodes ∧
      ∀ inline labels, (ofOptions o).renderChildren inline nodes labels = plain.renderChildren inline nodes labels := by
  have hchildren := renderChildren_of_untouched (Untouched.mk hkinds hrows)
  refine ⟨?_, fun inline labels => by rw [hchildren]⟩
  rw [renderToText, renderToText, renderDocument, renderDocument, hchildren]

/-- handlers for rows and for strong text -/
def rowsAndStrong : RenderOptions :=
  ⟨[(.tableRow, fun _ => .done ['r']), (.strong, fun _ => .done ['s'])]⟩

/-- a table without rows, and a paragraph of a text and a link -/
def rowlessDocument : List Node :=
  [Build.table [.text ['a']] [],
    Build.paragraph [.text ['b'], .node (Build.link (some (.text "c")) none [.text ['d']])]]

open Renderer in
theorem rowsAndStrong_leave_rowlessDocument :
    (ofOptions rowsAndStrong).renderToText rowlessDocument = plain.renderToText rowlessDocument :=
  (unrelated_handlers_change_nothing rowsAndStrong rowlessDocument (by decide) (.inr (by decide))).1

-- a row is rendered although the walk does not meet it
example : ((Renderer.ofOptions ⟨[(.tableRow, fun _ => .done ['r'])]⟩).renderToText
    [Build.table [.text ['a']] [.cells [.text ['b']]]]).result = .ok ['r'] := rfl

end Unmark
