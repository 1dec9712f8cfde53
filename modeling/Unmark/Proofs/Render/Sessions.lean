import Unmark.Document.Build
import Unmark.Proofs.Render.BuiltIn
import Unmark.Proofs.Render.LabelStack
import Unmark.Proofs.Render.Registration
import Unmark.Render.Recipe
/-!
Nothing leaks from one rendering to the next. All calls of a session share one context, and all top-level nodes of a
document do; what one of them could leave behind for the next are labels, and outside of any table there are none.

For a session this is an invariant: a call on an empty stack leaves an empty stack, however it ends (`Call.leaves`), so
every call of a session starts from what a fresh context holds.

For a document, it says that the text is joined from what the nodes read as alone. There is one exception, to do with
errors and not with labels: a rendering that is no text is refused where texts are joined, after the other nodes. So
handlers are asked to answer text with text (`Script.Textual`), as the built-in ones do (`textual_handler`).

Results:
- a document reads as its nodes do alone, or fails as the first of them that fails alone;
- each call of a session ends as it would on a fresh context, whatever was called before and however that ended.
-/
namespace Unmark

/-! ## Text answered with text -/

namespace Node

mutual

/-- all literals in the tree are text, as they are declared to be -/
def textual : Node → Bool
  | .element head children items header rows =>
    (match head.literal with
      | .text _ => true
      | .other _ => false) &&
    textualAll children && textualSome items && textualSome header && textualSome rows
  | .cells entries => textualAll entries
  | .stray _ => true

def textualAll : List Node → Bool
  | [] => true
  | n :: rest => textual n && textualAll rest

def textualSome : Option (List Node) → Bool
  | none => true
  | some nodes => textualAll nodes

end

theorem textualAll_iff {nodes : List Node} : textualAll nodes = true ↔ ∀ n ∈ nodes, n.textual = true := by
  induction nodes with
  | nil => simp [textualAll]
  | cons n rest ih => simp [textualAll, ih]

theorem textualSome_iff {nodes : Option (List Node)} :
    textualSome nodes = true ↔ ∀ given, nodes = some given → ∀ n ∈ given, n.textual = true := by
  cases nodes with
  | none => simp [textualSome]
  | some given => simp [textualSome, textualAll_iff]

theorem textual_element {head : Head} {children : List Node} {items header rows : Option (List Node)} :
    (element head children items header rows).textual = true ↔
      (∃ t, head.literal = .text t) ∧ (∀ n ∈ children, n.textual = true) ∧
      (∀ given, items = some given → ∀ n ∈ given, n.textual = true) ∧
      (∀ given, header = some given → ∀ n ∈ given, n.textual = true) ∧
      ∀ given, rows = some given → ∀ n ∈ given, n.textual = true := by
  simp only [textual, Bool.and_eq_true, textualAll_iff, textualSome_iff, and_assoc]
  cases head.literal <;> simp

end Node

namespace Script

/-- the script never gives up for want of text, and renders no nodes on its own in which something else than text
stands for a literal -/
def Textual : Script → Prop
  | .done _ => True
  | .fail f => f ≠ .notText
  | .render n next => n.textual = true ∧ ∀ t, (next t).Textual
  | .renderAny _ next => ∀ t, (next t).Textual
  | .renderChildren _ _ next => ∀ t, (next t).Textual
  | .appendLabel _ next => next.Textual
  | .readLabels next => ∀ labels, (next labels).Textual
  | .readDepth next => ∀ d, (next d).Textual
  | .inTable body next => body.Textual ∧ ∀ t, (next t).Textual
  | .recovering body recover next => body.Textual ∧ (∀ e, (recover e).Textual) ∧ ∀ t, (next t).Textual

theorem textual_malformed (kind : Kind) (field : String) (defect : Defect) :
    (malformed kind field defect).Textual := by
  rw [malformed, Textual]
  exact fun h => by cases h

theorem textual_renderOneByOne {before : List Text} {next : List Text → Script} {nodes : List Node}
    (hnext : ∀ texts, (next texts).Textual) : (renderOneByOne before next nodes).Textual := by
  induction nodes generalizing before with
  | nil => exact hnext _
  | cons n rest ih =>
    intro t
    cases t with
    | some t => exact ih
    | none => exact fun h => by cases h

end Script

namespace Treatment

open Script

variable {literal : Literal} {children : List Node}

theorem textual_renderHeader {next : Script} (hnext : next.Textual) (entries : List Node) :
    (renderHeader next entries).Textual := by
  induction entries with
  | nil => exact hnext
  | cons entry rest ih =>
    rw [renderHeader]
    split
    · exact fun _ => ih
    · exact textual_malformed _ _ _

theorem textual_renderRows (before : Option Text) (rows : List Node) : (renderRows before rows).Textual := by
  induction rows generalizing before with
  | nil =>
    cases before with
    | some t => trivial
    | none => exact fun h => by cases h
  | cons row rest ih =>
    rw [renderRows]
    cases hnode : rowNode row with
    | ok n => exact fun t => ih _
    | error f =>
      -- what is no row is refused as malformed or as of the wrong type
      show f ≠ .notText
      rintro rfl
      cases row with
      | element head children items header rows =>
        rw [rowNode] at hnode
        split at hnode <;> cases hnode
      | cells entries => cases hnode
      | stray value => cases hnode

theorem textual_renderCells (before : List Text) (cells : List Node) : (renderCells before cells).Textual := by
  induction cells generalizing before with
  | nil => exact fun labels => trivial
  | cons cell rest ih =>
    rw [renderCells]
    split
    · exact fun t => ih _
    · exact textual_malformed _ _ _

/-- **The built-in handlers answer text with text.** -/
theorem textual_handler (treatment : Treatment) {n : Node} (h : n.textual = true) : (treatment.handler n).Textual := by
  cases n with
  | cells entries => exact fun hf => by cases hf
  | stray value => exact fun hf => by cases hf
  | element head children items header rows =>
    obtain ⟨⟨t, ht⟩, hchildren, -⟩ := Node.textual_element.1 h
    cases treatment with
    | suppressed => trivial
    | inline =>
      simp only [handler, renderInline, ht]
      split
      · trivial
      · exact fun _ => trivial
    | escapedBlock =>
      simp only [handler, renderEscaped, ht]
      trivial
    | plainBlock =>
      simp only [handler, renderPlainBlock, ht]
      split
      · trivial
      · split <;> exact fun _ => trivial
    | paragraph =>
      simp only [handler]
      rw [renderParagraph.eq_def]
      split
      · rename_i only
        split
        · exact ⟨hchildren only List.mem_cons_self, fun _ => trivial⟩
        · exact fun _ => trivial
      · exact fun _ => trivial
    | link =>
      simp only [handler, renderLink, ht]
      split
      · exact textual_malformed _ _ _
      · split
        · trivial
        · exact fun _ => trivial
    | image =>
      simp only [handler, renderImage, ht]
      split
      · exact textual_malformed _ _ _
      · split
        · trivial
        · exact fun _ => trivial
    | list =>
      simp only [handler, renderList]
      split
      · exact textual_malformed _ _ _
      · trivial
      · exact textual_renderOneByOne fun _ => trivial
    | listItem => exact fun _ => trivial
    | table =>
      simp only [handler, renderTable]
      split
      · exact textual_malformed _ _ _
      · split
        · exact textual_malformed _ _ _
        · exact ⟨textual_renderHeader (textual_renderRows _ _) _, fun _ => trivial⟩
    | tableRow => exact textual_renderCells [] children
    | tableCell =>
      intro text
      cases head.isHeaderCell <;> trivial

end Treatment

namespace Render

variable {α β : Type}

theorem worded_perform {render : Node → Render Text} (hr : ∀ n, n.textual = true → Worded (render n)) {s : Script}
    (hs : s.Textual) : Worded (perform render s) := by
  induction s with
  | done t => exact fun labels h => by cases h
  | fail f => exact worded_fail hs
  | render n next ih => exact (hr n hs.1).bind fun t => ih t (hs.2 t)
  | renderAny n next ih => exact (worded_text? (render n)).bind fun t => ih t (hs t)
  | renderChildren nodes inline next ih => exact (worded_inOrder render inline nodes).bind fun t => ih t (hs t)
  | appendLabel label next ih =>
    have happend : Worded (append label) := fun labels h => by cases h
    exact happend.bind fun _ => ih hs
  | readLabels next ih =>
    have hread : Worded innermost := fun labels h => by cases h
    exact hread.bind fun labels => ih labels (hs labels)
  | readDepth next ih =>
    have hread : Worded depth := fun labels h => by cases h
    exact hread.bind fun d => ih d (hs d)
  | inTable body next ihBody ih => exact (ihBody hs.1).inTable.bind fun t => ih t (hs.2 t)
  | recovering body recover next ihBody ihRecover ih =>
    rw [perform]
    -- a fault that is not caught is one of the body, so the stack of the body is looked at with it
    intro labels
    have hok : (attempt (perform render body) labels).result = .ok (perform render body labels).result := rfl
    rw [bind_ok hok]
    cases hbody : (perform render body labels).result with
    | ok t => exact ih t (hs.2.2 t) _
    | error f =>
      cases f with
      | reported e => exact (ihRecover e (hs.2.1 e)).bind (fun t => ih t (hs.2.2 t)) _
      | notText => exact absurd hbody (ihBody hs.1 labels)
      | _ => exact fun h => by cases h

end Render

namespace Renderer

open Render

/-- the registered handlers are of their declared type: they answer text with text -/
def Textual (r : Renderer) : Prop := ∀ k h, r.ruleFor k = .custom h → ∀ n, n.textual = true → (h n).Textual

/-- it is enough to look at the handlers that were registered -/
theorem textual_ofOptions {o : RenderOptions}
    (h : ∀ entry ∈ o.handlers, ∀ n, n.textual = true → (entry.2 n).Textual) : (ofOptions o).Textual := by
  intro k custom hrule
  cases hget : (ofOptions o).rule? k with
  | none =>
    rw [ruleFor, hget] at hrule
    cases hrule
  | some rule =>
    have hcustom : rule = .custom custom := by
      rw [ruleFor, hget] at hrule
      exact hrule
    subst hcustom
    rw [rule?_ofOptions_eq_or, Option.or_eq_some_iff] at hget
    rcases hget with hregistered | ⟨-, hbuiltin⟩
    · obtain ⟨registered, hlast, heq⟩ := Option.map_eq_some_iff.1 hregistered
      cases heq
      exact h _ (List.mem_reverse.1 (OrderedTable.mem_of_get? hlast))
    · -- no built-in rule is a registered handler
      have hplain : plain.ruleFor k = .custom custom := by rw [ruleFor, hbuiltin]; rfl
      have hnone : ∀ k h, plain.ruleFor k ≠ .custom h := fun k h heq => by cases k <;> cases heq
      exact absurd hplain (hnone k custom)

theorem worded_renderWithin {r : Renderer} (hr : r.Textual) (limit : Nat) {n : Node} (hn : n.textual = true) :
    Worded (r.renderWithin limit n) := by
  induction limit generalizing n with
  | zero => exact worded_fail fun h => by cases h
  | succ limit ih =>
    cases n with
    | element head children items header rows =>
      have hnote : Worded (note (r.missingRule head.kind)) := fun labels h => by cases h
      refine hnote.bind fun _ => worded_perform (fun m hm => ih hm) ?_
      cases hrule : r.ruleFor head.kind with
      | builtin treatment => exact treatment.textual_handler hn
      | custom h => exact hr head.kind h hrule _ hn
    | cells entries => exact worded_fail fun h => by cases h
    | stray value => exact worded_fail fun h => by cases h

/-! ## Documents -/

/-- the first node of a document and the others, each from an empty stack -/
theorem renderChildren_cons {r : Renderer} {n : Node} (h : Worded (r.renderNode n)) (rest : List Node) :
    (r.renderChildren false (n :: rest) []).result = (r.renderNode n []).result.bind fun t =>
      (r.renderChildren false rest []).result.map (t ++ ·) := by
  have hempty : (r.renderNode n []).labels = [] := (disciplined_renderWithin r _ n []).eq_nil
  rw [renderChildren, inOrder_cons h]
  cases hn : (r.renderNode n []).result with
  | error f => rw [bind_error hn]; rfl
  | ok t =>
    rw [bind_ok hn, hempty]
    show ((inOrder r.renderNode false rest >>= fun others => Pure.pure (t ++ others)) []).result =
      (inOrder r.renderNode false rest []).result.map (t ++ ·)
    cases hrest : (inOrder r.renderNode false rest []).result with
    | error f => rw [bind_error hrest]; rfl
    | ok others => rw [bind_ok hrest]; rfl

/-- a document of one node reads as that node -/
theorem renderToText_singleton {r : Renderer} {n : Node} (h : Worded (r.renderNode n)) :
    (r.renderToText [n]).result = (r.renderNode n []).result := by
  rw [renderToText_result, renderChildren_cons h]
  have hnone : (r.renderChildren false [] []).result = .ok [] := rfl
  rw [hnone]
  cases (r.renderNode n []).result with
  | error f => rfl
  | ok t => exact congrArg Except.ok (List.append_nil t)

/-- **A document, node by node.** -/
theorem renderToText_eq_mapM {r : Renderer} {nodes : List Node} (h : ∀ n ∈ nodes, Worded (r.renderNode n)) :
    (r.renderToText nodes).result = (nodes.mapM fun n => (r.renderToText [n]).result).map List.flatten := by
  induction nodes with
  | nil => rfl
  | cons n rest ih =>
    obtain ⟨hn, hrest⟩ := List.forall_mem_cons.1 h
    rw [renderToText_result, renderChildren_cons hn, ← renderToText_result r rest, ih hrest, List.mapM_cons,
      renderToText_singleton hn]
    cases (r.renderNode n []).result with
    | error f => rfl
    | ok t => cases rest.mapM fun n => (r.renderToText [n]).result <;> rfl

end Renderer

/-! ## Sessions -/

/-- a call on a context: a node to render, or nodes, as blocks or inside a line -/
inductive Call where
  | node (n : Node)
  | children (nodes : List Node) (inline : Bool)

def Call.run (r : Renderer) : Call → Render Text
  | .node n => r.renderNode n
  | .children nodes inline => r.renderChildren inline nodes

namespace Renderer

/-- calls on one context, one after the other; each of them starts from the labels that the one before left, be it with
a text or with a fault -/
def session (r : Renderer) (labels : LabelStack) : List Call → List (Outcome Text)
  | [] => []
  | call :: rest =>
    let outcome := call.run r labels
    outcome :: session r outcome.labels rest

end Renderer

/-- a call leaves the tables open that were open, and no label in any but the innermost of them -/
theorem Call.grown (r : Renderer) (call : Call) (labels : LabelStack) : Grown labels (call.run r labels).labels := by
  have hnode : ∀ n, Render.Disciplined (r.renderNode n) := fun n => Render.disciplined_renderWithin r _ n
  cases call with
  | node n => exact hnode n labels
  | children nodes inline => exact Render.scoped_disciplined.inOrder (fun n _ => hnode n) inline labels

/-- so on an empty stack, it leaves an empty stack -/
theorem Call.leaves (r : Renderer) (call : Call) : (call.run r []).labels = [] := (call.grown r []).eq_nil

theorem Renderer.session_eq_map (r : Renderer) (calls : List Call) :
    r.session [] calls = calls.map fun call => call.run r [] := by
  induction calls with
  | nil => rfl
  | cons call rest ih =>
    rw [session, List.map_cons]
    simp only [call.leaves r, ih]

/-! ## Main result -/

/-- **No state leaks between renderings.** Let the handlers and the document be of their declared types: a handler
returns a text wherever literals are text, and the literals of the document are. Then the document reads as its nodes do
alone, one after the other, or fails as the first of them that fails alone; without these types a rendering that is no
text is refused only when the document is joined, and a node after it may fail first. And for every renderer, of these
types or not, each call of a session outside of any table ends, events and labels included, as the same call does on a
fresh context, whatever was called before and however that ended. -/
theorem renderings_independent (r : Renderer) :
    (r.Textual → ∀ nodes : List Node, (∀ n ∈ nodes, n.textual = true) →
      (r.renderToText nodes).result = (nodes.mapM fun n => (r.renderToText [n]).result).map List.flatten) ∧
    ∀ labels : LabelStack, labels.length = 0 → ∀ calls : List Call,
      r.session labels calls = calls.map fun call => call.run r [] := by
  refine ⟨fun hr nodes hnodes => ?_, fun labels hempty calls => ?_⟩
  · exact r.renderToText_eq_mapM fun n hn => Renderer.worded_renderWithin hr _ (hnodes n hn)
  · rw [List.length_eq_zero_iff.1 hempty]
    exact r.session_eq_map calls

/-- a renderer whose headings push a label and open a table of their own, whose quotations catch errors, and which
refuses code -/
def eventfulRenderer : Renderer :=
  .ofOptions ⟨[
    (.heading, fun n => .appendLabel ['p'] (Handler.underLabels ⟨false, true⟩ [['q']] n)),
    (.blockquote, Handler.guarded ⟨false, false⟩ fun _ depth => Nat.toDigits 10 depth),
    (.generic, Handler.labels),
    (.codeBlock, Handler.failing "no code" "custom")]⟩

theorem textual_eventfulRenderer : eventfulRenderer.Textual := by
  refine Renderer.textual_ofOptions fun entry hentry n _ => ?_
  simp only [List.mem_cons, List.not_mem_nil, or_false] at hentry
  rcases hentry with rfl | rfl | rfl | rfl
  · exact ⟨fun _ => trivial, fun _ => trivial⟩
  · exact ⟨fun _ => trivial, fun e d => trivial, fun _ => trivial⟩
  · exact fun d labels => trivial
  · exact fun h => by cases h

/-- a table in a cell of a table, with code in its only cell -/
def brokenTable : Node :=
  let inner := Build.table [.text ['i']] [.cells [.node (Build.tableCell false [.node (Build.codeBlock [] none)])]]
  Build.table [.text ['o']] [.cells [.node (Build.tableCell false [.node inner])]]

/-- the quotation of it reads as the depth at which the error is caught -/
theorem renderNode_quotedTable :
    (eventfulRenderer.renderNode (Build.blockquote [.node brokenTable]) []).result = .ok ['0'] := by
  have hscript : eventfulRenderer.renderNode (Build.blockquote [.node brokenTable]) [] =
      Render.perform (eventfulRenderer.renderWithin 1191) (.recovering (.renderChildren [brokenTable] false .done)
        (fun _ => .readDepth fun depth => .done (Nat.toDigits 10 depth)) .done) [] := rfl
  rw [hscript, Render.perform]
  rfl

/-- a heading, a quotation of a table that cannot be rendered, and a node that tells the labels it finds -/
def eventfulDocument : List Node :=
  [.branch .heading [Build.text ['a']], Build.blockquote [.node brokenTable], .leaf .generic [],
    Build.paragraph [.text ['b']]]

theorem renderings_independent_eventful :
    (∀ n ∈ eventfulDocument, n.textual = true) ∧
    (eventfulRenderer.renderToText eventfulDocument).result = .ok ['a', '0', '0', ':', 'b', '\n', '\n'] ∧
    (eventfulRenderer.renderToText (eventfulDocument ++ [brokenTable, Build.link none none []])).result =
      .error (.reported (.rendering "no code" (some "custom") none)) ∧
    (eventfulRenderer.session [] [.node brokenTable, .children [.branch .heading [brokenTable]] true,
      .node (.leaf .generic [])]).map Outcome.result =
        [.error (.reported (.rendering "no code" (some "custom") none)),
          .error (.reported (.rendering "no code" (some "custom") none)), .ok ['0', ':']] := by
  have hquote : (eventfulRenderer.renderToText [Build.blockquote [.node brokenTable]]).result = .ok ['0'] := by
    rw [Renderer.renderToText_singleton (Renderer.worded_renderWithin textual_eventfulRenderer _ (by decide))]
    exact renderNode_quotedTable
  refine ⟨by decide, ?_, ?_, ?_⟩
  · rw [(renderings_independent eventfulRenderer).1 textual_eventfulRenderer _ (by decide)]
    simp only [eventfulDocument, List.mapM_cons, List.mapM_nil, hquote]
    rfl
  · rw [(renderings_independent eventfulRenderer).1 textual_eventfulRenderer _ (by decide)]
    simp only [eventfulDocument, List.cons_append, List.nil_append, List.mapM_cons, List.mapM_nil, hquote]
    rfl
  · rw [(renderings_independent eventfulRenderer).2 [] rfl]
    rfl

end Unmark
