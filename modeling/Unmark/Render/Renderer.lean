import Unmark.Markdown.Options
import Unmark.Render.Context
import Unmark.Render.Registration
import Unmark.Render.Treatment
/-!
Renderers. A renderer holds one rule for each known kind: the built-in treatment of the kind, or a handler that was
registered for it. A node of any other kind is a plain block.

Rendering follows the rules from a node to the nodes it renders in turn. How deep that may go is bounded in advance,
by the height of the tree and the number of kinds that a node can be handed through on one level, with room to spare
for trees that handlers build on the way; only handlers that call each other without end reach the bound.
-/
namespace Unmark

/-- how nodes of a kind are rendered -/
inductive Rule where
  | builtin (treatment : Treatment)
  | custom (h : Handler)

def Rule.handler : Rule → Handler
  | .builtin treatment => treatment.handler
  | .custom h => h

/-- a rule for each known kind -/
structure Renderer where
  rules : OrderedTable Kind Rule

namespace Renderer

def builtinRules : OrderedTable Kind Rule :=
  Kind.known.map fun k => (k, .builtin (.ofKind k))

def ofOptions (o : RenderOptions) : Renderer :=
  ⟨OrderedTable.putAll builtinRules (o.handlers.map fun entry => (entry.1, .custom entry.2))⟩

def plain : Renderer := ⟨builtinRules⟩

/-- the renderer of some options, noting each handler that takes the place of a built-in one -/
def build (o : RenderOptions) : Logged Renderer :=
  ⟨o.kinds.map .overriding, .ok (ofOptions o)⟩

/-- the renderer of whatever options were given; parser options are refused -/
def ofAnyOptions : Option AnyOptions → Logged Renderer
  | none => build .none
  | some (.rendering o) => build o
  | some (.parsing _) =>
    .fail (.reported (.wrongOptions "plaintext" AnyOptions.renderingName AnyOptions.parsingName none none))

def rule? (r : Renderer) (k : Kind) : Option Rule :=
  OrderedTable.get? k r.rules

/-- the rule for a kind; kinds without one are plain blocks -/
def ruleFor (r : Renderer) (k : Kind) : Rule :=
  (r.rule? k).getD (.builtin .plainBlock)

/-- what is noted when a node of a kind is rendered: that the kind has no rule, if it has none -/
def missingRule (r : Renderer) (k : Kind) : List Event :=
  if (r.rule? k).isNone then [.noHandler k] else []

/-- renders a node, with renderings nested at most so deep -/
def renderWithin (r : Renderer) : Nat → Node → Render Text
  | 0, _ => Render.fail .endless
  | limit + 1, .element head children items header rows => do
    Render.note (r.missingRule head.kind)
    Render.perform (renderWithin r limit) ((r.ruleFor head.kind).handler (.element head children items header rows))
  | _ + 1, _ => Render.fail .missingMember

/-- how deep renderings may nest for a node -/
def depthLimit (n : Node) : Nat :=
  n.height * (Kind.known.length + 2) + 1000

def renderNode (r : Renderer) (n : Node) : Render Text :=
  r.renderWithin (depthLimit n) n

def renderChildren (r : Renderer) (inline : Bool) (nodes : List Node) : Render Text :=
  Render.inOrder r.renderNode inline nodes

/-- renders a document in a context of its own -/
def renderDocument (r : Renderer) (nodes : List Node) : Outcome Text :=
  r.renderChildren false nodes []

def renderToText (r : Renderer) (nodes : List Node) : Logged Text := do
  let o := r.renderDocument nodes
  let t ← (⟨o.events, o.result⟩ : Logged Text)
  Logged.note (.rendered nodes.length t.length)
  return t

end Renderer

end Unmark
