import Unmark.Document.Node
import Unmark.Error
/-!
What a handler may do. A handler answers a node with a script: a description of the steps it takes, each of which
names one operation of the rendering context and says how to go on from its answer. Scripts can render nodes, read
and extend the labels of the innermost table, open a scope for a table of their own, give up, and catch an error.
They can do nothing else, so whatever holds of these operations holds of every handler.
-/
namespace Unmark

/-- the steps that a handler takes -/
inductive Script where
  /-- answers with text -/
  | done (t : Text)
  /-- gives up -/
  | fail (f : Fault)
  /-- renders a node and goes on with its text -/
  | render (n : Node) (next : Text → Script)
  /-- renders a node and goes on with its text, or without one if the rendering is no text -/
  | renderAny (n : Node) (next : Option Text → Script)
  /-- renders nodes in order, as blocks or inside a line, and goes on with the joined text -/
  | renderChildren (nodes : List Node) (inline : Bool) (next : Text → Script)
  /-- appends a label to those of the innermost table -/
  | appendLabel (label : Text) (next : Script)
  /-- reads the labels of the innermost table -/
  | readLabels (next : List Text → Script)
  /-- reads how many tables are open -/
  | readDepth (next : Nat → Script)
  /-- runs a script with a fresh table open and goes on with its text -/
  | inTable (body : Script) (next : Text → Script)
  /-- runs a script, and another one in its place if it ends with an error, and goes on with the text -/
  | recovering (body : Script) (recover : Error → Script) (next : Text → Script)

/-- turns a node into its plain text, step by step -/
abbrev Handler := Node → Script

namespace Script

def malformed (kind : Kind) (field : String) (defect : Defect) : Script :=
  .fail (.reported (.malformedNode kind.name field defect))

/-- renders a node and goes on with its text; a rendering that is no text is refused at once -/
def renderText (n : Node) (next : Text → Script) : Script :=
  .renderAny n fun
    | some t => next t
    | none => .fail .wrongType

/-- renders nodes one by one and goes on with their texts; `before` holds earlier texts, last first -/
def renderOneByOne (before : List Text) (next : List Text → Script) : List Node → Script
  | [] => next before.reverse
  | n :: rest => .renderText n fun t => renderOneByOne (t :: before) next rest

end Script

end Unmark
