import Unmark.Journal
import Unmark.Render.Script
/-!
The rendering context: a stack of label lists, one for each open table, innermost first, and computations over it.

A computation starts from a stack and ends with a result or a fault, and with the stack as it left it: a fault does
not undo labels that were appended before. Events are noted on the side and influence nothing.
-/
namespace Unmark

/-- the labels of the open tables, innermost first -/
abbrev LabelStack := List (List Text)

/-- how a computation over the context ends -/
structure Outcome (α : Type) where
  result : Except Fault α
  labels : LabelStack
  events : List Event

def Render (α : Type) : Type := LabelStack → Outcome α

namespace Render

def pure {α : Type} (a : α) : Render α := fun labels => ⟨.ok a, labels, []⟩

def fail {α : Type} (f : Fault) : Render α := fun labels => ⟨.error f, labels, []⟩

/-- goes on from a result; a fault ends the whole -/
def bind {α β : Type} (x : Render α) (f : α → Render β) : Render β := fun labels =>
  let first := x labels
  match first.result with
  | .ok a =>
    let second := f a first.labels
    ⟨second.result, second.labels, first.events ++ second.events⟩
  | .error e => ⟨.error e, first.labels, first.events⟩

instance : Monad Render where
  pure := Render.pure
  bind := Render.bind

/-- ends with what another computation ended with, be it a result or a fault -/
def attempt {α : Type} (x : Render α) : Render (Except Fault α) := fun labels =>
  let o := x labels
  ⟨.ok o.result, o.labels, o.events⟩

def note (events : List Event) : Render Unit := fun labels => ⟨.ok (), labels, events⟩

/-- the labels of the innermost table; outside of any table there are none -/
def innermost : Render (List Text) := fun labels => ⟨.ok (labels.headD []), labels, []⟩

/-- how many tables are open -/
def depth : Render Nat := fun labels => ⟨.ok labels.length, labels, []⟩

/-- a stack with a label appended to its innermost list; outside of any table the label is lost -/
def addLabel (label : Text) : LabelStack → LabelStack
  | [] => []
  | top :: below => (top ++ [label]) :: below

def append (label : Text) : Render Unit := fun labels => ⟨.ok (), addLabel label labels, []⟩

/-- runs a computation with a fresh table open, and closes it however the computation ends -/
def inTable {α : Type} (x : Render α) : Render α := fun labels =>
  let o := x ([] :: labels)
  ⟨o.result, o.labels.tail, o.events⟩

/-- the text that a computation ends with, or nothing if its rendering is no text -/
def text? (x : Render Text) : Render (Option Text) := do
  match ← attempt x with
  | .ok t => pure (some t)
  | .error .notText => pure none
  | .error f => fail f

/-- renders nodes in order and joins their texts; inside a line, a node that is a block loses its closing line feeds;
a rendering that is no text is refused where the texts are joined, after the other nodes; inside a line a block must
be text at once -/
def inOrder (render : Node → Render Text) (inline : Bool) : List Node → Render Text
  | [] => pure []
  | n :: rest => do
    match ← text? (render n) with
    | some t => do
      let others ← inOrder render inline rest
      pure ((if inline && !n.isInline then Text.dropTrailingNewlines t else t) ++ others)
    | none =>
      -- there are no line feeds to drop from what is no text
      if inline && !n.isInline then fail .missingMember
      else do
        let _ ← inOrder render inline rest
        fail .wrongType

/-- carries out a script, where `render` is what rendering a node means -/
def perform (render : Node → Render Text) : Script → Render Text
  | .done t => pure t
  | .fail f => fail f
  | .render n next => do
    let t ← render n
    perform render (next t)
  | .renderAny n next => do
    let t ← text? (render n)
    perform render (next t)
  | .renderChildren nodes inline next => do
    let t ← inOrder render inline nodes
    perform render (next t)
  | .appendLabel label next => do
    append label
    perform render next
  | .readLabels next => do
    let labels ← innermost
    perform render (next labels)
  | .readDepth next => do
    let d ← depth
    perform render (next d)
  | .inTable body next => do
    let t ← inTable (perform render body)
    perform render (next t)
  | .recovering body recover next => do
    match ← attempt (perform render body) with
    | .ok t => perform render (next t)
    | .error (.reported e) => do
      let t ← perform render (recover e)
      perform render (next t)
    | .error f => fail f

end Render

end Unmark
