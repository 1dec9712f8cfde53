import Unmark.Render.Script
/-!
Ready-made handlers for common wishes: fixed text, the literal or the nodes of a node between two texts, a field, the
labels of the table around, and ways to hand a node on, to guard it or to give up.
-/
namespace Unmark.Handler

/-- which nodes of a node a handler renders, and how -/
structure Inner where
  /-- all that a walk would visit next, rather than the children alone -/
  all : Bool
  /-- inside a line, rather than as blocks -/
  inline : Bool

def Inner.nodes (inner : Inner) (n : Node) : List Node :=
  if inner.all then n.kids else n.children

/-- renders the nodes of a node and goes on -/
def Inner.render (inner : Inner) (n : Node) (next : Text → Script) : Script :=
  .renderChildren (inner.nodes n) inner.inline next

def constant (t : Text) : Handler := fun _ => .done t

/-- the literal of a node between two texts -/
def literal (before after : Text) : Handler := fun n =>
  match n.head?.map Head.literal with
  | some (.text t) => .done (before ++ t ++ after)
  | some (.other _) => .fail .wrongType
  | none => .fail .missingMember

/-- the nodes of a node between two texts -/
def around (inner : Inner) (before after : Text) : Handler := fun n =>
  inner.render n fun t => .done (before ++ t ++ after)

/-- a field of a node in brackets; a missing one shows as `null` -/
def bracketed (field : Head → Option Value) : Handler := fun n =>
  match n.head? with
  | some head => .done (['['] ++ ((field head).map Value.shown).getD "null".toList ++ [']'])
  | none => .fail .missingMember

/-- how many tables are open, and the labels of the innermost one -/
def labels : Handler := fun _ =>
  .readDepth fun depth => .readLabels fun labels =>
    .done (Nat.toDigits 10 depth ++ [':'] ++ ['|'].intercalate labels)

def labelled (inner : Inner) (label : Text) : Handler := fun n =>
  .appendLabel label (inner.render n .done)

def appendLabels (labels : List Text) (next : Script) : Script :=
  labels.foldr Script.appendLabel next

/-- renders the nodes of a node under labels of their own -/
def underLabels (inner : Inner) (labels : List Text) : Handler := fun n =>
  .inTable (appendLabels labels (inner.render n .done)) .done

def asKind (k : Kind) : Handler := fun n =>
  .render (n.withKind k) .done

/-- renders the nodes of a node; an error becomes a remark with the number of open tables -/
def guarded (inner : Inner) (remark : Error → Nat → Text) : Handler := fun n =>
  .recovering (inner.render n .done) (fun e => .readDepth fun depth => .done (remark e depth)) .done

def failing (message stage : String) : Handler := fun _ =>
  .fail (.reported (.rendering message (some stage) none))

end Unmark.Handler
