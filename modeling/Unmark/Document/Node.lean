import Unmark.Error
import Unmark.Text.Basic
/-!
The document tree. A node has a kind, literal text and children; lists also hold items, and tables a header and
rows. Where a table expects cells or rows, something else may stand: a value that is no node, or a plain sequence of
cells in place of a row.

`kids` is what a node contributes to a walk over the document, and `walk` is that walk, depth first.
-/
namespace Unmark

/-- the literal content of a node: text, or a value that should have been text -/
inductive Literal where
  | text (t : Text)
  | other (v : Value)
deriving Repr

/-- whether a literal counts as true: a text that is not empty, or a value that does -/
def Literal.truthy : Literal → Bool
  | .text t => !t.isEmpty
  | .other v => v.truthy

/-- what a node says of itself, apart from the nodes it holds -/
structure Head where
  kind : Kind
  literal : Literal := .text []
  isHeaderCell : Bool := false
  href : Option Value := none
  title : Option Value := none
  ordered : Bool := false
  level : Option Int := none
  language : Option String := none
deriving Repr

/-- the heading level that a value stands for: an integer from 1 to 6, where a truth value counts as 0 or 1 -/
def headingLevel (v : Value) : Except Fault Int :=
  match v.toInt? with
  | some n => if 1 ≤ n ∧ n ≤ 6 then .ok n else .error (.headingLevel v)
  | none => .error .wrongType

/-- a head with a heading level, if one is given -/
def Head.withLevel (head : Head) : Option Value → Except Fault Head
  | none => .ok head
  | some v => do
    let level ← headingLevel v
    return { head with level := some level }

/-- a node of a document tree, or what stands where one belongs -/
inductive Node where
  /-- a node proper: its head, children, list items, table header and table rows -/
  | element (head : Head) (children : List Node) (items header rows : Option (List Node))
  /-- a plain sequence of cells, in place of a table row -/
  | cells (entries : List Node)
  /-- a value that is no node -/
  | stray (value : Value)

namespace Node

def leaf (kind : Kind) (t : Text) : Node :=
  .element { kind := kind, literal := .text t } [] none none none

/-- a node with children and no text of its own -/
def branch (kind : Kind) (children : List Node) : Node :=
  .element { kind := kind } children none none none

/-- the head of a node proper -/
def head? : Node → Option Head
  | .element head .. => some head
  | _ => none

def kind? : Node → Option Kind
  | .element head .. => some head.kind
  | _ => none

def children : Node → List Node
  | .element _ children .. => children
  | _ => []

def items : Node → Option (List Node)
  | .element _ _ items _ _ => items
  | _ => none

def header : Node → Option (List Node)
  | .element _ _ _ header _ => header
  | _ => none

def rows : Node → Option (List Node)
  | .element _ _ _ _ rows => rows
  | _ => none

def isInline : Node → Bool
  | .element head .. => head.kind.isInline
  | _ => false

def hasKind (k : Kind) : Node → Bool
  | .element head .. => head.kind == k
  | _ => false

def withKind (k : Kind) : Node → Node
  | .element head children items header rows => .element { head with kind := k } children items header rows
  | n => n

/-- the cells that a row holds, whether it is a node or a plain sequence -/
def rowCells : Node → List Node
  | .element _ children .. => children
  | .cells entries => entries
  | .stray _ => []

/-- what a node contributes to a walk: a list its items, a table its header and the cells of its rows, any other
node its children -/
def kids : Node → List Node
  | .element head children items header rows =>
    match head.kind with
    | .list => items.getD []
    | .table => header.getD [] ++ (rows.getD []).flatMap rowCells
    | _ => children
  | _ => []

mutual

/-- a node and all that lies below it, depth first -/
def walk : Node → List Node
  | .element head children items header rows =>
    .element head children items header rows ::
      match head.kind with
      | .list => walkSome items
      | .table => walkSome header ++ walkRows rows
      | _ => walkAll children
  | n => [n]

def walkAll : List Node → List Node
  | [] => []
  | n :: rest => walk n ++ walkAll rest

def walkSome : Option (List Node) → List Node
  | none => []
  | some nodes => walkAll nodes

/-- the walk over the cells of table rows -/
def walkRows : Option (List Node) → List Node
  | none => []
  | some rows => walkRowList rows

def walkRowList : List Node → List Node
  | [] => []
  | row :: rest => walkRow row ++ walkRowList rest

/-- the walk over the cells of one row; the row itself is not visited -/
def walkRow : Node → List Node
  | .element _ children _ _ _ => walkAll children
  | .cells entries => walkAll entries
  | .stray _ => []

end

mutual

/-- how many levels of nodes a tree has, rows included -/
def height : Node → Nat
  | .element _ children items header rows =>
    1 + max (heightAll children) (max (heightSome items) (max (heightSome header) (heightSome rows)))
  | .cells entries => 1 + heightAll entries
  | .stray _ => 1

def heightAll : List Node → Nat
  | [] => 0
  | n :: rest => max (height n) (heightAll rest)

def heightSome : Option (List Node) → Nat
  | none => 0
  | some nodes => heightAll nodes

end

end Node

namespace Literal

def same : Literal → Literal → Bool
  | .text a, .text b => a == b
  | .other a, .other b => a.same b
  | _, _ => false

end Literal

def sameValue? : Option Value → Option Value → Bool
  | none, none => true
  | some a, some b => a.same b
  | _, _ => false

def Head.same (a b : Head) : Bool :=
  a.kind == b.kind && a.literal.same b.literal && a.isHeaderCell == b.isHeaderCell && sameValue? a.href b.href &&
    sameValue? a.title b.title && a.ordered == b.ordered && a.level == b.level && a.language == b.language

namespace Node

mutual

/-- equality of nodes, field by field; a missing sequence differs from an empty one -/
def same : Node → Node → Bool
  | .element a as ai ah ar, .element b bs bi bh br =>
    a.same b && sameAll as bs && sameSome ai bi && sameSome ah bh && sameSome ar br
  | .cells a, .cells b => sameAll a b
  | .stray a, .stray b => a.same b
  | _, _ => false

def sameAll : List Node → List Node → Bool
  | [], [] => true
  | a :: as, b :: bs => same a b && sameAll as bs
  | _, _ => false

def sameSome : Option (List Node) → Option (List Node) → Bool
  | none, none => true
  | some as, some bs => sameAll as bs
  | _, _ => false

end

end Node

end Unmark
