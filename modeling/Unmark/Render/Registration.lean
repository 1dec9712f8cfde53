import Unmark.OrderedTable
import Unmark.Render.Script
/-!
Registering handlers of one's own. A registration pairs a key with something that should be a handler. Keys must
name known kinds and what is registered must be callable; the first entry that fails is reported, its key before its
value. A key given twice keeps its first place and takes its last value.
-/
namespace Unmark

instance : BEq Value := ⟨Value.same⟩

/-- something registered as a handler: a handler, or a value that cannot be called -/
inductive Candidate where
  | callable (h : Handler)
  | notCallable

/-- the entries of registrations made one after the other -/
def registrations (entries : List (Value × Candidate)) : OrderedTable Value Candidate :=
  OrderedTable.putAll [] entries

/-- the known kind that a key names -/
def keyKind? : Value → Option Kind
  | .text name => Kind.ofName? name
  | _ => none

def resolveEntry (entry : Value × Candidate) : Except Error (Kind × Handler) :=
  match keyKind? entry.1 with
  | none => .error (.badHandler entry.1 .unknownKind (some .unknownName))
  | some kind =>
    match entry.2 with
    | .callable h => .ok (kind, h)
    | .notCallable => .error (.badHandler entry.1 (.notCallable kind) none)

/-- checks entries from first to last and enters their handlers into a table -/
def resolveFrom (table : OrderedTable Kind Handler) :
    List (Value × Candidate) → Except Error (OrderedTable Kind Handler)
  | [] => .ok table
  | entry :: rest => do
    let resolved ← resolveEntry entry
    resolveFrom (OrderedTable.put resolved.1 resolved.2 table) rest

/-- options of a renderer: the handlers that replace built-in ones, by kind -/
structure RenderOptions where
  handlers : OrderedTable Kind Handler

namespace RenderOptions

def none : RenderOptions := ⟨[]⟩

def ofTable (table : OrderedTable Value Candidate) : Except Error RenderOptions := do
  let handlers ← resolveFrom [] table
  return ⟨handlers⟩

def ofRegistrations (entries : List (Value × Candidate)) : Except Error RenderOptions :=
  ofTable (registrations entries)

/-- the registrations that options stand for: a kind is registered under its name -/
def table (o : RenderOptions) : OrderedTable Value Candidate :=
  o.handlers.map fun entry => (.text entry.1.name, .callable entry.2)

/-- the kinds with a handler, in the order of registration -/
def kinds (o : RenderOptions) : List Kind :=
  OrderedTable.keys o.handlers

end RenderOptions

end Unmark
