import Unmark.Error
import Unmark.Text.Basic
/-!
What the library notes down while it works, and computations that note things down.

A `Logged` computation ends with a result or a fault; either way, the events noted before stay noted. Its result does
not depend on them.
-/
namespace Unmark

/-- how much an event matters -/
inductive Severity where
  | debug
  | info
  | warning
  | error
deriving DecidableEq, Repr

namespace Severity

def rank : Severity → Nat
  | debug => 10
  | info => 20
  | warning => 30
  | error => 40

def name : Severity → String
  | debug => "DEBUG"
  | info => "INFO"
  | warning => "WARNING"
  | error => "ERROR"

end Severity

/-- something worth noting -/
inductive Event where
  /-- a registered handler takes the place of the built-in one -/
  | overriding (kind : Kind)
  /-- a node is of a kind without a handler -/
  | noHandler (kind : Kind)
  /-- a document is rendered -/
  | rendered (nodes characters : Nat)
  /-- the tokenizer is asked, with these plugins, for the tokens of a source -/
  | tokenizing (plugins : List String) (source : Text)
  /-- a token is of a type without a node kind -/
  | unknownToken (type : Value)
  /-- a document is read: its top-level nodes and all of its nodes -/
  | parsed (nodes total : Nat)
  /-- the log goes to a file as well -/
  | loggingTo (file : String)
  /-- the log file cannot be opened -/
  | logFileRefused (file : String) (e : SystemError)
  /-- a file is converted -/
  | converted (input output : String)
deriving Repr

namespace Event

def severity : Event → Severity
  | logFileRefused .. => .warning
  | converted .. => .info
  | _ => .debug

/-- the part of the program that notes an event -/
def source : Event → String
  | overriding _ | noHandler _ | rendered .. => "plaintify.renderers.plaintext"
  | tokenizing .. | unknownToken _ | parsed .. => "plaintify.parsers.markdown"
  | loggingTo _ | logFileRefused .. => "plaintify"
  | converted .. => "plaintify.cli"

/-- what an event says; `elapsed` is the time that the step took -/
def message (elapsed : String) : Event → String
  | overriding kind => "Overriding default render handler for '" ++ kind.name ++ "'"
  | noHandler kind => "No handler for node kind " ++ Text.quoteString kind.name ++ ", using default block rendering"
  | rendered nodes characters =>
    "Rendered " ++ toString nodes ++ " top-level nodes to " ++ toString characters ++ " characters in " ++ elapsed ++
      " ms"
  | tokenizing plugins _ =>
    "Parsing markdown with plugins: " ++ (if plugins.isEmpty then "none" else ", ".intercalate plugins)
  | unknownToken type =>
    "Unknown markdown token type " ++ String.ofList type.quoted ++ ", keeping it as a generic node"
  | parsed nodes total =>
    "Parsed " ++ toString nodes ++ " top-level nodes (" ++ toString total ++ " total) in " ++ elapsed ++ " ms"
  | loggingTo file => "Logging to file: " ++ file
  | logFileRefused file e => "Could not open log file " ++ file ++ ": " ++ e.message
  | converted input output => "Converted " ++ input ++ " -> " ++ output

end Event

/-- a computation that notes events and ends with a result or a fault -/
structure Logged (α : Type) where
  events : List Event
  result : Except Fault α

namespace Logged

def pure {α : Type} (a : α) : Logged α := ⟨[], .ok a⟩

def fail {α : Type} (f : Fault) : Logged α := ⟨[], .error f⟩

def note (e : Event) : Logged Unit := ⟨[e], .ok ()⟩

/-- goes on from a result; a fault ends the whole -/
def bind {α β : Type} (x : Logged α) (f : α → Logged β) : Logged β :=
  match x.result with
  | .ok a => let y := f a; ⟨x.events ++ y.events, y.result⟩
  | .error e => ⟨x.events, .error e⟩

instance : Monad Logged where
  pure := Logged.pure
  bind := Logged.bind

def ofExcept {α : Type} (r : Except Fault α) : Logged α := ⟨[], r⟩

@[simp] theorem result_pure {α : Type} (a : α) : (Pure.pure a : Logged α).result = .ok a := rfl

@[simp] theorem result_fail {α : Type} (f : Fault) : (fail f : Logged α).result = .error f := rfl

@[simp] theorem result_note (e : Event) : (note e).result = .ok () := rfl

theorem result_bind {α β : Type} (x : Logged α) (f : α → Logged β) :
    (x >>= f).result = x.result.bind fun a => (f a).result := by
  show (Logged.bind x f).result = _
  unfold Logged.bind
  cases h : x.result <;> simp [Except.bind]

end Logged

end Unmark
