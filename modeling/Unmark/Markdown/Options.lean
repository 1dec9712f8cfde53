import Unmark.Render.Registration
/-!
Options: which extensions of Markdown the tokenizer is asked for, and options of either family where a caller may
hand in the wrong one.
-/
namespace Unmark

structure ParserOptions where
  tables : Bool := true
  strikethrough : Bool := true
  taskLists : Bool := true
deriving DecidableEq, Repr

/-- changes to the options of a parser; what is not given stays -/
structure ParserChanges where
  tables : Option Bool := none
  strikethrough : Option Bool := none
  taskLists : Option Bool := none

namespace ParserOptions

def updated (o : ParserOptions) (c : ParserChanges) : ParserOptions :=
  ⟨c.tables.getD o.tables, c.strikethrough.getD o.strikethrough, c.taskLists.getD o.taskLists⟩

/-- the plugins that the tokenizer is asked for -/
def plugins (o : ParserOptions) : List String :=
  (if o.strikethrough then ["strikethrough"] else []) ++ (if o.tables then ["table"] else []) ++
    (if o.taskLists then ["task_lists"] else [])

end ParserOptions

/-- options of either family -/
inductive AnyOptions where
  | rendering (o : RenderOptions)
  | parsing (o : ParserOptions)

namespace AnyOptions

def renderingName : String := "PlainTextOptions"

def parsingName : String := "MarkdownParserOptions"

end AnyOptions

end Unmark
