import Unmark.Document.Node
import Unmark.Markdown.Nodes
import Unmark.Render.Renderer
import Unmark.Requirement.Check
import Unmark.Storage.Source
/-!
From source text to a document and to plain text. The tokenizer is a package of its own, which must be there in a
version that will do; it is asked for the plugins of the options and for the text of the source, and its answer,
which need not be a list, is read as tokens.
-/
namespace Unmark

/-- the tokenizer: the package, and its answer to plugins and a text -/
structure Tokenizer where
  installation : Installation
  answer : List String → Text → Value

namespace Tokenizer

def feature : String := "markdown"

def requirement : Requirement := ⟨"mistune", ">=3.0.0"⟩

def absent : Tokenizer := ⟨⟨false, none⟩, fun _ _ => .null⟩

/-- a tokenizer of the least version that will do, with one answer to everything -/
def answering (v : Value) : Tokenizer := ⟨⟨true, some "3.0.0"⟩, fun _ _ => v⟩

/-- the stage at which an answer that is no list is found out -/
def stage : String := "tokenize"

def nodesOf : Value → Logged (List Node)
  | .list tokens => Token.toNodes (Token.ofValues tokens)
  | v => .fail (.reported (.parsing (.noTokenList v.typeName) (some stage) none))

end Tokenizer

namespace Markdown

/-- parser options, where renderer options may have been given -/
def parserOptions : Option AnyOptions → Except Fault ParserOptions
  | none => .ok {}
  | some (.parsing o) => .ok o
  | some (.rendering _) =>
    .error (.reported (.wrongOptions Tokenizer.feature AnyOptions.parsingName AnyOptions.renderingName none none))

variable [Versioning]

/-- the document of a source -/
def parse (tokenizer : Tokenizer) (o : ParserOptions) (files : FileTree) (source : Source) : Logged (List Node) := do
  match Requirement.check Tokenizer.feature Tokenizer.requirement tokenizer.installation with
  | .error e => Logged.fail (.reported e)
  | .ok () => do
    let content ← Logged.ofExcept (source.read files)
    Logged.note (.tokenizing o.plugins content)
    let nodes ← Tokenizer.nodesOf (tokenizer.answer o.plugins content)
    Logged.note (.parsed nodes.length (Node.walkAll nodes).length)
    return nodes

/-- the document of a source, under whatever options were given -/
def toNodes (tokenizer : Tokenizer) (o : Option AnyOptions) (files : FileTree) (source : Source) :
    Logged (List Node) := do
  let o ← Logged.ofExcept (parserOptions o)
  parse tokenizer o files source

/-- the plain text of a source, under whatever options were given for the parser and for the renderer -/
def toText (tokenizer : Tokenizer) (parsing rendering : Option AnyOptions) (files : FileTree) (source : Source) :
    Logged Text := do
  let nodes ← toNodes tokenizer parsing files source
  let r ← Renderer.ofAnyOptions rendering
  r.renderToText nodes

end Markdown

end Unmark
