import Unmark.Document.Node
/-!
Short ways to write down a tree. A plain string may stand for a node: as content it is a text node, as a list item
or a table cell it is an item or a cell that holds that text. Bare cells of a table header are header cells.
-/
namespace Unmark

/-- something that may be given where a node is wanted -/
inductive Content where
  | node (n : Node)
  | text (t : Text)

/-- a row of a table under construction: a finished node, or its cells -/
inductive RowContent where
  | node (n : Node)
  | cells (entries : List Content)

namespace Build

def text (t : Text) : Node := .leaf .text t

def node : Content → Node
  | .node n => n
  | .text t => text t

/-- a node of some kind around its content -/
def wrap (kind : Kind) (content : List Content) : Node :=
  .branch kind (content.map node)

def strong (content : List Content) : Node := wrap .strong content

def emphasis (content : List Content) : Node := wrap .emphasis content

def strikethrough (content : List Content) : Node := wrap .strikethrough content

def codeSpan (code : Text) : Node := .leaf .codeSpan code

/-- a heading, if its level can be one -/
def heading (level : Option Value) (content : List Content) : Except Fault Node := do
  let head ← Head.withLevel { kind := .heading } level
  return .element head (content.map node) none none none

def paragraph (content : List Content) : Node := wrap .paragraph content

/-- a link around its visible label -/
def link (href title : Option Value) (content : List Content) : Node :=
  .element { kind := .link, href := href, title := title } (content.map node) none none none

/-- an image with alternative text -/
def image (alt : Text) (href title : Option Value) : Node :=
  .element { kind := .image, literal := .text alt, href := href, title := title } [] none none none

def codeBlock (code : Text) (language : Option String) : Node :=
  .element { kind := .codeBlock, literal := .text code, language := language } [] none none none

def rawHtml (markup : Text) : Node := .leaf .rawHtml markup

def blockquote (content : List Content) : Node := wrap .blockquote content

def listItem (content : List Content) : Node := wrap .listItem content

def list (ordered : Bool) (entries : List Content) : Node :=
  let item : Content → Node
    | .node n => n
    | .text t => listItem [.text t]
  .element { kind := .list, ordered := ordered } [] (some (entries.map item)) none none

def tableCell (isHeader : Bool) (content : List Content) : Node :=
  .element { kind := .tableCell, isHeaderCell := isHeader } (content.map node) none none none

def cell (isHeader : Bool) : Content → Node
  | .node n => n
  | .text t => tableCell isHeader [.text t]

def tableRow (cells : List Content) : Node :=
  .branch .tableRow (cells.map (cell false))

def table (header : List Content) (rows : List RowContent) : Node :=
  let row : RowContent → Node
    | .node n => n
    | .cells entries => tableRow entries
  .element { kind := .table } [] none (some (header.map (cell true))) (some (rows.map row))

def horizontalRule : Node := .leaf .horizontalRule ['-', '-', '-']

def lineBreak : Node := .leaf .lineBreak ['\n']

/-- blank space between blocks -/
def space : Node := .leaf .space ['\n']

/-- a task marker -/
def checkbox (checked : Bool) : Node :=
  .leaf .checkbox (if checked then ['[', 'x', ']'] else ['[', ' ', ']'])

end Build

end Unmark
