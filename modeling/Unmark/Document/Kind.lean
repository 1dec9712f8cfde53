/-!
What a node stands for. Twenty-two kinds are known; any other name is kept, so that a document may use kinds of its
own. Each kind belongs to one behaviour class, which says how it reads as plain text; a kind without a class of its
own, known or not, reads as a plain block.
-/
namespace Unmark

/-- the construct that a node stands for -/
inductive Kind where
  | space
  | heading
  | paragraph
  | text
  | strong
  | emphasis
  | codeSpan
  | strikethrough
  | codeBlock
  | link
  | image
  | list
  | listItem
  | blockquote
  | table
  | tableRow
  | tableCell
  | horizontalRule
  | lineBreak
  | rawHtml
  | checkbox
  | generic
  | other (name : String)
deriving DecidableEq, Repr

/-- how a kind reads as plain text -/
inductive Behaviour where
  | suppressed
  | inline
  | escapedBlock
  | structural
  | plainBlock
deriving DecidableEq, Repr

namespace Kind

/-- the known kinds, in the order in which tables list them -/
def known : List Kind :=
  [.space, .heading, .paragraph, .text, .strong, .emphasis, .codeSpan, .strikethrough, .codeBlock, .link, .image,
    .list, .listItem, .blockquote, .table, .tableRow, .tableCell, .horizontalRule, .lineBreak, .rawHtml, .checkbox,
    .generic]

def name : Kind → String
  | .space => "space"
  | .heading => "heading"
  | .paragraph => "paragraph"
  | .text => "text"
  | .strong => "strong"
  | .emphasis => "emphasis"
  | .codeSpan => "code_span"
  | .strikethrough => "strikethrough"
  | .codeBlock => "code_block"
  | .link => "link"
  | .image => "image"
  | .list => "list"
  | .listItem => "list_item"
  | .blockquote => "blockquote"
  | .table => "table"
  | .tableRow => "table_row"
  | .tableCell => "table_cell"
  | .horizontalRule => "horizontal_rule"
  | .lineBreak => "line_break"
  | .rawHtml => "raw_html"
  | .checkbox => "checkbox"
  | .generic => "generic"
  | .other name => name

def ofName? (name : String) : Option Kind :=
  known.find? fun k => k.name == name

/-- the kind of a name; a name that is not known is kept -/
def ofName (name : String) : Kind :=
  (ofName? name).getD (.other name)

def isKnown : Kind → Bool
  | .other _ => false
  | _ => true

def behaviour : Kind → Behaviour
  | .space | .horizontalRule | .checkbox | .lineBreak => .suppressed
  | .text | .strong | .emphasis | .codeSpan | .strikethrough => .inline
  | .rawHtml | .codeBlock => .escapedBlock
  | .list | .listItem | .table | .tableRow | .tableCell | .link | .image | .paragraph => .structural
  | .heading | .blockquote | .generic | .other _ => .plainBlock

/-- whether nodes of a kind stand inside a line, without a separator after them -/
def isInline (k : Kind) : Bool :=
  k.behaviour == .inline

end Kind

def Behaviour.name : Behaviour → String
  | .suppressed => "suppressed"
  | .inline => "inline"
  | .escapedBlock => "escaped_block"
  | .structural => "structural"
  | .plainBlock => "default_block"

end Unmark
