import Unmark.Render.Script
import Unmark.Text.Escape
/-!
The built-in handlers. Blocks end with one blank line. Markup goes, structure stays: list items stand on lines of
their own, table rows become `label: value` lines keyed by the header cells, links and images shrink to their
visible text, code and raw HTML are kept literally but escaped.

Inside a line, text in the literal of a node is passed on as it is; what is not text ends in a fault.
-/
namespace Unmark

/-- a built-in way to render a node -/
inductive Treatment where
  | suppressed
  | inline
  | escapedBlock
  | plainBlock
  | paragraph
  | link
  | image
  | list
  | listItem
  | table
  | tableRow
  | tableCell
deriving DecidableEq, Repr

namespace Treatment

def ofKind : Kind → Treatment
  | .space | .horizontalRule | .checkbox | .lineBreak => .suppressed
  | .text | .strong | .emphasis | .codeSpan | .strikethrough => .inline
  | .rawHtml | .codeBlock => .escapedBlock
  | .heading | .blockquote | .generic | .other _ => .plainBlock
  | .paragraph => .paragraph
  | .link => .link
  | .image => .image
  | .list => .list
  | .listItem => .listItem
  | .table => .table
  | .tableRow => .tableRow
  | .tableCell => .tableCell

/-- inline content: the children, or else the literal as it is -/
def renderInline (literal : Literal) (children : List Node) : Script :=
  if children.isEmpty then
    match literal with
    | .text t => .done t
    | .other _ => .fail .notText
  else .renderChildren children true .done

def renderEscaped : Literal → Script
  | .text t => .done (Text.escapeHtml t ++ Text.blockEnd)
  | .other _ => .fail .wrongType

/-- a heading, a quotation or a block of a kind without rules of its own: the children, trimmed unless they stand in
a line, or else the literal -/
def renderPlainBlock (kind : Kind) (literal : Literal) (children : List Node) : Script :=
  if children.isEmpty then
    match literal with
    | .text t => .done (t ++ Text.blockEnd)
    | .other v => if v.truthy then .fail .wrongType else .done Text.blockEnd
  else if kind = .heading then .renderChildren children true fun t => .done (t ++ Text.blockEnd)
  else .renderChildren children false fun t => .done (Text.trim t ++ Text.blockEnd)

/-- a paragraph; one that holds a single link or image reads as that node -/
def renderParagraph (children : List Node) : Script :=
  let general := Script.renderChildren children true fun t => .done (t ++ Text.blockEnd)
  match children with
  | [only] => if only.hasKind .link || only.hasKind .image then .render only .done else general
  | _ => general

/-- a link: its label, and nothing of its target -/
def renderLink (kind : Kind) (href : Option Value) (literal : Literal) (children : List Node) : Script :=
  match href with
  | none => .malformed kind "href" .missing
  | some _ =>
    if children.isEmpty then
      match literal with
      | .text t => .done (t ++ Text.blockEnd)
      | .other _ => .fail .wrongType
    else .renderChildren children true fun t => .done (t ++ Text.blockEnd)

/-- an image: its alternative text, or else its children -/
def renderImage (kind : Kind) (href : Option Value) (literal : Literal) (children : List Node) : Script :=
  match href with
  | none => .malformed kind "href" .missing
  | some _ =>
    -- the other way round than in a link: the literal comes first, and the children stand in for it
    if literal.truthy || children.isEmpty then
      match literal with
      | .text t => .done (t ++ Text.blockEnd)
      | .other _ => .fail .wrongType
    else .renderChildren children true fun t => .done (t ++ Text.blockEnd)

/-- what is left of the rendered items of a list: one after the other, blank lines inside an item squeezed out, the
whole trimmed -/
def listText (items : List Text) : Text :=
  '\n' :: Text.trim (items.flatMap Text.squeezeNewlines) ++ Text.blockEnd

/-- a list: its items line by line, without markers -/
def renderList (kind : Kind) (items : Option (List Node)) : Script :=
  match items with
  | none => .malformed kind "items" .missing
  | some [] => .done []
  | some (item :: rest) => Script.renderOneByOne [] (fun texts => .done (listText texts)) (item :: rest)

/-- a list item: its trimmed content on a new line -/
def renderListItem (children : List Node) : Script :=
  .renderChildren children false fun t => .done ('\n' :: Text.trim t)

/-- renders the header entries of a table for the labels that they leave, and goes on; what an entry reads as does not
matter, be it no text -/
def renderHeader (next : Script) : List Node → Script
  | [] => next
  | entry :: rest =>
    if entry.hasKind .tableCell then .renderAny entry fun _ => renderHeader next rest
    else .malformed .table "header" .notCells

/-- a row as a node: a plain sequence of cells becomes a row of them -/
def rowNode : Node → Except Fault Node
  | .element head children items header rows =>
    if head.kind = .tableRow then .ok (.element head children items header rows)
    else .error (.reported (.malformedNode Kind.table.name "rows" .notRows))
  | .cells entries => .ok (.branch .tableRow entries)
  | .stray _ => .error .wrongType

/-- renders the rows of a table; `before` holds the text of the earlier ones, if all of them are text; rows are joined
after the last one, and refused there if one of them is no text -/
def renderRows (before : Option Text) : List Node → Script
  | [] => before.elim (.fail .wrongType) .done
  | row :: rest =>
    match rowNode row with
    | .ok n => .renderAny n fun t => renderRows (before.bind fun b => t.map (b ++ ·)) rest
    | .error f => .fail f

/-- a table: its rows, within a scope that holds the labels of its own header -/
def renderTable (kind : Kind) (header rows : Option (List Node)) : Script :=
  match header with
  | none => .malformed kind "header" .missing
  | some entries =>
    match rows with
    | none => .malformed kind "rows" .missing
    | some rows => .inTable (renderHeader (renderRows (some []) rows) entries) .done

/-- the lines of a row: each label with its value, as far as both go, where the value is not empty -/
def rowLines (labels values : List Text) : List Text :=
  (labels.zip values).filterMap fun p => if p.2.isEmpty then none else some (p.1 ++ [':', ' '] ++ p.2)

/-- a row as a block of lines, or nothing if no line is left -/
def rowText (labels values : List Text) : Text :=
  let lines := rowLines labels values
  if lines.isEmpty then [] else ['\n'].intercalate lines ++ Text.blockEnd

/-- renders the cells of a row and pairs their texts with the labels; `before` holds earlier texts, last first; a cell
that reads as no text has no line, as one that reads as an empty text -/
def renderCells (before : List Text) : List Node → Script
  -- only now: a header cell among these cells has added a label by then
  | [] => .readLabels fun labels => .done (rowText labels before.reverse)
  | cell :: rest =>
    if cell.hasKind .tableCell then .renderAny cell fun t => renderCells (t.getD [] :: before) rest
    else .malformed .tableRow "children" .notCells

/-- a cell: its content in a line; a header cell leaves its text as a label -/
def renderCell (isHeader : Bool) (children : List Node) : Script :=
  .renderChildren children true fun t => if isHeader then .appendLabel t (.done t) else .done t

/-- the handler of a treatment; what is no node has none of the members that a handler looks at -/
def handler (treatment : Treatment) : Handler
  | .element head children items header rows =>
    match treatment with
    | .suppressed => .done []
    | .inline => renderInline head.literal children
    | .escapedBlock => renderEscaped head.literal
    | .plainBlock => renderPlainBlock head.kind head.literal children
    | .paragraph => renderParagraph children
    | .link => renderLink head.kind head.href head.literal children
    | .image => renderImage head.kind head.href head.literal children
    | .list => renderList head.kind items
    | .listItem => renderListItem children
    | .table => renderTable head.kind header rows
    | .tableRow => renderCells [] children
    | .tableCell => renderCell head.isHeaderCell children
  | _ => .fail .missingMember

end Treatment

end Unmark
