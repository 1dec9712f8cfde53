import Unmark.Document.Build
import Unmark.Markdown.Token
/-!
From tokens to nodes. Each token becomes one node, in order, and a token of an unknown type a generic one that keeps
its text and what it holds. Items of a list and cells of a table are read by their place, whatever type they claim.

A token need not be what it should be. What matters is which use is made of a value: values that cannot be gone
through and text that cannot be joined are of the wrong type, values without fields or without text lack a member,
and all that is merely looked at is taken as it is.
-/
namespace Unmark

namespace TokenHead

/-- the level of a heading: a whole number from 1 to 6, or else 1 -/
def level (h : TokenHead) : Int :=
  match (h.attribute? "level").bind Value.toInt? with
  | some n => if 1 ≤ n ∧ n ≤ 6 then n else 1
  | none => 1

/-- an attribute that is a yes or no -/
def isMarked (h : TokenHead) (name : String) : Bool :=
  ((h.attribute? name).map Value.truthy).getD false

/-- the language of a code block: the first word of its info string -/
def language (h : TokenHead) : Except Fault (Option String) :=
  match h.attribute? "info" with
  | some (.text info) =>
    let words := Text.trim info.toList
    .ok (if words.isEmpty then none else some (String.ofList (Text.firstWord words)))
  | some v => if v.truthy then .error .missingMember else .ok none
  | none => .ok none

/-- the raw text of a block, without its closing line feeds -/
def blockText (h : TokenHead) : Except Fault Text :=
  match h.raw with
  | some (.text t) => .ok (Text.dropTrailingNewlines t.toList)
  | some _ => .error .missingMember
  | none => .ok []

/-- the raw text of an inline token, as the literal of a node -/
def literal (h : TokenHead) : Literal :=
  match h.raw with
  | some (.text t) => .text t.toList
  | some .null => .text []
  | some v => .other v
  | none => .text []

/-- the raw text of a token of unknown type; what counts as false is no text -/
def looseLiteral (h : TokenHead) : Literal :=
  match h.raw with
  | some (.text t) => .text t.toList
  | some v => if v.truthy then .other v else .text []
  | none => .text []

/-- the target of a link: an empty one if none is given, none if it is given as null -/
def target (h : TokenHead) : Option Value :=
  match h.attribute? "url" with
  | some .null => none
  | some v => some v
  | none => some (.text "")

def title (h : TokenHead) : Option Value :=
  match h.attribute? "title" with
  | some .null => none
  | other => other

/-- the marker that a task opens with, if its attributes can be read -/
def marker (h : TokenHead) : List Node :=
  if h.type.any (Value.same (.text "task_list_item")) && h.hasAttributes then [Build.checkbox (h.isMarked "checked")]
  else []

/-- the type of a token, if it is a known one; what cannot be looked up has the wrong type -/
def tokenType? (h : TokenHead) : Except Fault (Option TokenType) :=
  match h.typeValue with
  | .text name => .ok (TokenType.ofName? name)
  | v => if v.isKey then .ok none else .error .wrongType

end TokenHead

/-- what going through a value that is no list gives, if every element must have fields -/
def Value.noEntries (v : Value) : Except Fault Unit :=
  match v with
  | .text _ | .list _ | .object _ => if v.truthy then .error .missingMember else .ok ()
  | _ => .error .wrongType

/-- what going through a value that is no list gives, if elements without fields are passed over -/
def Value.noItems : Value → Except Fault Unit
  | .text _ | .list _ | .object _ => .ok ()
  | _ => .error .wrongType

mutual

def Inner.flatText : Inner → Except Fault Text
  | .list tokens => Token.flatTextAll tokens
  | _ => .ok []

/-- the text of a token: of the tokens inside it, if it says anything of them, or else its raw text -/
def Token.flatText : Token → Except Fault Text
  | .entry head .absent =>
    match head.raw with
    | some (.text t) => .ok t.toList
    | some _ => .error .wrongType
    | none => .ok []
  | .entry _ inner => inner.flatText
  | .stray _ => .ok []

def Token.flatTextAll : List Token → Except Fault Text
  | [] => .ok []
  | t :: rest => do
    let first ← t.flatText
    let others ← Token.flatTextAll rest
    return first ++ others

end

def tableNode (header rows : List Node) : Node :=
  .element { kind := .table } [] none (some header) (some rows)

def listNode (ordered : Bool) (items : List Node) : Node :=
  .element { kind := .list, ordered := ordered } [] (some items) none none

mutual

def Token.toNode : Token → Logged Node
  | .stray _ => .fail .missingMember
  | .entry head inner => do
    match ← Logged.ofExcept head.tokenType? with
    | none => do
      Logged.note (.unknownToken head.typeValue)
      let children ← inner.toNodes
      return .element { kind := .generic, literal := head.looseLiteral } children none none none
    | some type =>
      match type with
      | .blankLine => return Build.space
      | .heading => do
        let children ← inner.toNodes
        return .element { kind := .heading, level := some head.level } children none none none
      | .paragraph => return .branch .paragraph (← inner.toNodes)
      | .blockText => return .branch .paragraph (← inner.toNodes)
      | .blockCode => do
        let language ← Logged.ofExcept head.language
        let code ← Logged.ofExcept head.blockText
        return Build.codeBlock code language
      | .blockQuote => return .branch .blockquote (← inner.toNodes)
      | .blockHtml => return Build.rawHtml (← Logged.ofExcept head.blockText)
      | .list => return listNode (head.isMarked "ordered") (← inner.toItems)
      | .listItem => return .branch .listItem (head.marker ++ (← inner.toNodes))
      | .taskListItem => return .branch .listItem (head.marker ++ (← inner.toNodes))
      | .table => do
        let (header, rows) ← inner.toSections
        return tableNode header rows
      | .thematicBreak => return Build.horizontalRule
      | .text => return .element { kind := .text, literal := head.literal } [] none none none
      | .strong => return .branch .strong (← inner.toNodes)
      | .emphasis => return .branch .emphasis (← inner.toNodes)
      | .strikethrough => return .branch .strikethrough (← inner.toNodes)
      | .codespan => return .element { kind := .codeSpan, literal := head.literal } [] none none none
      | .link => do
        let children ← inner.toNodes
        return .element { kind := .link, href := head.target, title := head.title } children none none none
      | .image => do
        let alt ← Logged.ofExcept inner.flatText
        return Build.image alt head.target head.title
      | .linebreak => return Build.text [' ']
      | .softbreak => return Build.text [' ']
      | .inlineHtml => return Build.rawHtml (← Logged.ofExcept head.blockText)

def Token.toNodes : List Token → Logged (List Node)
  | [] => return []
  | t :: rest => do
    let first ← t.toNode
    let others ← Token.toNodes rest
    return first :: others

/-- the nodes inside a token; what is no list has none -/
def Inner.toNodes : Inner → Logged (List Node)
  | .list tokens => Token.toNodes tokens
  | _ => return []

def Inner.toItems : Inner → Logged (List Node)
  | .absent => return []
  | .list tokens => Token.toItems tokens
  | .other v => do
    Logged.ofExcept v.noItems
    return []

/-- the list items of some tokens; what is no token is passed over -/
def Token.toItems : List Token → Logged (List Node)
  | [] => return []
  | t :: rest => do
    let first ← t.toItem
    let others ← Token.toItems rest
    return first ++ others

/-- the list item of a token, whatever its type -/
def Token.toItem : Token → Logged (List Node)
  | .stray _ => return []
  | .entry head inner => do
    let children ← inner.toNodes
    return [.branch .listItem (head.marker ++ children)]

/-- the header and the body rows of a table; a later header takes the place of an earlier one -/
def Inner.toSections : Inner → Logged (List Node × List Node)
  | .absent => return ([], [])
  | .list tokens => Token.toSections [] [] tokens
  | .other v => do
    Logged.ofExcept v.noEntries
    return ([], [])

/-- goes through the sections of a table, from a header and rows found before -/
def Token.toSections (header rows : List Node) : List Token → Logged (List Node × List Node)
  | [] => return (header, rows)
  | part :: rest => do
    let (header, rows) ← part.toSection header rows
    Token.toSections header rows rest

def Token.toSection (header rows : List Node) : Token → Logged (List Node × List Node)
  | .stray _ => .fail .missingMember
  | .entry head inner => do
    if head.typeValue.same (.text "table_head") then
      let cells ← inner.toCells true
      return (cells, rows)
    else if head.typeValue.same (.text "table_body") then
      let more ← inner.toRows
      return (header, rows ++ more)
    else return (header, rows)

/-- the rows inside the body of a table -/
def Inner.toRows : Inner → Logged (List Node)
  | .absent => return []
  | .list tokens => Token.toRows tokens
  | .other v => do
    Logged.ofExcept v.noEntries
    return []

def Token.toRows : List Token → Logged (List Node)
  | [] => return []
  | t :: rest => do
    let first ← t.toRow
    let others ← Token.toRows rest
    return first :: others

/-- the row of a token, whatever its type -/
def Token.toRow : Token → Logged Node
  | .stray _ => .fail .missingMember
  | .entry _ inner => do
    let cells ← inner.toCells false
    return .branch .tableRow cells

/-- the cells inside a header or a row -/
def Inner.toCells (isHeader : Bool) : Inner → Logged (List Node)
  | .absent => return []
  | .list tokens => Token.toCells isHeader tokens
  | .other v => do
    Logged.ofExcept v.noEntries
    return []

def Token.toCells (isHeader : Bool) : List Token → Logged (List Node)
  | [] => return []
  | t :: rest => do
    let first ← t.toCell isHeader
    let others ← Token.toCells isHeader rest
    return first :: others

/-- the cell of a token, whatever its type -/
def Token.toCell (isHeader : Bool) : Token → Logged Node
  | .stray _ => .fail .missingMember
  | .entry _ inner => do
    let children ← inner.toNodes
    return .element { kind := .tableCell, isHeaderCell := isHeader } children none none none

end

end Unmark
