import Unmark.Journal
/-!
Tokens of Markdown, as a tokenizer hands them over. A token has a type, raw text, attributes and tokens inside; any
of these may be absent or hold a value of the wrong type, and what is no token at all may stand where one belongs.
Only the nesting is fixed here: all else stays the loose value that it was.
-/
namespace Unmark

/-- the constructs that a tokenizer names -/
inductive TokenType where
  | blankLine
  | heading
  | paragraph
  | blockText
  | blockCode
  | blockQuote
  | blockHtml
  | list
  | listItem
  | taskListItem
  | table
  | thematicBreak
  | text
  | strong
  | emphasis
  | strikethrough
  | codespan
  | link
  | image
  | linebreak
  | softbreak
  | inlineHtml
deriving DecidableEq, Repr

namespace TokenType

def known : List TokenType :=
  [.blankLine, .heading, .paragraph, .blockText, .blockCode, .blockQuote, .blockHtml, .list, .listItem,
    .taskListItem, .table, .thematicBreak, .text, .strong, .emphasis, .strikethrough, .codespan, .link, .image,
    .linebreak, .softbreak, .inlineHtml]

def name : TokenType → String
  | .blankLine => "blank_line"
  | .heading => "heading"
  | .paragraph => "paragraph"
  | .blockText => "block_text"
  | .blockCode => "block_code"
  | .blockQuote => "block_quote"
  | .blockHtml => "block_html"
  | .list => "list"
  | .listItem => "list_item"
  | .taskListItem => "task_list_item"
  | .table => "table"
  | .thematicBreak => "thematic_break"
  | .text => "text"
  | .strong => "strong"
  | .emphasis => "emphasis"
  | .strikethrough => "strikethrough"
  | .codespan => "codespan"
  | .link => "link"
  | .image => "image"
  | .linebreak => "linebreak"
  | .softbreak => "softbreak"
  | .inlineHtml => "inline_html"

def ofName? (name : String) : Option TokenType :=
  known.find? fun t => t.name == name

end TokenType

/-- what a token says of itself, apart from the tokens inside it; a field that it lacks is absent -/
structure TokenHead where
  type : Option Value
  raw : Option Value
  attributes : Option Value
deriving Repr

mutual

/-- a token, or a value that is none -/
inductive Token where
  | entry (head : TokenHead) (inner : Inner)
  | stray (value : Value)

/-- what a token holds inside: nothing said, a list of tokens, or a value that is no list -/
inductive Inner where
  | absent
  | list (tokens : List Token)
  | other (value : Value)

end

namespace TokenHead

/-- the type that a token names, where it is a text; a token without a type has an empty one -/
def typeValue (h : TokenHead) : Value := h.type.getD (.text "")

def attribute? (h : TokenHead) (name : String) : Option Value :=
  h.attributes.bind (Value.field? name)

/-- whether the attributes are missing or are an object, rather than some other value -/
def hasAttributes (h : TokenHead) : Bool :=
  (h.attributes.map Value.isObject).getD true

end TokenHead

namespace Token

mutual

def ofValue : Value → Token
  | .object fields =>
    .entry ⟨fields.lookup "type", fields.lookup "raw", fields.lookup "attrs"⟩ (innerOf fields)
  | v => .stray v

/-- what the fields of a token hold inside -/
def innerOf : List (String × Value) → Inner
  | [] => .absent
  | (name, v) :: rest => if name = "children" then innerOfValue v else innerOf rest

def innerOfValue : Value → Inner
  | .list values => .list (ofValues values)
  | v => .other v

def ofValues : List Value → List Token
  | [] => []
  | v :: rest => ofValue v :: ofValues rest

end

end Token

end Unmark
