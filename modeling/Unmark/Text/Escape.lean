import Unmark.Text.Basic
/-!
Literal text made safe for HTML: the five special characters become entities, in one pass. A second pass escapes
the ampersands of the first again, so raw text is escaped exactly once.
-/
namespace Unmark.Text

/-- the entity that stands for a special character -/
def entityOf : Char → Option String
  | '&' => some "&amp;"
  | '<' => some "&lt;"
  | '>' => some "&gt;"
  | '\x22' => some "&quot;"
  | '\x27' => some "&#39;"
  | _ => none

def escapeChar (c : Char) : Text :=
  match entityOf c with
  | some entity => entity.toList
  | none => [c]

def escapeHtml (t : Text) : Text :=
  t.flatMap escapeChar

end Unmark.Text
