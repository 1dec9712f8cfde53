import Unmark.Text.Printable
/-!
The quoted form of a text: what messages show of a name. A text stands in single quotes, or in double quotes if it
holds a single quote and no double one. Inside, the quote in use, backslashes, line feeds, carriage returns and tabs
are written with a backslash, other unprintable characters as hexadecimal escapes of the shortest of three widths.
-/
namespace Unmark.Text

/-- the low `width` hexadecimal digits of a number, in lower case -/
def hexDigits : Nat → Nat → List Char
  | 0, _ => []
  | width + 1, n => hexDigits width (n / 16) ++ [Nat.digitChar (n % 16)]

def quoteFor (t : List Char) : Char :=
  if t.contains '\x27' && !t.contains '\x22' then '\x22' else '\x27'

/-- one character inside quotes `q` -/
def quoteChar (q c : Char) : List Char :=
  if c == q || c == '\\' then ['\\', c]
  else if c == '\n' then ['\\', 'n']
  else if c == '\r' then ['\\', 'r']
  else if c == '\t' then ['\\', 't']
  else if isPrintable c then [c]
  else if c.toNat < 0x100 then ['\\', 'x'] ++ hexDigits 2 c.toNat
  else if c.toNat < 0x10000 then ['\\', 'u'] ++ hexDigits 4 c.toNat
  else ['\\', 'U'] ++ hexDigits 8 c.toNat

def quote (t : List Char) : List Char :=
  let q := quoteFor t
  q :: t.flatMap (quoteChar q) ++ [q]

def quoteString (s : String) : String :=
  String.ofList (quote s.toList)

end Unmark.Text
