import Unmark.CommandLine.Request
/-!
What the command says of itself: its version, how it is used, and what its options mean. Each option has one line of
its own, whatever the width of the terminal.
-/
namespace Unmark.Command

def name : Text := "plaintify".toList

def versionLine : Text := name ++ " 0.1.0\n".toList

/-- the value of an option, as it stands after the spelling -/
def valueMark (f : Flag) : Text :=
  ((f.valueName?.map fun value => ' ' :: value.toList)).getD []

/-- how the command is used, in a line; this comes before what is wrong with a misuse, too -/
def usageLine : Text :=
  let item := fun f => " [".toList ++ (f.spellings.headD "").toList ++ valueMark f ++ [']']
  "usage: ".toList ++ name ++ Flag.all.flatMap item ++ " [input]\n".toList

/-- the level at which a log starts if the arguments name none -/
def levelUnlessAsked (defaults : Defaults) : Text :=
  (Request.nonempty defaults.level).getD Request.defaultLevel

def meaning (defaults : Defaults) : Flag → Text
  | .help => "show this help message and exit".toList
  | .out => "Write plain text to this file instead of stdout".toList
  | .noTables => "Do not recognize GFM tables".toList
  | .noStrikethrough => "Do not recognize ~~strikethrough~~".toList
  | .noTaskLists => "Do not recognize task list items".toList
  | .logLevel =>
    "Logging level (default: ".toList ++ levelUnlessAsked defaults ++ ", env: PLAINTIFY_LOG_LEVEL)".toList
  | .logFile => "Also write logs to this file (env: PLAINTIFY_LOG_FILE)".toList
  | .trace => "Verbose log format with timestamps and logger names".toList
  | .version => "show program's version number and exit".toList

/-- an option in all its spellings, with its meaning -/
def helpLine (defaults : Defaults) (f : Flag) : Text :=
  let spelled := [',', ' '].intercalate (f.spellings.map fun s => s.toList ++ valueMark f)
  "  ".toList ++ spelled ++ "  ".toList ++ meaning defaults f ++ ['\n']

def helpText (defaults : Defaults) : Text :=
  usageLine ++ "\nConvert Markdown to plain text.\n\npositional arguments:\n".toList ++
    "  input  Markdown file to convert, or '-' for stdin\n\noptions:\n".toList ++
      Flag.all.flatMap (helpLine defaults)

end Unmark.Command
