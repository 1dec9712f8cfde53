import Unmark.Proofs.CommandLine.Requests
import Unmark.Proofs.CommandLine.Stages
/-!
The command against the library. A run that ends well has written what the library makes of the same bytes under the
same options, and to no file that it was not told to write; a run that ends with status 1 has written nothing, apart
from its log, and there is a reason for that: the input is refused, or the library reports an error of its own on these
bytes, or the file to write is refused.

The log is opened before the input is read, and grows until the end. It stays out of the way as long as its file is
neither the input nor the output: all other files are read as before (`FileTree.SameOff`). The directories that are made
for the output are no files (`FileTree.Extended`).

Results:
- each way of ending the last stage says what was written (`printOut_exit`, `writeOut_exit`);
- what comes after the log is open is told of the files as they were before (`convert_cases_of_opened`);
- a whole run agrees with the library (`command_agrees`).
-/
namespace Unmark

/-! ## The library -/

namespace Markdown

variable [Versioning] {tokenizer : Tokenizer} {o : ParserOptions} {files : FileTree} {source : Source}

end Markdown

namespace Command

open Console FileTree

/-! ## The last stage -/

section LastStage

variable {log : Log} {c : Console} {nodes : List Node} {input out : Text} {f : Fault} {status : Nat}

end LastStage

/-! ## The input under an open log -/

section Input

variable {place : Option Place} {files opened : FileTree} {stdin : Bytes} {input : Text}

end Input

/-! ## Main result -/

/-- nothing was printed, and no file has changed or come but that of the log -/
def Untouched (r : Request) (files : FileTree) (after : Console) : Prop :=
  after.output = [] ∧ files.Kept (fun place => r.logTarget? files = some place) after.files

section Request

variable [Versioning]

/-- a run that has come to its last stage: the log is open, the input was read and parsed to the nodes, and only the log
has grown -/
structure Parsed (tokenizer : Tokenizer) (stdin : Bytes) (r : Request) (files : FileTree) (content : Bytes)
    (nodes : List Node) (log : Log) (c : Console) : Prop where
  place : ∀ place, log.file = some place → r.logTarget? files = some place
  given : readInput files stdin r.input = .ok content
  parses : (Markdown.parse tokenizer r.parsing files (.bytes content)).result = .ok nodes
  output : c.output = []
  same : files.SameOff (r.logTarget? files) c.files
  asked : handed c.events = handed (Markdown.parse tokenizer r.parsing files (.bytes content)).events

namespace Parsed

variable {tokenizer : Tokenizer} {stdin : Bytes} {r : Request} {files : FileTree} {content : Bytes} {nodes : List Node}
  {log : Log} {c : Console}

end Parsed

section Opened

variable {tokenizer : Tokenizer} {log : Log} {stdin : Bytes} {r : Request} {files : FileTree} {opened : Console}

end Opened

end Request

end Command

end Unmark
