import Unmark.Proofs.Storage.Files
import Unmark.Proofs.Text.Decoding
import Unmark.Storage.Source
/-!
Reading undoes writing. A text that was sent to a file or to a stream of bytes is read back as it was, up to one byte
order mark at its start, and bytes read as the same text wherever they come from.

Results:
- `read_path`, `read_string`: a file reads as its bytes do, whether it is given as a path or as a string that names it;
- `read_deliver_path`, `read_deliver_bytes`: what was sent as bytes is read without its mark;
- all of these together, for texts with and without a mark.
-/
namespace Unmark

namespace Source

variable {files : FileTree} {name : Text} {content : Bytes}

/-! ## One text for the same bytes -/

theorem readFile_of_read {p : Path} (h : files.read p = .ok content) :
    readFile files p = .ok (Utf8.decodeUnmarked content) := by
  rw [readFile, h]
  rfl

theorem read_path (h : files.read (.ofText name) = .ok content) :
    read files (.path name) = .ok (Utf8.decodeUnmarked content) := readFile_of_read h

/-- a short string without a line feed that names a file is read as that file -/
theorem read_string (h : files.read (.ofText name) = .ok content) (hlength : name.length ≤ nameLimit)
    (hline : '\n' ∉ name) : read files (.string name) = .ok (Utf8.decodeUnmarked content) := by
  have hnames : namesFile files name = true := by
    simp [namesFile, hlength, hline, FileTree.isFile_of_read h]
  rw [read, if_pos hnames]
  exact readFile_of_read h

end Source

namespace Destination

variable {files : FileTree} {s : Text} {d : Delivery}

/-! ## What was sent is read -/

theorem read_deliver_path {name : Text} (h : (path name).deliver files s = .ok d) :
    Source.read d.files (.path name) = .ok (Utf8.unmarked s) := by
  obtain ⟨-, place, hwrote⟩ := deliver_path_eq_ok h
  rw [Source.read_path hwrote.read_eq, Utf8.decodeUnmarked_encode]

/-- bytes that some destination was given are the encoding of the text -/
theorem received_bytes {target : Destination} {content : Bytes} (h : target.deliver files s = .ok d)
    (hreceived : d.received = some (.bytes content)) : content = Utf8.encode s := by
  cases target with
  | path name =>
    rw [(deliver_path_eq_ok h).1] at hreceived
    cases hreceived
  | byteStream =>
    cases h
    cases hreceived
    rfl
  | textStream =>
    cases h
    cases hreceived
  | writable mode =>
    cases h
    simp only [Option.some.injEq] at hreceived
    split at hreceived
    · cases hreceived
      rfl
    · cases hreceived
  | unsupported typeName => cases h

theorem read_deliver_bytes {target : Destination} {content : Bytes} (h : target.deliver files s = .ok d)
    (hreceived : d.received = some (.bytes content)) (anywhere : FileTree) :
    Source.read anywhere (.bytes content) = .ok (Utf8.unmarked s) ∧
      Source.read anywhere (.byteStream content) = .ok (Utf8.unmarked s) := by
  rw [received_bytes h hreceived, Source.read, Source.read, Utf8.decodeUnmarked_encode]
  exact ⟨rfl, rfl⟩

end Destination

/-! ## Main result -/

/-- **Reading undoes writing.** The same bytes read as the same text, given as such, as a stream of bytes, as the path
of a file that holds them, or as a string of at most 260 characters and without a line feed that names such a file. Let
`s` be a text and `u` the same text without the byte order mark at its start, if there is one there. If `s` is
written to a path, that path reads as `u`; a stream of bytes takes `s`, and whatever bytes a destination is given for
`s` read as `u`. A stream of text reads as the text that it holds. -/
theorem read_undoes_write :
    (∀ content : Bytes, ∃ t : Text,
      (∀ files, Source.read files (.bytes content) = .ok t ∧ Source.read files (.byteStream content) = .ok t) ∧
      ∀ (files : FileTree) (name : Text), files.read (.ofText name) = .ok content →
        Source.read files (.path name) = .ok t ∧
          (name.length ≤ 260 → '\n' ∉ name → Source.read files (.string name) = .ok t)) ∧
    (∀ s u : Text, (s.head? ≠ some Utf8.mark ∧ u = s ∨ s = Utf8.mark :: u) →
      (∀ files name d, (Destination.path name).deliver files s = .ok d →
        Source.read d.files (.path name) = .ok u) ∧
      (∀ files, ∃ content, Destination.byteStream.deliver files s = .ok ⟨files, some (.bytes content)⟩) ∧
      ∀ files (target : Destination) d content, target.deliver files s = .ok d → d.received = some (.bytes content) →
        ∀ anywhere, Source.read anywhere (.bytes content) = .ok u ∧
          Source.read anywhere (.byteStream content) = .ok u) ∧
    ∀ files s, Source.read files (.textStream s) = .ok s := by
  refine ⟨fun content => ?_, fun s u hmark => ?_, fun files s => rfl⟩
  · refine ⟨Utf8.decodeUnmarked content, fun files => ⟨rfl, rfl⟩, fun files name hread => ?_⟩
    exact ⟨Source.read_path hread, Source.read_string hread⟩
  · have hu : Utf8.unmarked s = u := by
      rcases hmark with ⟨hhead, rfl⟩ | rfl
      · exact Utf8.unmarked_of_head hhead
      · exact Utf8.unmarked_cons_mark u
    refine ⟨fun files name d h => ?_, fun files => ⟨_, rfl⟩, fun files target d content h hreceived anywhere => ?_⟩
    · rw [← hu]
      exact Destination.read_deliver_path h
    · rw [← hu]
      exact Destination.read_deliver_bytes h hreceived anywhere

/-- a home directory with one file in it, which holds a mark, a letter and a stretch that is no UTF-8 -/
def damagedNotes : FileTree :=
  ⟨[['h']], [([['h']], .directory), ([['h'], ['n']], .file [0xEF, 0xBB, 0xBF, 0x61, 0xE2, 0x82])]⟩

theorem read_undoes_write_marked :
    damagedNotes.read (.ofText ['.', '/', 'n']) = .ok [0xEF, 0xBB, 0xBF, 0x61, 0xE2, 0x82] ∧
    (∃ t, Source.read damagedNotes (.bytes [0xEF, 0xBB, 0xBF, 0x61, 0xE2, 0x82]) = .ok t ∧
      Source.read damagedNotes (.string ['.', '/', 'n']) = .ok t ∧ t = ['a', Utf8.replacement]) ∧
    ∃ d, (Destination.path ['n']).deliver damagedNotes [Utf8.mark, 'é', '\r', '\n', '😀'] = .ok d ∧
      Source.read d.files (.path ['n']) = .ok ['é', '\r', '\n', '😀'] := by
  have hread : damagedNotes.read (.ofText ['.', '/', 'n']) = .ok [0xEF, 0xBB, 0xBF, 0x61, 0xE2, 0x82] := rfl
  obtain ⟨t, hbytes, hfile⟩ := read_undoes_write.1 [0xEF, 0xBB, 0xBF, 0x61, 0xE2, 0x82]
  have hstring := (hfile damagedNotes ['.', '/', 'n'] hread).2 (by decide) (by decide)
  have hmarked := read_undoes_write.2.1 [Utf8.mark, 'é', '\r', '\n', '😀'] ['é', '\r', '\n', '😀'] (.inr rfl)
  refine ⟨hread, ⟨t, (hbytes damagedNotes).1, hstring, ?_⟩, _, rfl, hmarked.1 damagedNotes ['n'] _ rfl⟩
  exact Except.ok.inj ((hbytes damagedNotes).1.symm.trans rfl)

end Unmark
