import Unmark.Proofs.Storage.Files
/-!
Sending, step by step. An act starts from what lies outside, the files and what a stream was given, and leaves it in
some state however it ends: an act that fails after its first step leaves what that step did. So it shows what a
delivery, which is there only if all went well, cannot show: that nothing was touched before the failure.

To send a text to a path, the file is opened, which empties it, and then filled. To send it to a stream, the stream is
given it. `send_eq_deliver` says that these steps are what delivering does.

Results:
- an act of sending that fails has done nothing (`send_of_error`);
- whatever it does, it does at the end of the path (`entryAt?_send`).
-/
namespace Unmark

/-- how an act ends, and what it leaves -/
structure Acted (α : Type) where
  result : Except Fault α
  outside : Delivery

/-- a computation that acts on what lies outside -/
def Act (α : Type) : Type := Delivery → Acted α

namespace Act

variable {α β : Type}

def pure (a : α) : Act α := fun outside => ⟨.ok a, outside⟩

/-- goes on from a result; a fault ends the whole, and what was done stays done -/
def bind (x : Act α) (f : α → Act β) : Act β := fun outside =>
  let first := x outside
  match first.result with
  | .ok a => f a first.outside
  | .error e => ⟨.error e, first.outside⟩

instance : Monad Act where
  pure := Act.pure
  bind := Act.bind

def ofExcept (x : Except Fault α) : Act α := fun outside => ⟨x, outside⟩

/-- opens a file to write it anew: the file is there and empty; a refusal is reported under the path -/
def openAnew (p : Path) : Act Place := fun outside =>
  match outside.files.openFile p with
  | .ok (place, _) => ⟨.ok place, { outside with files := outside.files.put place (.file []) }⟩
  | .error (.system e) => ⟨.error (.reported (.outputFailed p.toString none (some (.system e.reason)))), outside⟩
  | .error f => ⟨.error f, outside⟩

/-- writes to the end of an open file -/
def fill (place : Place) (content : Bytes) : Act Unit := fun outside =>
  ⟨.ok (), { outside with files := outside.files.appendAt place content }⟩

def give (r : Received) : Act Unit := fun outside => ⟨.ok (), { outside with received := some r }⟩

theorem bind_ok {x : Act α} {f : α → Act β} {o : Delivery} {a : α} (h : (x o).result = .ok a) :
    (x >>= f) o = f a (x o).outside := by
  show Act.bind x f o = _
  simp only [Act.bind, h]

theorem bind_error {x : Act α} {f : α → Act β} {o : Delivery} {e : Fault} (h : (x o).result = .error e) :
    (x >>= f) o = ⟨.error e, (x o).outside⟩ := by
  show Act.bind x f o = _
  simp only [Act.bind, h]

/-- what comes of an act: what it leaves, if it does not fail -/
def summary (a : Acted α) : Except Fault Delivery := a.result.map fun _ => a.outside

end Act

namespace FileTree

/-- emptied and filled is written anew -/
theorem appendAt_put_empty {files : FileTree} {place : Place} (h : place ≠ []) (content : Bytes) :
    (files.put place (.file [])).appendAt place content = files.put place (.file content) := by
  have hempty : (files.put place (.file [])).entryAt? place = some (.file []) := entryAt?_put_self h _
  rw [appendAt, hempty]
  simp [put, OrderedTable.put_put]

end FileTree

namespace Destination

open FileTree

def send (t : Text) : Destination → Act Unit
  | .path name => do
    let place ← Act.openAnew (.ofText name)
    Act.fill place (Utf8.encode t)
  | .byteStream => Act.give (.bytes (Utf8.encode t))
  | .textStream => Act.give (.text t)
  | .writable mode => Act.give (if isBinary mode then .bytes (Utf8.encode t) else .text t)
  | .unsupported typeName => Act.ofExcept (.error (.unsupportedTarget typeName))

/-- sending to a path, step by step: the file is written, or nothing is done and the fault is that of writing -/
theorem send_path_cases (t name : Text) (before : Delivery) :
    (∃ place written, (path name).send t before = ⟨.ok (), { before with files := written }⟩ ∧
      writeFile before.files (.ofText name) t = .ok written ∧
      Wrote before.files (.ofText name) (Utf8.encode t) place written) ∨
    ∃ f, (path name).send t before = ⟨.error f, before⟩ ∧ writeFile before.files (.ofText name) t = .error f := by
  rcases openFile_cases before.files (.ofText name) with
    ⟨place, old, hopen, hnull, hway, hdir⟩ | ⟨-, reason, hopen⟩ | ⟨-, hopen⟩
  · left
    refine ⟨place, before.files.put place (.file (Utf8.encode t)), ?_, ?_, hnull, hway, hdir, rfl⟩
    · have hroot : place ≠ [] := by
        rintro rfl
        exact hdir entryAt?_root
      have hopened : Act.openAnew (.ofText name) before =
          ⟨.ok place, { before with files := before.files.put place (.file []) }⟩ := by
        rw [Act.openAnew, hopen]
      rw [send, Act.bind_ok (congrArg Acted.result hopened), hopened, Act.fill]
      rw [appendAt_put_empty hroot]
    · rw [writeFile, write_eq, hopen]
      rfl
  · right
    refine ⟨.reported (.outputFailed (Path.ofText name).toString none (some (.system reason))), ?_, ?_⟩
    · have hopened : Act.openAnew (.ofText name) before =
          ⟨.error (.reported (.outputFailed (Path.ofText name).toString none (some (.system reason)))), before⟩ := by
        rw [Act.openAnew, hopen]
        rfl
      rw [send, Act.bind_error (congrArg Acted.result hopened), hopened]
    · rw [writeFile, write_eq, hopen]
      rfl
  · right
    refine ⟨.nullCharacter, ?_, ?_⟩
    · have hopened : Act.openAnew (.ofText name) before = ⟨.error .nullCharacter, before⟩ := by
        rw [Act.openAnew, hopen]
      rw [send, Act.bind_error (congrArg Acted.result hopened), hopened]
    · rw [writeFile, write_eq, hopen]
      rfl

/-- **The steps of a delivery.** What comes of sending step by step is what delivering gives. -/
theorem send_eq_deliver (t : Text) (d : Destination) (files : FileTree) :
    Act.summary (d.send t ⟨files, none⟩) = d.deliver files t := by
  cases d with
  | path name =>
    rcases send_path_cases t name ⟨files, none⟩ with ⟨place, written, hsend, hwrite, -⟩ | ⟨f, hsend, hwrite⟩
    · rw [hsend, deliver, hwrite]
      rfl
    · rw [hsend, deliver, hwrite]
      rfl
  | byteStream => rfl
  | textStream => rfl
  | writable mode => rfl
  | unsupported typeName => rfl

/-- **Sending that fails has done nothing.** -/
theorem send_of_error {t : Text} {d : Destination} {before : Delivery} {f : Fault}
    (h : (d.send t before).result = .error f) : d.send t before = ⟨.error f, before⟩ := by
  cases d with
  | path name =>
    rcases send_path_cases t name before with ⟨place, written, hsend, -, -⟩ | ⟨g, hsend, -⟩
    · rw [hsend] at h
      cases h
    · rw [hsend] at h
      cases h
      exact hsend
  | byteStream => cases h
  | textStream => cases h
  | writable mode => cases h
  | unsupported typeName =>
    cases h
    rfl

/-- nothing lies elsewhere than before but at the end of the path -/
theorem entryAt?_send (t : Text) {d : Destination} {before : Delivery} {place : Place}
    (hplace : ∀ name, d = .path name → before.files.locate (.ofText name) ≠ .ok place) :
    (d.send t before).outside.files.entryAt? place = before.files.entryAt? place := by
  cases d with
  | path name =>
    rcases send_path_cases t name before with ⟨goal, written, hsend, -, hwrote⟩ | ⟨f, hsend, -⟩
    · have hne : place ≠ goal := by
        rintro rfl
        exact hplace name rfl hwrote.leads
      rw [hsend]
      exact hwrote.entryAt?_of_ne hne
    · rw [hsend]
  | byteStream => rfl
  | textStream => rfl
  | writable mode => rfl
  | unsupported typeName => rfl

end Destination

end Unmark
