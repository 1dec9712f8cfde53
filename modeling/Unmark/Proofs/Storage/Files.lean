import Unmark.Proofs.OrderedTable
import Unmark.Storage.Destination
/-!
What writing a file does to the files around it. A path is followed through directories, so that every path leads to
the same place in trees with the same directories (`SameOff.locate`), and what is put where no directory lies stands in
nobody's way (`sameOff_put`). So a file that was written is found again under its path, with its new content, and
nothing else has changed.

Writing ends in one of three ways (`write_cases`): the file is put at its place, or the operation is refused, or the
path holds a null character. Text that is sent to a path fares the same (`deliver_path_cases`).
-/
namespace Unmark

namespace FileTree

variable {files : FileTree} {place : Place}

theorem entryAt?_root : files.entryAt? [] = some .directory := rfl

/-! ## Putting something at a place -/

theorem entryAt?_put_self (h : place ≠ []) (e : Entry) : (files.put place e).entryAt? place = some e := by
  have hroot : place.isEmpty = false := by simpa using h
  simp [entryAt?, put, hroot, OrderedTable.get?_put]

theorem entryAt?_put_of_ne {other : Place} (h : other ≠ place) (e : Entry) :
    (files.put place e).entryAt? other = files.entryAt? other := by
  have hother : (place == other) = false := beq_eq_false_iff_ne.2 (Ne.symm h)
  simp [entryAt?, put, OrderedTable.get?_put, hother]

/-! ## Trees that differ at one place -/

/-- the trees have the same home and the same directories, and the same at all places but one, or at all -/
structure SameOff (place : Option Place) (before after : FileTree) : Prop where
  home : after.home = before.home
  directories : ∀ other, after.entryAt? other = some .directory ↔ before.entryAt? other = some .directory
  elsewhere : ∀ other, place ≠ some other → after.entryAt? other = before.entryAt? other

namespace SameOff

variable {place : Option Place} {before after later : FileTree}

theorem refl (place : Option Place) (files : FileTree) : SameOff place files files :=
  ⟨rfl, fun _ => Iff.rfl, fun _ _ => rfl⟩

theorem symm (h : SameOff place before after) : SameOff place after before :=
  ⟨h.home.symm, fun other => (h.directories other).symm, fun other hother => (h.elsewhere other hother).symm⟩

theorem trans (h : SameOff place before after) (h' : SameOff place after later) : SameOff place before later :=
  ⟨h'.home.trans h.home, fun other => (h'.directories other).trans (h.directories other),
    fun other hother => (h'.elsewhere other hother).trans (h.elsewhere other hother)⟩

/-- a place that may change may be given where none does -/
theorem mono {wider : Option Place} (h : SameOff place before after)
    (hwider : ∀ other, place = some other → wider = some other) : SameOff wider before after :=
  ⟨h.home, h.directories, fun other hother => h.elsewhere other fun hplace => hother (hwider other hplace)⟩

theorem follow (h : SameOff place before after) {start goal : Place} {parts : List Text}
    (hway : before.follow start parts = .ok goal) : after.follow start parts = .ok goal := by
  induction parts generalizing start with
  | nil => exact hway
  | cons part rest ih =>
    rw [FileTree.follow] at hway ⊢
    split at hway
    · cases hway
    · cases hway
    · rename_i hdir
      rw [(h.directories start).2 hdir]
      simp only at hway ⊢
      by_cases hup : part = Path.up
      · rw [if_pos hup] at hway ⊢
        exact ih hway
      · rw [if_neg hup] at hway ⊢
        by_cases hlong : nameLimit < size part
        · rw [if_pos hlong] at hway
          cases hway
        · rw [if_neg hlong] at hway ⊢
          exact ih hway

/-- every path leads where it led -/
theorem locate (h : SameOff place before after) {p : Path} {goal : Place} (hway : before.locate p = .ok goal) :
    after.locate p = .ok goal := by
  rw [FileTree.locate] at hway ⊢
  by_cases hlong : pathLimit ≤ size p.shown
  · rw [if_pos hlong] at hway
    cases hway
  · rw [if_neg hlong] at hway ⊢
    rw [h.home]
    exact h.follow hway

end SameOff

/-- what is put where no directory lies stands in nobody's way -/
theorem sameOff_put (h : files.entryAt? place ≠ some .directory) (content : Bytes) :
    SameOff (some place) files (files.put place (.file content)) := by
  have hroot : place ≠ [] := by
    rintro rfl
    exact h entryAt?_root
  refine ⟨rfl, fun other => ?_, fun other hother => ?_⟩
  · by_cases hsame : other = place
    · rw [hsame, entryAt?_put_self hroot]
      exact ⟨fun hfile => (by cases hfile), fun hdir => absurd hdir h⟩
    · rw [entryAt?_put_of_ne hsame]
  · have hne : other ≠ place := fun hsame => hother (congrArg some hsame.symm)
    exact entryAt?_put_of_ne hne _

/-! ## Reading -/

theorem find_of_locate {p : Path} {goal : Place} (hnull : p.hasNull = false) (hway : files.locate p = .ok goal) :
    files.find p = .ok (goal, files.entryAt? goal) := by
  simp [find, hnull, hway]

theorem find_eq_ok_iff {p : Path} {goal : Place} {entry : Option Entry} :
    files.find p = .ok (goal, entry) ↔
      p.hasNull = false ∧ files.locate p = .ok goal ∧ files.entryAt? goal = entry := by
  rw [find]
  cases hnull : p.hasNull <;> cases hway : files.locate p <;> simp
  exact fun hgoal => hgoal ▸ Iff.rfl

theorem read_eq_ok_iff {p : Path} {content : Bytes} :
    files.read p = .ok content ↔ ∃ goal, files.find p = .ok (goal, some (.file content)) := by
  unfold read
  cases hfind : files.find p with
  | error f => simp [bind, Except.bind]
  | ok found =>
    obtain ⟨goal, entry⟩ := found
    cases entry with
    | none => simp [bind, Except.bind]
    | some entry => cases entry <;> simp [bind, Except.bind]

/-- how reading a file ends: with its content, or it is refused, or the path holds a null character -/
theorem read_cases (files : FileTree) (p : Path) :
    (∃ content, files.read p = .ok content) ∨ (∃ reason, files.read p = .error (refused p reason)) ∨
      (p.hasNull = true ∧ files.read p = .error .nullCharacter) := by
  rw [read, find]
  cases hnull : p.hasNull with
  | true => exact .inr (.inr ⟨rfl, rfl⟩)
  | false =>
    cases files.locate p with
    | error reason => exact .inr (.inl ⟨reason, rfl⟩)
    | ok place =>
      cases hentry : files.entryAt? place with
      | none => exact .inr (.inl ⟨.noEntry, by simp [hentry, bind, Except.bind]⟩)
      | some entry =>
        cases entry with
        | file content => exact .inl ⟨content, by simp [hentry, bind, Except.bind]⟩
        | directory => exact .inr (.inl ⟨.isDirectory, by simp [hentry, bind, Except.bind]⟩)

theorem isFile_of_read {p : Path} {content : Bytes} (h : files.read p = .ok content) : files.isFile p = true := by
  obtain ⟨goal, hfind⟩ := read_eq_ok_iff.1 h
  rw [isFile, hfind]

/-! ## Writing -/

/-- a file that was written: it lies where its path leads, no directory lay there before, and nothing else is new -/
structure Wrote (files : FileTree) (p : Path) (content : Bytes) (place : Place) (written : FileTree) : Prop where
  noNull : p.hasNull = false
  leads : files.locate p = .ok place
  noDirectory : files.entryAt? place ≠ some .directory
  put : written = files.put place (.file content)

namespace Wrote

variable {p : Path} {content : Bytes} {written : FileTree}

theorem place_ne_root (h : Wrote files p content place written) : place ≠ [] := by
  rintro rfl
  exact h.noDirectory entryAt?_root

theorem home (h : Wrote files p content place written) : written.home = files.home := by
  rw [h.put]
  rfl

theorem entryAt?_of_ne (h : Wrote files p content place written) {other : Place} (hne : other ≠ place) :
    written.entryAt? other = files.entryAt? other := by
  rw [h.put]
  exact entryAt?_put_of_ne hne _

theorem entryAt?_self (h : Wrote files p content place written) : written.entryAt? place = some (.file content) := by
  rw [h.put]
  exact entryAt?_put_self h.place_ne_root _

/-- **What was written is read.** -/
theorem read_eq (h : Wrote files p content place written) : written.read p = .ok content := by
  have hway : written.locate p = .ok place := by
    rw [h.put]
    exact (sameOff_put h.noDirectory content).locate h.leads
  exact read_eq_ok_iff.2 ⟨place, by rw [find_of_locate h.noNull hway, h.entryAt?_self]⟩

end Wrote

/-- how opening a file to write to ends: at a place where no directory lies, or it is refused, or the path holds a null
character -/
theorem openFile_cases (files : FileTree) (p : Path) :
    (∃ place old, files.openFile p = .ok (place, old) ∧ p.hasNull = false ∧ files.locate p = .ok place ∧
      files.entryAt? place ≠ some .directory) ∨
    (p.hasNull = false ∧ ∃ reason, files.openFile p = .error (refused p reason)) ∨
    (p.hasNull = true ∧ files.openFile p = .error .nullCharacter) := by
  cases hnull : p.hasNull with
  | true =>
    right; right
    refine ⟨rfl, ?_⟩
    simp [openFile, find, hnull, bind, Except.bind]
  | false =>
    cases hway : files.locate p with
    | error reason =>
      right; left
      refine ⟨rfl, reason, ?_⟩
      simp [openFile, find, hnull, hway, bind, Except.bind]
    | ok place =>
      have hfind := find_of_locate hnull hway
      cases hentry : files.entryAt? place with
      | none =>
        left
        refine ⟨place, [], ?_, rfl, rfl, by simp [hentry]⟩
        simp [openFile, hfind, hentry, bind, Except.bind]
      | some entry =>
        cases entry with
        | file old =>
          left
          refine ⟨place, old, ?_, rfl, rfl, by simp [hentry]⟩
          simp [openFile, hfind, hentry, bind, Except.bind]
        | directory =>
          right; left
          refine ⟨rfl, .isDirectory, ?_⟩
          simp [openFile, hfind, hentry, bind, Except.bind]

/-- a file is opened, and put anew -/
theorem write_eq (files : FileTree) (p : Path) (content : Bytes) :
    files.write p content = (files.openFile p).map fun opened => files.put opened.1 (.file content) := by
  rw [write]
  cases files.openFile p <;> rfl

/-- **How writing ends.** A file is written, or the operation is refused, or the path holds a null character. -/
theorem write_cases (files : FileTree) (p : Path) (content : Bytes) :
    (∃ place written, files.write p content = .ok written ∧ Wrote files p content place written) ∨
    (p.hasNull = false ∧ ∃ reason, files.write p content = .error (refused p reason)) ∨
    (p.hasNull = true ∧ files.write p content = .error .nullCharacter) := by
  rcases openFile_cases files p with ⟨place, old, hopen, hnull, hway, hdir⟩ | ⟨hnull, reason, hopen⟩ | ⟨hnull, hopen⟩
  · left
    refine ⟨place, files.put place (.file content), ?_, hnull, hway, hdir, rfl⟩
    rw [write_eq, hopen]
    rfl
  · right; left
    refine ⟨hnull, reason, ?_⟩
    rw [write_eq, hopen]
    rfl
  · right; right
    refine ⟨hnull, ?_⟩
    rw [write_eq, hopen]
    rfl

end FileTree

namespace Destination

open FileTree

/-- how writing a text to a file ends: it is written, or the refusal is reported, or the path holds a null character -/
theorem writeFile_cases (files : FileTree) (p : Path) (t : Text) :
    (∃ place written, writeFile files p t = .ok written ∧ Wrote files p (Utf8.encode t) place written) ∨
    (p.hasNull = false ∧ ∃ reason, files.write p (Utf8.encode t) = .error (refused p reason) ∧
      writeFile files p t = .error (.reported (.outputFailed p.toString none (some (.system reason))))) ∨
    (p.hasNull = true ∧ writeFile files p t = .error .nullCharacter) := by
  rcases write_cases files p (Utf8.encode t) with
    ⟨place, written, hwrite, hwrote⟩ | ⟨hnull, reason, hwrite⟩ | ⟨hnull, hwrite⟩
  · left
    refine ⟨place, written, ?_, hwrote⟩
    rw [writeFile, hwrite]
  · right; left
    refine ⟨hnull, reason, hwrite, ?_⟩
    rw [writeFile, hwrite]
    rfl
  · right; right
    refine ⟨hnull, ?_⟩
    rw [writeFile, hwrite]

/-- **How sending to a path ends.** The file is written, or the refusal is reported under the path, or the path holds a
null character, which is no refusal and is not reported as one. -/
theorem deliver_path_cases (files : FileTree) (s name : Text) :
    (∃ place written, (path name).deliver files s = .ok ⟨written, none⟩ ∧
      Wrote files (.ofText name) (Utf8.encode s) place written) ∨
    ((Path.ofText name).hasNull = false ∧ ∃ reason, (path name).deliver files s =
      .error (.reported (.outputFailed (Path.ofText name).toString none (some (.system reason))))) ∨
    ((Path.ofText name).hasNull = true ∧ (path name).deliver files s = .error .nullCharacter) := by
  rcases writeFile_cases files (.ofText name) s with
    ⟨place, written, hwrite, hwrote⟩ | ⟨hnull, reason, -, hwrite⟩ | ⟨hnull, hwrite⟩
  · left
    refine ⟨place, written, ?_, hwrote⟩
    rw [deliver, hwrite]
    rfl
  · right; left
    refine ⟨hnull, reason, ?_⟩
    rw [deliver, hwrite]
    rfl
  · right; right
    refine ⟨hnull, ?_⟩
    rw [deliver, hwrite]
    rfl

theorem deliver_path_eq_ok {files : FileTree} {s name : Text} {d : Delivery} (h : (path name).deliver files s = .ok d) :
    d.received = none ∧ ∃ place, Wrote files (.ofText name) (Utf8.encode s) place d.files := by
  rcases deliver_path_cases files s name with ⟨place, written, hsent, hwrote⟩ | ⟨-, reason, hsent⟩ | ⟨-, hsent⟩
  · have hd : d = ⟨written, none⟩ := Except.ok.inj (h.symm.trans hsent)
    subst hd
    exact ⟨rfl, place, hwrote⟩
  · cases h.symm.trans hsent
  · cases h.symm.trans hsent

end Destination

end Unmark
