import Unmark.Proofs.Storage.Files
/-!
What changes in a tree of files, and what stays. Two relations say it for whole runs of operations, since each is kept
when one operation comes after another.

`SameOff place` lets a file change at one place, or at none: a log does that to its file. Directories stay what they
are, so that every path leads where it led, and all other files are read as before. `Extended` lets directories come
where nothing lay: making the directories above a file does that, whether it is done in the end or not.

Where a path leads does not depend on the files if it leads anywhere: it leads to its target, by name.

Results:
- a path that leads somewhere leads to its target (`locate_eq_target`);
- off the place that may change, files are read as before (`SameOff.read_eq_ok_iff`);
- making a directory and those above it changes no file, even if it is refused on the way, and what refuses it is the
  system, unless there is a null character in the path (`ensured_ensureDirectories`).
-/
namespace Unmark.FileTree

/-- the content of the file at a place, if one lies there -/
def fileAt? (files : FileTree) (place : Place) : Option Bytes :=
  match files.entryAt? place with
  | some (.file content) => some content
  | _ => none

theorem fileAt?_congr {files files' : FileTree} {place : Place} (h : files'.entryAt? place = files.entryAt? place) :
    files'.fileAt? place = files.fileAt? place := by
  rw [fileAt?, fileAt?, h]

/-! ## Targets -/

/-- the place that a path names, as if all on its way were there -/
def target (files : FileTree) (p : Path) : Place := (Path.settled files.home p).parts

theorem target_congr {before after : FileTree} (h : after.home = before.home) (p : Path) :
    after.target p = before.target p := by
  rw [target, target, h]

theorem follow_eq_target {files : FileTree} {start goal : Place} {parts : List Text}
    (h : files.follow start parts = .ok goal) : goal = (parts.foldl Path.push start.reverse).reverse := by
  induction parts generalizing start with
  | nil =>
    cases h
    simp
  | cons part rest ih =>
    rw [follow] at h
    split at h
    · cases h
    · cases h
    · rw [List.foldl_cons, Path.push]
      by_cases hup : part = Path.up
      · rw [if_pos hup] at h ⊢
        rw [List.tail_reverse]
        exact ih h
      · rw [if_neg hup] at h ⊢
        by_cases hlong : nameLimit < size part
        · rw [if_pos hlong] at h
          cases h
        · rw [if_neg hlong] at h
          have hgoal := ih h
          rwa [List.reverse_append] at hgoal

/-- a path that leads somewhere leads to its target -/
theorem locate_eq_target {files : FileTree} {p : Path} {goal : Place} (h : files.locate p = .ok goal) :
    goal = files.target p := by
  rw [locate] at h
  by_cases hlong : pathLimit ≤ size p.shown
  · rw [if_pos hlong] at h
    cases h
  · rw [if_neg hlong] at h
    rw [follow_eq_target h, target, Path.settled]
    by_cases hhome : p.anchor = .home <;> simp [hhome]

namespace SameOff

variable {place : Option Place} {before after : FileTree}

theorem fileAt? (h : SameOff place before after) {other : Place} (hother : place ≠ some other) :
    after.fileAt? other = before.fileAt? other := fileAt?_congr (h.elsewhere other hother)

theorem read_eq_ok (h : SameOff place before after) {p : Path} (hp : place ≠ some (before.target p))
    {content : Bytes} (hread : before.read p = .ok content) : after.read p = .ok content := by
  obtain ⟨goal, hfind⟩ := FileTree.read_eq_ok_iff.1 hread
  obtain ⟨hnull, hway, hentry⟩ := find_eq_ok_iff.1 hfind
  have hgoal := locate_eq_target hway
  refine FileTree.read_eq_ok_iff.2 ⟨goal, find_eq_ok_iff.2 ⟨hnull, h.locate hway, ?_⟩⟩
  rw [h.elsewhere goal (hgoal ▸ hp), hentry]

/-- a file elsewhere is read as before -/
theorem read_eq_ok_iff (h : SameOff place before after) {p : Path} (hp : place ≠ some (before.target p))
    {content : Bytes} : after.read p = .ok content ↔ before.read p = .ok content := by
  have hp' : place ≠ some (after.target p) := by
    rw [target_congr h.home]
    exact hp
  exact ⟨h.symm.read_eq_ok hp', h.read_eq_ok hp⟩

end SameOff

theorem sameOff_appendAt (files : FileTree) (place : Place) (more : Bytes) :
    SameOff (some place) files (files.appendAt place more) := by
  rw [appendAt]
  split
  · rename_i content hfile
    exact sameOff_put (by simp [hfile]) _
  · exact .refl _ _

/-- how opening a log file ends: the file is there at the target of its path, or it is refused, or the path holds a
null character -/
theorem openLog_cases (files : FileTree) (p : Path) :
    (∃ opened, files.openLog p = .ok (opened, files.target p) ∧ SameOff (some (files.target p)) files opened) ∨
    (∃ reason, files.openLog p = .error (refused p reason)) ∨
    (p.hasNull = true ∧ files.openLog p = .error .nullCharacter) := by
  rcases openFile_cases files p with ⟨place, old, hopen, -, hway, hdir⟩ | ⟨-, reason, hopen⟩ | ⟨hnull, hopen⟩
  · left
    obtain rfl := locate_eq_target hway
    refine ⟨files.put (files.target p) (.file old), ?_, sameOff_put hdir old⟩
    rw [openLog, hopen]
    rfl
  · right; left
    refine ⟨reason, ?_⟩
    rw [openLog, hopen]
    rfl
  · right; right
    refine ⟨hnull, ?_⟩
    rw [openLog, hopen]
    rfl

/-! ## Directories that come -/

/-- all that lay somewhere still lies there, and what is new is a directory -/
structure Extended (before after : FileTree) : Prop where
  home : after.home = before.home
  remains : ∀ place entry, before.entryAt? place = some entry → after.entryAt? place = some entry
  added : ∀ place content, after.entryAt? place = some (.file content) → before.entryAt? place = some (.file content)

namespace Extended

variable {before after later : FileTree}

theorem refl (files : FileTree) : Extended files files := ⟨rfl, fun _ _ h => h, fun _ _ h => h⟩

theorem trans (h : Extended before after) (h' : Extended after later) : Extended before later :=
  ⟨h'.home.trans h.home, fun place entry hentry => h'.remains place entry (h.remains place entry hentry),
    fun place content hfile => h.added place content (h'.added place content hfile)⟩

/-- no file changes -/
theorem fileAt? (h : Extended before after) (place : Place) : after.fileAt? place = before.fileAt? place := by
  rw [FileTree.fileAt?, FileTree.fileAt?]
  cases hbefore : before.entryAt? place with
  | some entry => rw [h.remains place entry hbefore]
  | none =>
    cases hafter : after.entryAt? place with
    | none => rfl
    | some entry =>
      cases entry with
      | directory => rfl
      | file content => cases hbefore.symm.trans (h.added place content hafter)

end Extended

theorem extended_put {files : FileTree} {place : Place} (h : files.entryAt? place = none) :
    Extended files (files.put place .directory) := by
  have hroot : place ≠ [] := by
    rintro rfl
    cases h
  have hne : ∀ other entry, files.entryAt? other = some entry → other ≠ place := by
    rintro other entry hentry rfl
    cases h.symm.trans hentry
  refine ⟨rfl, fun other entry hentry => ?_, fun other content hfile => ?_⟩
  · rw [entryAt?_put_of_ne (hne other entry hentry), hentry]
  · by_cases hsame : other = place
    · rw [hsame, entryAt?_put_self hroot] at hfile
      cases hfile
    · rwa [entryAt?_put_of_ne hsame] at hfile

/-- how making a directory ends: it comes where nothing lay, or it is refused, or the path holds a null character -/
theorem makeDirectory_cases (files : FileTree) (p : Path) :
    (∃ made, files.makeDirectory p = .ok made ∧ Extended files made) ∨
    (∃ e, files.makeDirectory p = .error (.system e)) ∨
    (p.hasNull = true ∧ files.makeDirectory p = .error .nullCharacter) := by
  rw [makeDirectory, find]
  cases hnull : p.hasNull with
  | true =>
    right; right
    exact ⟨rfl, rfl⟩
  | false =>
    cases hway : files.locate p with
    | error reason =>
      right; left
      exact ⟨_, rfl⟩
    | ok place =>
      cases hentry : files.entryAt? place with
      | none =>
        left
        refine ⟨_, ?_, extended_put hentry⟩
        simp [hentry, bind, Except.bind]
      | some entry =>
        right; left
        refine ⟨⟨.fileExists, p.toString⟩, ?_⟩
        simp [hentry, refused, bind, Except.bind]

/-- the same of making a directory unless it is there -/
theorem ensureDirectory_cases (files : FileTree) (p : Path) :
    (∃ made, files.ensureDirectory p = .ok made ∧ Extended files made) ∨
    (∃ e, files.ensureDirectory p = .error (.system e)) ∨
    (p.hasNull = true ∧ files.ensureDirectory p = .error .nullCharacter) := by
  rw [ensureDirectory]
  rcases makeDirectory_cases files p with ⟨made, hmade, hextended⟩ | ⟨e, hmade⟩ | ⟨hnull, hmade⟩ <;> rw [hmade]
  · exact .inl ⟨made, rfl, hextended⟩
  · by_cases hthere : e.reason ≠ .noEntry ∧ files.isDirectory p
    · exact .inl ⟨files, if_pos hthere, .refl files⟩
    · exact .inr (.inl ⟨e, if_neg hthere⟩)
  · exact .inr (.inr ⟨hnull, rfl⟩)

/-- how the making of a directory and those above it ends, and what it leaves in any case -/
structure Ensured (files : FileTree) (p : Path) (made : FileTree) (result : Except Fault Unit) : Prop where
  extended : Extended files made
  ending : result = .ok () ∨ (∃ e, result = .error (.system e)) ∨ (p.hasNull = true ∧ result = .error .nullCharacter)

theorem Ensured.of_directory {files made : FileTree} {p : Path} (hextended : Extended files made) :
    match made.ensureDirectory p with
    | .ok done => Ensured files p done (.ok ())
    | .error f => Ensured files p made (.error f) := by
  rcases ensureDirectory_cases made p with ⟨done, hdone, hmore⟩ | ⟨e, hdone⟩ | ⟨hnull, hdone⟩ <;> rw [hdone]
  · exact ⟨hextended.trans hmore, .inl rfl⟩
  · exact ⟨hextended, .inr (.inl ⟨e, rfl⟩)⟩
  · exact ⟨hextended, .inr (.inr ⟨hnull, rfl⟩)⟩

theorem hasNull_of_above {anchor : Anchor} {part : Text} {above : List Text}
    (h : (⟨anchor, above.reverse⟩ : Path).hasNull = true) :
    (⟨anchor, (part :: above).reverse⟩ : Path).hasNull = true := by
  rw [Path.hasNull, List.reverse_cons, List.any_append]
  rw [Path.hasNull] at h
  rw [h, Bool.true_or]

theorem ensured_ensureFrom (files : FileTree) (anchor : Anchor) (pieces : List Text) :
    Ensured files ⟨anchor, pieces.reverse⟩ (files.ensureFrom anchor pieces).1
      (files.ensureFrom anchor pieces).2 := by
  induction pieces with
  | nil =>
    have hroot := Ensured.of_directory (p := ⟨anchor, []⟩) (Extended.refl files)
    rw [ensureFrom]
    cases hmade : files.ensureDirectory ⟨anchor, []⟩ <;> rw [hmade] at hroot <;> exact hroot
  | cons part above ih =>
    have hfirst := Ensured.of_directory (p := ⟨anchor, (part :: above).reverse⟩) (Extended.refl files)
    rw [ensureFrom]
    cases hmade : files.ensureDirectory ⟨anchor, (part :: above).reverse⟩ with
    | ok made =>
      rw [hmade] at hfirst
      exact hfirst
    | error f =>
      rw [hmade] at hfirst
      cases f with
      | system e =>
        by_cases hmissing : e.reason = .noEntry
        · simp only [hmissing, if_true]
          rcases hrest : files.ensureFrom anchor above with ⟨made, result⟩
          rw [hrest] at ih
          rcases ih with ⟨hextended, rfl | ⟨e', rfl⟩ | ⟨hnull, rfl⟩⟩
          · have hagain := Ensured.of_directory (p := ⟨anchor, (part :: above).reverse⟩) hextended
            simp only
            cases hdone : made.ensureDirectory ⟨anchor, (part :: above).reverse⟩ <;> rw [hdone] at hagain <;>
              exact hagain
          · exact ⟨hextended, .inr (.inl ⟨e', rfl⟩)⟩
          · exact ⟨hextended, .inr (.inr ⟨hasNull_of_above hnull, rfl⟩)⟩
        · simp only [hmissing, if_false]
          exact hfirst
      | _ => exact hfirst

/-- **Making directories changes no file**, however far it comes; and it ends well, or is refused by the system, or the
path holds a null character. -/
theorem ensured_ensureDirectories {files made : FileTree} {p : Path} {result : Except Fault Unit}
    (h : files.ensureDirectories p = (made, result)) : Ensured files p made result := by
  have hensured := ensured_ensureFrom files p.anchor p.parts.reverse
  rw [ensureDirectories] at h
  rwa [List.reverse_reverse, h] at hensured

/-! ## Files that stay -/

/-- no file has changed or come, but at places that are excepted -/
structure Kept (excepted : Place → Prop) (before after : FileTree) : Prop where
  home : after.home = before.home
  files : ∀ place, ¬ excepted place → after.fileAt? place = before.fileAt? place

variable {excepted : Place → Prop} {before after later : FileTree}

theorem Kept.trans (h : Kept excepted before after) (h' : Kept excepted after later) : Kept excepted before later :=
  ⟨h'.home.trans h.home, fun place hplace => (h'.files place hplace).trans (h.files place hplace)⟩

theorem Kept.mono {wider : Place → Prop} (h : Kept excepted before after)
    (hwider : ∀ place, excepted place → wider place) : Kept wider before after :=
  ⟨h.home, fun place hplace => h.files place fun hexcepted => hplace (hwider place hexcepted)⟩

end Unmark.FileTree
