import Unmark.CommandLine.Run
import Unmark.Proofs.Storage.Changes
/-!
The stages of a run. First the log is opened, then the input is read and converted, and last the text is written to a
file or printed. For each stage one lemma lists the ways in which it ends, with the console that it leaves
(`openLog_cases`, `convert_cases`, `writeOut_cases`, `printOut_cases`); what holds of whole runs is read off these.

Between the stages events are noted. That appends to the list of events and to the file of the log, and touches neither
the output nor any other file (`noted_noteAll`).
-/
namespace Unmark

/-! ## Noting events -/

/-- the plugins and the text that the tokenizer is handed, if the event tells of it -/
def Event.handed? : Event → Option (List String × Text)
  | .tokenizing plugins content => some (plugins, content)
  | _ => none

/-- what the tokenizer is handed in the course of some events -/
def handed (events : List Event) : List (List String × Text) := events.filterMap Event.handed?

namespace Console

/-- `noted` has been noted: the output is as before, and so are all files but the one at the place of the log -/
structure Noted (place : Option Place) (noted : List Event) (before after : Console) : Prop where
  output : after.output = before.output
  events : after.events = before.events ++ noted
  files : before.files.SameOff place after.files

theorem Noted.trans {place : Option Place} {first second : List Event} {before after later : Console}
    (h : Noted place first before after) (h' : Noted place second after later) :
    Noted place (first ++ second) before later where
  output := h'.output.trans h.output
  events := by rw [h'.events, h.events, List.append_assoc]
  files := h.files.trans h'.files

theorem Noted.mono {place wider : Option Place} {noted : List Event} {before after : Console}
    (h : Noted place noted before after) (hwider : ∀ other, place = some other → wider = some other) :
    Noted wider noted before after :=
  ⟨h.output, h.events, h.files.mono hwider⟩

theorem sameOff_withLine (files : FileTree) (file : Option Place) (line : Text) :
    files.SameOff file (withLine files file line) := by
  cases file with
  | none => exact .refl none files
  | some place => exact FileTree.sameOff_appendAt files place _

theorem noted_note (c : Console) (log : Log) (e : Event) : Noted log.file [e] c (c.note log e) := by
  unfold note
  split
  · exact ⟨rfl, rfl, sameOff_withLine c.files log.file _⟩
  · exact ⟨rfl, rfl, .refl log.file c.files⟩

theorem noted_noteAll (c : Console) (log : Log) (events : List Event) :
    Noted log.file events c (c.noteAll log events) := by
  unfold noteAll
  induction events generalizing c with
  | nil => exact ⟨rfl, (List.append_nil c.events).symm, .refl log.file c.files⟩
  | cons e rest ih => exact (noted_note c log e).trans (ih (c.note log e))

/-! ## Stopping -/

end Console

/-! ## Opening the log -/

/-- the place of the log file that is asked for, if one is -/
def Request.logTarget? (r : Request) (files : FileTree) : Option Place :=
  r.logFile.map fun file => files.target (Path.settled files.home (.ofText file))

namespace Command

open Console

/-- the log is open: it writes to the place that was asked for, or to no file, and so far the tokenizer was handed
nothing -/
structure Opened (r : Request) (c : Console) (log : Log) (opened : Console) : Prop where
  place : ∀ place, log.file = some place → r.logTarget? c.files = some place
  noted : ∃ events, handed events = [] ∧ Noted (r.logTarget? c.files) events c opened

/-- **How opening the log ends.** The level has no name, or the path of the log file holds a null character, or the log
is open; a log file that is refused does not keep it from that. -/
theorem openLog_cases (clock : Clock) (r : Request) (c : Console) :
    (∃ f, threshold r = .error f ∧ openLog clock r c = .error f) ∨
    (∃ file, r.logFile = some file ∧ (Path.settled c.files.home (.ofText file)).hasNull = true ∧
      openLog clock r c = .error .nullCharacter) ∨
    ∃ log opened, openLog clock r c = .ok (log, opened) ∧ Opened r c log opened := by
  rw [openLog]
  cases hlevel : threshold r with
  | error f => exact .inl ⟨f, rfl, rfl⟩
  | ok rank =>
    right
    cases hfile : r.logFile with
    | none =>
      right
      refine ⟨_, c, rfl, fun place hplace => (by cases hplace), [], rfl, rfl, ?_, .refl _ c.files⟩
      exact (List.append_nil c.events).symm
    | some file =>
      have htarget : r.logTarget? c.files = some (c.files.target (Path.settled c.files.home (.ofText file))) := by
        rw [Request.logTarget?, hfile]
        rfl
      rcases c.files.openLog_cases (Path.settled c.files.home (.ofText file)) with
        ⟨opened, hopen, hsame⟩ | ⟨reason, hopen⟩ | ⟨hnull, hopen⟩
      · right
        simp only [hopen]
        refine ⟨_, _, rfl, fun place hplace => ?_, [.loggingTo (String.ofList file)], rfl, ?_⟩
        · cases hplace
          exact htarget
        · rw [htarget]
          have hnoted := noted_note { c with files := opened }
            ⟨rank, r.trace, clock, some (c.files.target (Path.settled c.files.home (.ofText file)))⟩
            (.loggingTo (String.ofList file))
          exact ⟨hnoted.output, hnoted.events, hsame.trans hnoted.files⟩
      · right
        simp only [hopen, FileTree.refused]
        have hnoted := noted_note c ⟨rank, r.trace, clock, none⟩
          (.logFileRefused (String.ofList file) ⟨reason, (Path.settled c.files.home (.ofText file)).toString⟩)
        refine ⟨_, _, rfl, fun place hplace => (by cases hplace), [_], ?_, hnoted.mono fun other hother => ?_⟩
        · rfl
        · cases hother
      · left
        simp only [hopen]
        exact ⟨file, rfl, hnull, trivial⟩

/-! ## Reading the input -/

/-- how reading the input ends: with its bytes, or it is refused, or its path holds a null character -/
theorem readInput_cases (files : FileTree) (stdin : Bytes) (input : Text) :
    (∃ content, readInput files stdin input = .ok content) ∨
    (∃ e, readInput files stdin input = .error (.system e)) ∨
    (input ≠ hyphen ∧ (Path.ofText input).hasNull = true ∧ readInput files stdin input = .error .nullCharacter) := by
  rw [readInput]
  by_cases hhyphen : input = hyphen
  · rw [if_pos hhyphen]
    exact .inl ⟨stdin, rfl⟩
  · rw [if_neg hhyphen]
    rcases files.read_cases (.ofText input) with hread | ⟨reason, hread⟩ | ⟨hnull, hread⟩
    · exact .inl hread
    · exact .inr (.inl ⟨_, hread⟩)
    · exact .inr (.inr ⟨hhyphen, hnull, hread⟩)

/-! ## Converting -/

/-- the least version of the tokenizer will do, as the program goes by versions -/
theorem check_leastVersion :
    Requirement.check Tokenizer.feature Tokenizer.requirement ⟨true, some "3.0.0"⟩ = .ok () := by
  have hversion : Version.ofText? "3.0.0".toList = some ⟨0, [3, 0, 0], false, none⟩ := by decide
  have hclauses : Clause.specification? Tokenizer.requirement.versions.toList = some [.atLeast [3, 0, 0]] := by decide
  have hadmits : (Clause.atLeast [3, 0, 0]).admits ⟨0, [3, 0, 0], false, none⟩ = true := by
    simp [Clause.admits, Version.compareTo, Version.compareReleases]
  have hwithin : Versioning.within? "3.0.0".toList Tokenizer.requirement.versions.toList = some true := by
    show Version.within? _ _ = some true
    simp only [Version.within?, hversion, hclauses, Option.map_some, List.all_cons, hadmits]
    rfl
  have hsatisfies : satisfies "3.0.0".toList Tokenizer.requirement.versions.toList = true := by
    rw [satisfies, hwithin]
    exact Bool.or_true _
  have hasked : Tokenizer.requirement.versions.isEmpty = false := by decide
  simp only [Requirement.check, hasked, hsatisfies]
  rfl

/-- **How a run goes on from an open log.** The input cannot be read, or what is read does not parse, or its nodes are
written to a file, or printed. -/
theorem convert_cases [Versioning] (tokenizer : Tokenizer) (log : Log) (stdin : Bytes) (r : Request) (c : Console) :
    (∃ e, readInput c.files stdin r.input = .error (.system e) ∧ ∃ line,
      convert tokenizer log stdin r c = (c.complain line).exit 1) ∨
    (r.input ≠ hyphen ∧ (Path.ofText r.input).hasNull = true ∧
      convert tokenizer log stdin r c = ⟨c, .escaped .nullCharacter⟩) ∨
    ∃ content, readInput c.files stdin r.input = .ok content ∧ ∃ noted,
      Noted log.file (Markdown.parse tokenizer r.parsing c.files (.bytes content)).events c noted ∧
      ((∃ f, (Markdown.parse tokenizer r.parsing c.files (.bytes content)).result = .error f ∧
        convert tokenizer log stdin r c = noted.stop f) ∨
      ∃ nodes, (Markdown.parse tokenizer r.parsing c.files (.bytes content)).result = .ok nodes ∧
        ((r.out = none ∧ convert tokenizer log stdin r c = printOut log noted nodes) ∨
        ∃ out, r.out = some out ∧ convert tokenizer log stdin r c = writeOut log noted nodes r.input out)) := by
  rw [convert]
  rcases readInput_cases c.files stdin r.input with ⟨content, hread⟩ | ⟨e, hread⟩ | ⟨hhyphen, hnull, hread⟩ <;>
    simp only [hread]
  · right; right
    refine ⟨content, rfl, _, noted_noteAll c log _, ?_⟩
    cases hparsed : (Markdown.parse tokenizer r.parsing c.files (.bytes content)).result with
    | error f => exact .inl ⟨f, rfl, rfl⟩
    | ok nodes =>
      right
      refine ⟨nodes, rfl, ?_⟩
      cases hout : r.out with
      | none => exact .inl ⟨rfl, rfl⟩
      | some out => exact .inr ⟨out, rfl, rfl⟩
  · exact .inl ⟨e, rfl, _, rfl⟩
  · exact .inr (.inl ⟨hhyphen, hnull, trivial⟩)

/-! ## Writing and printing -/

/-- **How printing ends.** The document does not render, or its text goes to the output. -/
theorem printOut_cases (log : Log) (c : Console) (nodes : List Node) :
    ∃ noted, Noted log.file (Renderer.plain.renderToText nodes).events c noted ∧
      ((∃ f, (Renderer.plain.renderToText nodes).result = .error f ∧ printOut log c nodes = noted.stop f) ∨
      ∃ t, (Renderer.plain.renderToText nodes).result = .ok t ∧ printOut log c nodes = (noted.print t).exit 0) := by
  rw [printOut]
  refine ⟨_, noted_noteAll c log _, ?_⟩
  cases (Renderer.plain.renderToText nodes).result with
  | error f => exact .inl ⟨f, rfl, rfl⟩
  | ok t => exact .inr ⟨t, rfl, rfl⟩

/-- **How writing to a file ends.** Its directory cannot be made, or the document does not render, or the file is
refused, or its path holds a null character, or it is written. -/
theorem writeOut_cases (log : Log) (c : Console) (nodes : List Node) (input out : Text) :
    ∃ made result, c.files.ensureDirectories (Path.ofText out).parent = (made, result) ∧
      ((∃ f, result = .error f ∧ writeOut log c nodes input out = ⟨{ c with files := made }, .escaped f⟩) ∨
      result = .ok () ∧ ∃ noted,
        Noted log.file (Renderer.plain.renderToText nodes).events { c with files := made } noted ∧
        ((∃ f, (Renderer.plain.renderToText nodes).result = .error f ∧
          writeOut log c nodes input out = noted.stop f) ∨
        ∃ t, (Renderer.plain.renderToText nodes).result = .ok t ∧
          ((∃ reason e, noted.files.write (.ofText out) (Utf8.encode t) =
              .error (FileTree.refused (.ofText out) reason) ∧
            writeOut log c nodes input out = noted.stop (.reported e)) ∨
          ((Path.ofText out).hasNull = true ∧
            writeOut log c nodes input out = ⟨noted, .escaped .nullCharacter⟩) ∨
          ∃ place written final, FileTree.Wrote noted.files (.ofText out) (Utf8.encode t) place written ∧
            Noted log.file [.converted (String.ofList input) (Path.ofText out).toString]
              { noted with files := written } final ∧
            writeOut log c nodes input out = final.exit 0))) := by
  rw [writeOut]
  rcases hmade : c.files.ensureDirectories (Path.ofText out).parent with ⟨made, result⟩
  refine ⟨made, result, rfl, ?_⟩
  cases result with
  | error f => exact .inl ⟨f, rfl, rfl⟩
  | ok _ =>
    right
    refine ⟨rfl, _, noted_noteAll { c with files := made } log _, ?_⟩
    simp only
    cases (Renderer.plain.renderToText nodes).result with
    | error f => exact .inl ⟨f, rfl, rfl⟩
    | ok t =>
      right
      refine ⟨t, rfl, ?_⟩
      simp only
      rcases Destination.writeFile_cases (Console.noteAll { c with files := made } log
          (Renderer.plain.renderToText nodes).events).files (.ofText out) t with
        ⟨place, written, hfile, hwrote⟩ | ⟨-, reason, hrefused, hfile⟩ | ⟨hnull, hfile⟩ <;> simp only [hfile]
      · exact .inr (.inr ⟨place, written, _, hwrote, noted_note _ log _, rfl⟩)
      · exact .inl ⟨reason, _, hrefused, rfl⟩
      · exact .inr (.inl ⟨hnull, rfl⟩)

end Command

end Unmark
