import Unmark.Proofs.CommandLine.Stages
import Unmark.Proofs.Markdown.Conversion
/-!
How runs of the command end. What the tokenizer answers decides little: if its answer is a list of well-typed tokens,
these convert and render, and if it is no list, the library reports an error; so does a tokenizer that is not there, or
not in a version that will do. What is left are the arguments, the level of the log and the files.

Three things slip through. A level for the log that has no name is found out while the log is opened, where nothing
catches it; a path with a null character is refused by no operating system, so that the handling of refusals passes it
by; and a refusal to make the directory of the output is caught nowhere, although one to read the input or to write the
output is. All other runs end with an exit status (`run_ends`).
-/
namespace Unmark

/-! ## Converting -/

theorem Token.renders_of_wellTyped {tokens : List Token} (h : Token.wellTypedAll tokens = true) :
    ∃ nodes, (Token.toNodes tokens).result = .ok nodes ∧ ∃ t, (Renderer.plain.renderToText nodes).result = .ok t := by
  obtain ⟨nodes, hnodes, hflow⟩ := Token.gives_toNodes fun t ht => Token.converts (Token.wellTypedAll_iff.1 h t ht)
  refine ⟨nodes, hnodes, ?_⟩
  rw [Renderer.renderToText_result]
  exact Renderer.renders_of_wellFormed (fun n hn => ⟨.flow, hflow n hn⟩) false []

/-- whatever the tokenizer answers, if it is a list, it is one of well-typed tokens -/
def Tokenizer.WellTyped (tokenizer : Tokenizer) : Prop :=
  ∀ plugins t tokens, tokenizer.answer plugins t = .list tokens → Token.wellTypedAll (Token.ofValues tokens) = true

theorem Tokenizer.nodesOf_cases {v : Value} (h : ∀ tokens, v = .list tokens →
    Token.wellTypedAll (Token.ofValues tokens) = true) :
    (∃ e, (nodesOf v).result = .error (.reported e)) ∨
    ∃ nodes, (nodesOf v).result = .ok nodes ∧ ∃ t, (Renderer.plain.renderToText nodes).result = .ok t := by
  cases v with
  | list tokens => exact .inr (Token.renders_of_wellTyped (h tokens rfl))
  | _ => exact .inl ⟨_, rfl⟩

/-- bytes convert and render, or the library reports an error -/
theorem Markdown.parse_bytes_cases [Versioning] {tokenizer : Tokenizer} (h : tokenizer.WellTyped) (o : ParserOptions)
    (files : FileTree) (content : Bytes) :
    (∃ e, (parse tokenizer o files (.bytes content)).result = .error (.reported e)) ∨
    ∃ nodes, (parse tokenizer o files (.bytes content)).result = .ok nodes ∧
      ∃ t, (Renderer.plain.renderToText nodes).result = .ok t := by
  rw [parse]
  cases Requirement.check Tokenizer.feature Tokenizer.requirement tokenizer.installation with
  | error e => exact .inl ⟨e, rfl⟩
  | ok _ =>
    simp only [Source.read, Logged.ofExcept, Logged.result_bind, Logged.result_note, Except.bind]
    rcases Tokenizer.nodesOf_cases (h o.plugins (Utf8.decodeUnmarked content)) with ⟨e, he⟩ | ⟨nodes, hnodes, htext⟩
    · rw [he]
      exact .inl ⟨e, rfl⟩
    · rw [hnodes]
      exact .inr ⟨nodes, rfl, htext⟩

namespace Command

open Console FileTree

/-! ## Slips -/

/-- why a fault escapes from a run: the level has no name, or a path holds a null character, or, with the log open, the
directory of the output is refused -/
inductive Slip (r : Request) (files : FileTree) : Fault → Prop
  | noLevel (level : r.level = none) : Slip r files .wrongType
  | unknownLevel {name : Text} (level : r.level = some name) (unknown : Log.rank? name = none) :
      Slip r files (.logLevel (String.ofList name))
  | nullPath {p : Path} (followed : p ∈ paths files.home r) (null : p.hasNull = true) : Slip r files .nullCharacter
  | directory {out : Text} {logged : FileTree} {e : SystemError} (asked : r.out = some out)
      (same : files.SameOff (r.logTarget? files) logged)
      (refused : (logged.ensureDirectories (Path.ofText out).parent).2 = .error (.system e)) :
      Slip r files (.system e)

theorem slip_of_threshold {r : Request} {files : FileTree} {f : Fault} (h : threshold r = .error f) :
    Slip r files f := by
  rw [threshold] at h
  cases hlevel : r.level with
  | none =>
    rw [hlevel] at h
    cases h
    exact .noLevel hlevel
  | some name =>
    cases hrank : Log.rank? name with
    | none =>
      simp only [hlevel, hrank] at h
      cases h
      exact .unknownLevel hlevel hrank
    | some rank =>
      simp only [hlevel, hrank] at h
      cases h

/-- the run ends with status 0 or 1, or a fault escapes for one of the reasons -/
def Ends (r : Request) (files : FileTree) (ending : Ending) : Prop :=
  ending = .exit 0 ∨ ending = .exit 1 ∨ ∃ f, ending = .escaped f ∧ Slip r files f

section Stages

variable {log : Log} {c : Console} {r : Request} {files : FileTree} {nodes : List Node} {t out : Text}

theorem ends_printOut (ht : (Renderer.plain.renderToText nodes).result = .ok t) :
    Ends r files (printOut log c nodes).ending := by
  obtain ⟨noted, -, ⟨f, hf, -⟩ | ⟨_, -, hprint⟩⟩ := printOut_cases log c nodes
  · cases ht.symm.trans hf
  · rw [hprint]
    exact .inl rfl

theorem mem_paths_out (h : r.out = some out) : Path.ofText out ∈ paths files.home r := by
  simp [paths, h]

/-- the directory that a path lies in has no null character but those of the path -/
theorem hasNull_of_parent {p : Path} (h : p.parent.hasNull = true) : p.hasNull = true := by
  rw [Path.hasNull, List.any_eq_true] at h ⊢
  obtain ⟨part, hpart, hnull⟩ := h
  exact ⟨part, List.dropLast_subset _ hpart, hnull⟩

theorem ends_writeOut (hsame : files.SameOff (r.logTarget? files) c.files) (hasked : r.out = some out)
    (ht : (Renderer.plain.renderToText nodes).result = .ok t) :
    Ends r files (writeOut log c nodes r.input out).ending := by
  obtain ⟨made, result, hmaking, hcases⟩ := writeOut_cases log c nodes r.input out
  rcases hcases with ⟨f, rfl, hwrite⟩ | ⟨rfl, noted, hnoted, ⟨f, hf, -⟩ | ⟨t, -, hcases⟩⟩
  · rw [hwrite]
    refine .inr (.inr ⟨f, rfl, ?_⟩)
    rcases (ensured_ensureDirectories hmaking).ending with hok | ⟨e, he⟩ | ⟨hnull, he⟩
    · cases hok
    · cases he
      exact .directory hasked hsame (congrArg Prod.snd hmaking)
    · cases he
      exact .nullPath (mem_paths_out hasked) (hasNull_of_parent hnull)
  · cases ht.symm.trans hf
  · rcases hcases with ⟨reason, e, -, hwrite⟩ | ⟨hnull, hwrite⟩ | ⟨place, written, final, -, -, hwrite⟩ <;> rw [hwrite]
    · exact .inr (.inl rfl)
    · exact .inr (.inr ⟨_, rfl, .nullPath (mem_paths_out hasked) hnull⟩)
    · exact .inl rfl

/-- from the open log on -/
theorem ends_convert [Versioning] {tokenizer : Tokenizer} (htyped : tokenizer.WellTyped) {stdin : Bytes}
    {opened : Console} (hopened : Opened r { files := files } log opened) :
    Ends r files (convert tokenizer log stdin r opened).ending := by
  obtain ⟨first, -, hlog⟩ := hopened.noted
  rcases convert_cases tokenizer log stdin r opened with
    ⟨e, -, line, hend⟩ | ⟨hhyphen, hnull, hend⟩ | ⟨content, -, noted, hnoted, hrest⟩
  · rw [hend]
    exact .inr (.inl rfl)
  · rw [hend]
    exact .inr (.inr ⟨_, rfl, .nullPath (by simp [paths, hhyphen]) hnull⟩)
  have hsame := hlog.files.trans (hnoted.mono hopened.place).files
  rcases hrest with ⟨f, hf, hend⟩ | ⟨nodes, hnodes, hrest⟩
  · rw [hend]
    rcases Markdown.parse_bytes_cases htyped r.parsing opened.files content with ⟨e, he⟩ | ⟨nodes, hnodes, -⟩
    · cases hf.symm.trans he
      exact .inr (.inl rfl)
    · cases hf.symm.trans hnodes
  · obtain ⟨t, ht⟩ : ∃ t, (Renderer.plain.renderToText nodes).result = .ok t := by
      rcases Markdown.parse_bytes_cases htyped r.parsing opened.files content with ⟨e, he⟩ | ⟨nodes', hnodes', ht⟩
      · cases hnodes.symm.trans he
      · cases hnodes.symm.trans hnodes'
        exact ht
    rcases hrest with ⟨-, hend⟩ | ⟨out, hasked, hend⟩ <;> rw [hend]
    · exact ends_printOut ht
    · exact ends_writeOut hsame hasked ht

end Stages

/-! ## Main result -/

/-- **How runs end.** Help and version end with status 0, misuse with status 2. A request ends with status 0 or 1, or a
fault escapes because the level of the log has no name, because a path holds a null character, or because the directory
of the output is refused. A level without a name always escapes, whatever else the request asks for. -/
theorem run_ends [Versioning] (tokenizer : Tokenizer) (htyped : tokenizer.WellTyped) (clock : Clock)
    (defaults : Defaults) (arguments : List Text) (stdin : Bytes) (files : FileTree) :
    let ending := (run tokenizer clock defaults arguments stdin files).ending
    match Request.ofArguments defaults arguments with
    | .error .help | .error .version => ending = .exit 0
    | .error (.misuse _) => ending = .exit 2
    | .ok r => Ends r files ending ∧ ∀ f, threshold r = .error f → ending = .escaped f := by
  intro ending
  cases h : Request.ofArguments defaults arguments with
  | error d =>
    have hending : ending = (detour defaults { files := files } d).ending := by
      simp only [ending, run, h]
    rw [hending]
    cases d <;> rfl
  | ok r =>
    refine ⟨?_, fun f hlevel => by simp only [ending, run, h, openLog, hlevel]⟩
    rcases openLog_cases clock r { files := files } with
      ⟨f, hlevel, hopen⟩ | ⟨file, hfile, hnull, hopen⟩ | ⟨log, opened, hopen, hopened⟩
    · have hending : ending = .escaped f := by
        simp only [ending, run, h, hopen]
      exact .inr (.inr ⟨f, hending, slip_of_threshold hlevel⟩)
    · have hending : ending = .escaped .nullCharacter := by
        simp only [ending, run, h, hopen]
      have hfollowed : Path.settled files.home (.ofText file) ∈ paths files.home r := by
        simp [paths, hfile]
      exact .inr (.inr ⟨_, hending, .nullPath hfollowed hnull⟩)
    · have hending : ending = (convert tokenizer log stdin r opened).ending := by
        simp only [ending, run, h, hopen]
      rw [hending]
      exact ends_convert htyped hopened

/-- a tokenizer that finds a paragraph with one word in any text -/
def wordy : Tokenizer := .answering (.list [.object [("type", .text "paragraph"),
  ("children", .list [.object [("type", .text "text"), ("raw", .text "x")]])]])

theorem wordy_wellTyped : wordy.WellTyped := by
  rintro plugins t tokens ⟨⟩
  decide

/-- what the level of the environment comes to, if no argument names one -/
theorem run_ends_by_level :
    wordy.WellTyped ∧
    (run wordy ⟨[], "0.0"⟩ ⟨some "verbose".toList, none⟩ [] [] ⟨[], []⟩).ending = .escaped (.logLevel "VERBOSE") ∧
    ((run wordy ⟨[], "0.0"⟩ ⟨some "debug".toList, none⟩ [] [0xFF] ⟨[], []⟩).ending = .exit 0 ∨
      (run wordy ⟨[], "0.0"⟩ ⟨some "debug".toList, none⟩ [] [0xFF] ⟨[], []⟩).ending = .exit 1) := by
  refine ⟨wordy_wellTyped, ?_, ?_⟩
  · have hrequest : Request.ofArguments ⟨some "verbose".toList, none⟩ [] =
        .ok ⟨['-'], none, {}, some "VERBOSE".toList, none, false⟩ := by
      rfl
    have hends := run_ends wordy wordy_wellTyped ⟨[], "0.0"⟩ ⟨some "verbose".toList, none⟩ [] [] ⟨[], []⟩
    simp only [hrequest] at hends
    exact hends.2 (.logLevel "VERBOSE") rfl
  · have hrequest : Request.ofArguments ⟨some "debug".toList, none⟩ [] =
        .ok ⟨['-'], none, {}, some "DEBUG".toList, none, false⟩ := by
      rfl
    have hends := run_ends wordy wordy_wellTyped ⟨[], "0.0"⟩ ⟨some "debug".toList, none⟩ [] [0xFF] ⟨[], []⟩
    simp only [hrequest] at hends
    rcases hends.1 with hzero | hone | ⟨f, -, hslip⟩
    · exact .inl hzero
    · exact .inr hone
    · -- the level has a name, and the request follows no path
      cases hslip with
      | noLevel hlevel => cases hlevel
      | unknownLevel hlevel hunknown =>
        cases hlevel
        cases hunknown
      | nullPath hfollowed _ => cases hfollowed
      | directory hasked _ _ => cases hasked

/-- **A refused directory escapes.** The input is there, its tokens are well-typed, and a file lies where the directory
of the output would be made: the run ends with no exit status. -/
theorem refused_directory_escapes :
    let files : FileTree := ⟨[], [([['d']], .file [0x44]), ([['f']], .file [0x6F])]⟩
    let ending := (run wordy ⟨[], "0.0"⟩ ⟨none, none⟩ [['d'], "--out".toList, "f/x".toList] [] files).ending
    wordy.WellTyped ∧ ending = .escaped (.system ⟨.fileExists, "f"⟩) ∧ ¬ ∃ status, ending = .exit status := by
  intro files ending
  have hrequest : Request.ofArguments ⟨none, none⟩ [['d'], "--out".toList, "f/x".toList] =
      .ok ⟨['d'], some "f/x".toList, {}, some "WARNING".toList, none, false⟩ := by
    rfl
  have hescaped : ending = .escaped (.system ⟨.fileExists, "f"⟩) := by
    simp only [ending, run, hrequest, convert, Markdown.parse, wordy, Tokenizer.answering, check_leastVersion]
    rfl
  refine ⟨wordy_wellTyped, hescaped, ?_⟩
  rintro ⟨status, hexit⟩
  cases hescaped.symm.trans hexit

end Command

end Unmark
