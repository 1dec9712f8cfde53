import Unmark.Document.Build
import Unmark.Proofs.Storage.Acts
import Unmark.Render.Output
import Unmark.Render.Recipe
/-!
The routes by which a document leaves the renderer: as text, as bytes, into a stream, into a file. Each of them renders
to text first and does nothing else before (`renderTo_result`), so all of them fail where rendering to text fails, and
with the same fault, before a destination is looked at. A text that is there then goes out whole, or not at all.

`sendTo` is the same route step by step, and shows what has become of the files however it ends.

Results:
- the routes agree on what they give and on how they fail, a route that fails has done nothing, and no file changes but
  the one at the end of the path;
- a path with a null character is the one destination whose failure is not reported as an error of this library
  (`null_path_unreported`).
-/
namespace Unmark

namespace Destination

/-- a stream of bytes, or an object whose mode is a string with a `b` in it -/
inductive TakesBytes : Destination → Prop
  | stream : TakesBytes .byteStream
  | object {mode : String} (binary : 'b' ∈ mode.toList) : TakesBytes (.writable (some (.text mode)))

/-- a stream of text, or an object of any other mode or of none -/
inductive TakesText : Destination → Prop
  | stream : TakesText .textStream
  | object {mode : Option Value} (notBinary : ∀ m : String, mode = some (.text m) → 'b' ∉ m.toList) :
      TakesText (.writable mode)

theorem isBinary_eq_false {mode : Option Value} (h : ∀ m : String, mode = some (.text m) → 'b' ∉ m.toList) :
    isBinary mode = false := by
  unfold isBinary
  split
  · rename_i m
    simpa using h m rfl
  · rfl

variable {files : FileTree} {t : Text} {d : Destination}

theorem TakesBytes.deliver_eq (h : TakesBytes d) :
    d.deliver files t = .ok ⟨files, some (.bytes (Utf8.encode t))⟩ := by
  cases h with
  | stream => rfl
  | @object mode binary =>
    have hb : isBinary (some (.text mode)) = true := by simpa [isBinary] using binary
    rw [deliver, if_pos hb]

theorem TakesText.deliver_eq (h : TakesText d) : d.deliver files t = .ok ⟨files, some (.text t)⟩ := by
  cases h with
  | stream => rfl
  | object notBinary =>
    rw [deliver, isBinary_eq_false notBinary]
    rfl

end Destination

namespace Renderer

variable {r : Renderer} {nodes : List Node}

/-! ## Text first -/

theorem renderTo_result (r : Renderer) (files : FileTree) (nodes : List Node) (d : Destination) :
    (r.renderTo files nodes d).result = (r.renderToText nodes).result.bind fun t => d.deliver files t := by
  rw [renderTo, Logged.result_bind]
  rfl

theorem renderTo_of_ok {t : Text} (h : (r.renderToText nodes).result = .ok t) (files : FileTree) (d : Destination) :
    (r.renderTo files nodes d).result = d.deliver files t := by
  rw [renderTo_result, h]
  rfl

/-- a document that cannot be rendered ends like this on every route, whatever the files and the destination -/
theorem renderTo_of_error {f : Fault} (h : (r.renderToText nodes).result = .error f) (files : FileTree)
    (d : Destination) : (r.renderTo files nodes d).result = .error f := by
  rw [renderTo_result, h]
  rfl

theorem renderToBytes_result (r : Renderer) (nodes : List Node) :
    (r.renderToBytes nodes).result = (r.renderToText nodes).result.map Utf8.encode := by
  rw [renderToBytes, Logged.result_bind]
  cases (r.renderToText nodes).result <;> rfl

/-! ## Step by step -/

/-- renders a document and sends the text to a destination, step by step -/
def sendTo (r : Renderer) (nodes : List Node) (d : Destination) : Act Unit := do
  let t ← Act.ofExcept (r.renderToText nodes).result
  d.send t

theorem sendTo_of_ok {t : Text} (h : (r.renderToText nodes).result = .ok t) (d : Destination) (before : Delivery) :
    r.sendTo nodes d before = d.send t before :=
  Act.bind_ok h

theorem sendTo_of_error {f : Fault} (h : (r.renderToText nodes).result = .error f) (d : Destination)
    (before : Delivery) : r.sendTo nodes d before = ⟨.error f, before⟩ :=
  Act.bind_error h

/-- **The steps of a route.** What comes of rendering and sending step by step is what rendering to the destination
gives. -/
theorem sendTo_eq_renderTo (r : Renderer) (files : FileTree) (nodes : List Node) (d : Destination) :
    Act.summary (r.sendTo nodes d ⟨files, none⟩) = (r.renderTo files nodes d).result := by
  cases ht : (r.renderToText nodes).result with
  | ok t => rw [sendTo_of_ok ht, renderTo_of_ok ht, Destination.send_eq_deliver]
  | error f =>
    rw [sendTo_of_error ht, renderTo_of_error ht]
    rfl

end Renderer

/-! ## Main result -/

/-- **All routes agree, and failures write nothing.** Let a document render to a text `s`. Then it renders to the
encoding of `s`, a destination that takes bytes is given that encoding and any other stream `s` itself, and a path ends
up with a file of exactly these bytes, or the refusal is reported with that path; only a path with a null character
ends otherwise, in a fault of its own. If the document does not render to a text, every route ends with the same fault.

Step by step, a route that fails leaves everything as it was, and whatever happens, nothing changes at any place other
than the end of the path. -/
theorem routes_agree (r : Renderer) (nodes : List Node) :
    (∀ s, (r.renderToText nodes).result = .ok s →
      (r.renderToBytes nodes).result = .ok (Utf8.encode s) ∧
      ∀ files : FileTree,
        (∀ d : Destination, d.TakesBytes →
          (r.renderTo files nodes d).result = .ok ⟨files, some (.bytes (Utf8.encode s))⟩) ∧
        (∀ d : Destination, d.TakesText → (r.renderTo files nodes d).result = .ok ⟨files, some (.text s)⟩) ∧
        ∀ name, let p := Path.ofText name
          (p.hasNull = false →
            (∃ place written, (r.renderTo files nodes (.path name)).result = .ok ⟨written, none⟩ ∧
              files.locate p = .ok place ∧ written.entryAt? place = some (.file (Utf8.encode s)) ∧
                written.read p = .ok (Utf8.encode s)) ∨
            ∃ reason, (r.renderTo files nodes (.path name)).result =
              .error (.reported (.outputFailed p.toString none (some (.system reason))))) ∧
          (p.hasNull = true → (r.renderTo files nodes (.path name)).result = .error .nullCharacter)) ∧
    (∀ f, (r.renderToText nodes).result = .error f →
      (r.renderToBytes nodes).result = .error f ∧
      ∀ (files : FileTree) d, (r.renderTo files nodes d).result = .error f) ∧
    ∀ d : Destination,
      (∀ files, Act.summary (r.sendTo nodes d ⟨files, none⟩) = (r.renderTo files nodes d).result) ∧
      ∀ before : Delivery,
        (∀ f, (r.sendTo nodes d before).result = .error f → (r.sendTo nodes d before).outside = before) ∧
        ∀ place, (∀ name, d = .path name → before.files.locate (.ofText name) ≠ .ok place) →
          (r.sendTo nodes d before).outside.files.entryAt? place = before.files.entryAt? place := by
  refine ⟨fun s hs => ⟨?_, fun files => ⟨fun d hd => ?_, fun d hd => ?_, fun name => ?_⟩⟩, fun f hf => ⟨?_, ?_⟩,
    fun d => ⟨fun files => Renderer.sendTo_eq_renderTo r files nodes d, fun before => ?_⟩⟩
  · rw [Renderer.renderToBytes_result, hs]
    rfl
  · rw [Renderer.renderTo_of_ok hs, hd.deliver_eq]
  · rw [Renderer.renderTo_of_ok hs, hd.deliver_eq]
  · rw [Renderer.renderTo_of_ok hs]
    rcases Destination.deliver_path_cases files s name with
      ⟨place, written, hsent, hwrote⟩ | ⟨hnull, reason, hsent⟩ | ⟨hnull, hsent⟩
    · refine ⟨fun _ => .inl ⟨place, written, hsent, hwrote.leads, hwrote.entryAt?_self, hwrote.read_eq⟩, ?_⟩
      intro hnull
      cases hwrote.noNull.symm.trans hnull
    · exact ⟨fun _ => .inr ⟨reason, hsent⟩, fun hyes => by cases hnull.symm.trans hyes⟩
    · exact ⟨fun hno => (by cases hnull.symm.trans hno), fun _ => hsent⟩
  · rw [Renderer.renderToBytes_result, hf]
    rfl
  · intro files d
    exact Renderer.renderTo_of_error hf files d
  · cases ht : (r.renderToText nodes).result with
    | error f =>
      rw [Renderer.sendTo_of_error ht]
      exact ⟨fun _ _ => rfl, fun _ _ => rfl⟩
    | ok t =>
      rw [Renderer.sendTo_of_ok ht]
      refine ⟨fun f hf => ?_, fun place hplace => Destination.entryAt?_send t hplace⟩
      rw [Destination.send_of_error hf]

/-- a renderer whose headings are fixed text, and which refuses code -/
def strictRenderer : Renderer :=
  .ofOptions ⟨[(.heading, Handler.constant ['é', '\n']), (.codeBlock, Handler.failing "no code" "custom")]⟩

/-- a home directory with a file and a directory in it -/
def oldNotes : FileTree :=
  ⟨[['h']], [([['h']], .directory), ([['h'], ['n']], .file [0x6F, 0x6C, 0x64]), ([['h'], ['d']], .directory)]⟩

theorem routes_agree_strict :
    (strictRenderer.renderToText [.branch .heading []]).result = .ok ['é', '\n'] ∧
    (strictRenderer.renderToBytes [.branch .heading []]).result = .ok [0xC3, 0xA9, 0x0A] ∧
    (strictRenderer.renderTo oldNotes [.branch .heading []] (.writable (some (.text "w+b")))).result =
      .ok ⟨oldNotes, some (.bytes [0xC3, 0xA9, 0x0A])⟩ ∧
    (strictRenderer.renderTo oldNotes [.branch .heading []] (.writable none)).result =
      .ok ⟨oldNotes, some (.text ['é', '\n'])⟩ ∧
    (∃ written, (strictRenderer.renderTo oldNotes [.branch .heading []] (.path ['d', '/', '.', '.', '/', 'n'])).result =
      .ok ⟨written, none⟩ ∧ written.read (.ofText ['n']) = .ok [0xC3, 0xA9, 0x0A]) ∧
    (strictRenderer.sendTo [.branch .heading []] (.path ['d', '/', '.', '.', '/', 'n'])
      ⟨oldNotes, none⟩).outside.files.entryAt? [['h'], ['d']] = some .directory ∧
    (strictRenderer.renderTo oldNotes [.branch .heading [], .leaf .codeBlock ['c']] (.path ['n'])).result =
      .error (.reported (.rendering "no code" (some "custom") none)) ∧
    (strictRenderer.sendTo [.branch .heading []] (.path ['d']) ⟨oldNotes, none⟩).outside = ⟨oldNotes, none⟩ := by
  have hs : (strictRenderer.renderToText [.branch .heading []]).result = .ok ['é', '\n'] := rfl
  have hf : (strictRenderer.renderToText [.branch .heading [], .leaf .codeBlock ['c']]).result =
      .error (.reported (.rendering "no code" (some "custom") none)) := rfl
  obtain ⟨hbytes, hroutes⟩ := (routes_agree strictRenderer [.branch .heading []]).1 _ hs
  obtain ⟨htakesBytes, htakesText, hpath⟩ := hroutes oldNotes
  refine ⟨hs, hbytes, htakesBytes _ (.object (by decide)), htakesText _ (.object (by simp)), ?_, ?_, ?_, ?_⟩
  · rcases (hpath ['d', '/', '.', '.', '/', 'n']).1 rfl with ⟨place, written, hsent, -, -, -⟩ | ⟨reason, hsent⟩
    · refine ⟨written, hsent, ?_⟩
      cases hsent
      rfl
    · cases hsent
  · have hsteps := (routes_agree strictRenderer [.branch .heading []]).2.2 (.path ['d', '/', '.', '.', '/', 'n'])
    refine (hsteps.2 ⟨oldNotes, none⟩).2 [['h'], ['d']] fun name hname => ?_
    cases hname
    exact fun hway => by cases hway
  · exact ((routes_agree strictRenderer _).2.1 _ hf).2 oldNotes _
  · -- the text is there, but a directory stands where it would go
    have hsteps := (routes_agree strictRenderer [.branch .heading []]).2.2 (.path ['d'])
    exact (hsteps.2 ⟨oldNotes, none⟩).1 (.reported (.outputFailed "d" none (some (.system .isDirectory)))) rfl

/-- **A path with a null character goes unreported.** The document renders, and no file is written, yet the fault is
none of the errors of this library. -/
theorem null_path_unreported :
    (Renderer.plain.renderToText [Build.paragraph [.text ['x']]]).result = .ok ['x', '\n', '\n'] ∧
    (Path.ofText ['a', '\x00', 'b']).hasNull = true ∧
    (Renderer.plain.renderTo oldNotes [Build.paragraph [.text ['x']]] (.path ['a', '\x00', 'b'])).result =
      .error .nullCharacter ∧
    ¬ ((∃ d, (Renderer.plain.renderTo oldNotes [Build.paragraph [.text ['x']]] (.path ['a', '\x00', 'b'])).result =
        .ok d) ∨
      ∃ path wording cause, (Renderer.plain.renderTo oldNotes [Build.paragraph [.text ['x']]]
        (.path ['a', '\x00', 'b'])).result = .error (.reported (.outputFailed path wording cause))) := by
  have hfault : (Renderer.plain.renderTo oldNotes [Build.paragraph [.text ['x']]] (.path ['a', '\x00', 'b'])).result =
      .error .nullCharacter := rfl
  refine ⟨rfl, rfl, hfault, ?_⟩
  rw [hfault]
  rintro (⟨d, hd⟩ | ⟨path, wording, cause, hreported⟩)
  · cases hd
  · cases hreported

end Unmark
