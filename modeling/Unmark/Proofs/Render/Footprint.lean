import Unmark.Render.Treatment
import Unmark.Render.Context
/-!
Properties of computations over the context, and what a script uses of it.

`Compositional` and `Scoped` list what a property of computations has to be closed under; then it holds of every
rendering of a sequence (`Compositional.inOrder`) and of every script (`Scoped.perform`) once it holds of the nodes
that are rendered. So each property of renderings is one list of small facts, and the inductions are done here.

A `Footprint` bounds which nodes a script renders, whether it touches the labels of the table around it, and whether
it asks for the depth. A table that it opens is its own affair. Two renderings that agree on the footprint cannot be
told apart (`perform_congr`).
-/
namespace Unmark

namespace Render

variable {α β : Type}

/-! ## Sequencing -/

theorem bind_ok {x : Render α} {f : α → Render β} {labels : LabelStack} {a : α} (h : (x labels).result = .ok a) :
    (x >>= f) labels =
      let second := f a (x labels).labels
      ⟨second.result, second.labels, (x labels).events ++ second.events⟩ := by
  show Render.bind x f labels = _
  simp only [Render.bind, h]

theorem bind_error {x : Render α} {f : α → Render β} {labels : LabelStack} {e : Fault}
    (h : (x labels).result = .error e) : (x >>= f) labels = ⟨.error e, (x labels).labels, (x labels).events⟩ := by
  show Render.bind x f labels = _
  simp only [Render.bind, h]

theorem bind_eq_ok_iff {x : Render α} {f : α → Render β} {labels : LabelStack} {b : β} :
    ((x >>= f) labels).result = .ok b ↔
      ∃ a, (x labels).result = .ok a ∧ (f a (x labels).labels).result = .ok b := by
  cases h : (x labels).result with
  | ok a => simp [bind_ok h]
  | error e => simp [bind_error h]

theorem bind_congr {x y : Render α} {f : α → Render β} {labels : LabelStack} (h : x labels = y labels) :
    (x >>= f) labels = (y >>= f) labels := by
  show Render.bind x f labels = Render.bind y f labels
  simp only [Render.bind, h]

theorem bind_pure (x : Render α) : x >>= Pure.pure = x := by
  funext labels
  cases h : (x labels).result with
  | ok a =>
    rw [bind_ok h]
    show Outcome.mk (.ok a) (x labels).labels ((x labels).events ++ []) = x labels
    rw [List.append_nil, ← h]
  | error e => rw [bind_error h, ← h]

theorem bind_pure_bind {γ : Type} (x : Render α) (f : α → β) (g : β → Render γ) :
    (x >>= fun a => Pure.pure (f a)) >>= g = x >>= fun a => g (f a) := by
  funext labels
  cases h : (x labels).result with
  | ok a =>
    have hf : ((x >>= fun a => Pure.pure (f a)) labels).result = .ok (f a) := by
      rw [bind_ok h]
      rfl
    rw [bind_ok hf, bind_ok h, bind_ok h]
    simp only [Pure.pure, Render.pure, List.append_nil]
  | error e =>
    have hf : ((x >>= fun a => Pure.pure (f a)) labels).result = .error e := by
      rw [bind_error h]
    rw [bind_error hf, bind_error h, bind_error h]

theorem result_bind_pure (x : Render α) (f : α → β) (labels : LabelStack) :
    ((x >>= fun a => Pure.pure (f a)) labels).result = (x labels).result.map f := by
  cases hx : (x labels).result with
  | ok a => rw [bind_ok hx]; rfl
  | error e => rw [bind_error hx]; rfl

theorem labels_bind_pure (x : Render α) (f : α → β) (labels : LabelStack) :
    ((x >>= fun a => Pure.pure (f a)) labels).labels = (x labels).labels := by
  cases hx : (x labels).result with
  | ok a => rw [bind_ok hx]; rfl
  | error e => rw [bind_error hx]

/-! ## Renderings that may be no text -/

/-- the computation ends with a result, or with a fault other than that its rendering is no text -/
def Worded (x : Render α) : Prop := ∀ labels, (x labels).result ≠ .error .notText

theorem worded_pure (a : α) : Worded (Pure.pure a : Render α) := by
  rintro labels ⟨⟩

theorem worded_fail {f : Fault} (h : f ≠ .notText) : Worded (fail f : Render α) := by
  intro labels hf
  cases hf
  exact h rfl

theorem Worded.bind {x : Render α} {f : α → Render β} (hx : Worded x) (hf : ∀ a, Worded (f a)) : Worded (x >>= f) := by
  intro labels
  cases h : (x labels).result with
  | ok a =>
    rw [bind_ok h]
    exact hf a _
  | error e =>
    rw [bind_error h]
    intro he
    cases he
    exact hx labels h

theorem Worded.inTable {x : Render α} (hx : Worded x) : Worded (inTable x) := fun labels => hx ([] :: labels)

/-- what is no text is no fault any more once it was asked for -/
theorem worded_text? (x : Render Text) : Worded (text? x) := by
  have hattempt : Worded (attempt x) := fun labels h => by cases h
  refine hattempt.bind fun r => ?_
  split
  · exact worded_pure _
  · exact worded_pure _
  · rename_i f hother
    exact worded_fail hother

theorem text?_of_ok {x : Render Text} {labels : LabelStack} {t : Text} (h : (x labels).result = .ok t) :
    (text? x labels).result = .ok (some t) := by
  have hattempt : (attempt x labels).result = .ok (.ok t) := congrArg Except.ok h
  rw [text?, bind_ok hattempt]
  rfl

theorem text?_of_worded {x : Render Text} (h : Worded x) : text? x = x >>= fun t => Pure.pure (some t) := by
  funext labels
  have hattempt : (attempt x labels).result = .ok (x labels).result := rfl
  rw [text?, bind_ok hattempt]
  cases hx : (x labels).result with
  | ok t => rw [bind_ok hx]; rfl
  | error e =>
    rw [bind_error hx]
    cases e with
    | notText => exact absurd hx (h labels)
    | _ => simp only [attempt, fail, List.append_nil]

/-- a rendering that must be text ends the whole if it is none -/
theorem perform_renderText_eq_ok {render : Node → Render Text} {n : Node} {next : Text → Script} {labels : LabelStack}
    {t : Text} : (perform render (.renderText n next) labels).result = .ok t ↔ ∃ u, (render n labels).result = .ok u ∧
      (perform render (next u) (render n labels).labels).result = .ok t := by
  have hattempt : (attempt (render n) labels).result = .ok (render n labels).result := rfl
  rw [Script.renderText, perform, bind_eq_ok_iff, text?, bind_ok hattempt]
  cases (render n labels).result with
  | ok u => simp [attempt, Render.pure]
  | error f => cases f <;> simp [attempt, perform, Render.pure, fail]

/-- where the rendering is text, both ways to render a node come to the same -/
theorem perform_renderAny {render : Node → Render Text} {n : Node} (h : Worded (render n))
    (next : Option Text → Script) :
    perform render (.renderAny n next) = render n >>= fun t => perform render (next (some t)) := by
  rw [perform, text?_of_worded h, bind_pure_bind]

theorem perform_renderText {render : Node → Render Text} {n : Node} (h : Worded (render n)) (next : Text → Script) :
    perform render (.renderText n next) = render n >>= fun t => perform render (next t) := perform_renderAny h _

theorem result_note_bind (events : List Event) (x : Render α) (labels : LabelStack) :
    ((note events >>= fun _ => x) labels).result = (x labels).result := rfl

theorem perform_inTable_done (render : Node → Render Text) (body : Script) :
    perform render (.inTable body .done) = inTable (perform render body) := bind_pure _

/-! ## Properties of computations -/

/-- a property that computations keep when they are put together without touching labels -/
structure Compositional (Q : ∀ {α : Type}, Render α → Prop) : Prop where
  pure : ∀ {α : Type} (a : α), Q (Pure.pure a : Render α)
  fail : ∀ {α : Type} (f : Fault), Q (fail f : Render α)
  note : ∀ events, Q (note events)
  bind : ∀ {α β : Type} {x : Render α} {f : α → Render β}, Q x → (∀ a, Q (f a)) → Q (x >>= f)
  attempt : ∀ {α : Type} {x : Render α}, Q x → Q (attempt x)

/-- the same, and of all that is done with labels, the depth apart -/
structure Scoped (Q : ∀ {α : Type}, Render α → Prop) : Prop extends Compositional Q where
  append : ∀ label, Q (append label)
  innermost : Q innermost
  inTable : ∀ {α : Type} {x : Render α}, Q x → Q (inTable x)

theorem Compositional.text? {Q : ∀ {α : Type}, Render α → Prop} (hQ : Compositional Q) {x : Render Text} (hx : Q x) :
    Q (text? x) := by
  refine hQ.bind (hQ.attempt hx) fun r => ?_
  split
  · exact hQ.pure _
  · exact hQ.pure _
  · exact hQ.fail _

theorem Compositional.inOrder {Q : ∀ {α : Type}, Render α → Prop} (hQ : Compositional Q)
    {render : Node → Render Text} {nodes : List Node} (hr : ∀ n ∈ nodes, Q (render n)) (inline : Bool) :
    Q (inOrder render inline nodes) := by
  induction nodes with
  | nil => exact hQ.pure []
  | cons n rest ih =>
    obtain ⟨hn, hrest⟩ := List.forall_mem_cons.1 hr
    refine hQ.bind (hQ.text? hn) fun r => ?_
    split
    · exact hQ.bind (ih hrest) fun others => hQ.pure _
    · -- a rendering that is no text is refused at once inside a line, and after the rest otherwise
      split
      · exact hQ.fail _
      · exact hQ.bind (ih hrest) fun _ => hQ.fail _

/-- renderings that are text are joined one by one -/
theorem inOrder_cons {render : Node → Render Text} {n : Node} (h : Worded (render n)) (inline : Bool)
    (rest : List Node) :
    inOrder render inline (n :: rest) = render n >>= fun t => inOrder render inline rest >>= fun others =>
      Pure.pure ((if inline && !n.isInline then Text.dropTrailingNewlines t else t) ++ others) := by
  rw [inOrder, text?_of_worded h, bind_pure_bind]
  rfl

/-- where texts are joined, what is no text ends in another fault -/
theorem worded_inOrder (render : Node → Render Text) (inline : Bool) (nodes : List Node) :
    Worded (inOrder render inline nodes) := by
  induction nodes with
  | nil => exact worded_pure []
  | cons n rest ih =>
    rw [inOrder]
    refine (worded_text? (render n)).bind fun r => ?_
    split
    · exact ih.bind fun others => worded_pure _
    · split
      · exact worded_fail fun h => by cases h
      · exact ih.bind fun _ => worded_fail fun h => by cases h

theorem inOrder_congr {render render' : Node → Render Text} {nodes : List Node}
    (h : ∀ n ∈ nodes, render n = render' n) (inline : Bool) :
    inOrder render inline nodes = inOrder render' inline nodes := by
  induction nodes with
  | nil => rfl
  | cons n rest ih =>
    obtain ⟨hn, hrest⟩ := List.forall_mem_cons.1 h
    simp only [inOrder, hn, ih hrest]

end Render

/-! ## Footprints -/

/-- what a script may use of the context -/
structure Footprint where
  /-- the nodes that it may render -/
  renders : Node → Prop
  /-- whether it may append to the labels around it, or read them -/
  labels : Prop
  /-- whether it may ask how many tables are open -/
  depth : Prop

/-- no bound at all -/
def Footprint.all : Footprint := ⟨fun _ => True, True, True⟩

namespace Script

/-- the script stays within a footprint, whatever texts and labels it is answered with -/
def Within (F : Footprint) : Script → Prop
  | .done _ => True
  | .fail _ => True
  | .render n next => F.renders n ∧ ∀ t, (next t).Within F
  | .renderAny n next => F.renders n ∧ ∀ t, (next t).Within F
  | .renderChildren nodes _ next => (∀ n ∈ nodes, F.renders n) ∧ ∀ t, (next t).Within F
  | .appendLabel _ next => F.labels ∧ next.Within F
  | .readLabels next => F.labels ∧ ∀ labels, (next labels).Within F
  | .readDepth next => F.depth ∧ ∀ d, (next d).Within F
  | .inTable body next => body.Within { F with labels := True } ∧ ∀ t, (next t).Within F
  | .recovering body recover next => body.Within F ∧ (∀ e, (recover e).Within F) ∧ ∀ t, (next t).Within F

theorem within_all (s : Script) : s.Within .all := by
  induction s with
  | done t => trivial
  | fail f => trivial
  | render n next ih => exact ⟨trivial, ih⟩
  | renderAny n next ih => exact ⟨trivial, ih⟩
  | renderChildren nodes inline next ih => exact ⟨fun _ _ => trivial, ih⟩
  | appendLabel label next ih => exact ⟨trivial, ih⟩
  | readLabels next ih => exact ⟨trivial, ih⟩
  | readDepth next ih => exact ⟨trivial, ih⟩
  | inTable body next ihBody ih => exact ⟨ihBody, ih⟩
  | recovering body recover next ihBody ihRecover ih => exact ⟨ihBody, ihRecover, ih⟩

end Script

namespace Render

/-- every script has a property that all operations have and that the nodes of its footprint have -/
theorem Scoped.perform {Q : ∀ {α : Type}, Render α → Prop} (hQ : Scoped Q) {F : Footprint}
    {render : Node → Render Text} {s : Script} (hs : s.Within F) (hdepth : F.depth → Q depth)
    (hr : ∀ n, F.renders n → Q (render n)) : Q (perform render s) := by
  -- the footprint varies: inside a table of its own, a script may use labels
  induction s generalizing F with
  | done t => exact hQ.pure t
  | fail f => exact hQ.fail f
  | render n next ih => exact hQ.bind (hr n hs.1) fun t => ih t (hs.2 t) hdepth hr
  | renderAny n next ih => exact hQ.bind (hQ.text? (hr n hs.1)) fun t => ih t (hs.2 t) hdepth hr
  | renderChildren nodes inline next ih =>
    have hnodes : ∀ n ∈ nodes, Q (render n) := fun n hn => hr n (hs.1 n hn)
    exact hQ.bind (hQ.inOrder hnodes inline) fun t => ih t (hs.2 t) hdepth hr
  | appendLabel label next ih => exact hQ.bind (hQ.append label) fun _ => ih hs.2 hdepth hr
  | readLabels next ih => exact hQ.bind hQ.innermost fun labels => ih labels (hs.2 labels) hdepth hr
  | readDepth next ih => exact hQ.bind (hdepth hs.1) fun d => ih d (hs.2 d) hdepth hr
  | inTable body next ihBody ih =>
    exact hQ.bind (hQ.inTable (ihBody hs.1 hdepth hr)) fun t => ih t (hs.2 t) hdepth hr
  | recovering body recover next ihBody ihRecover ih =>
    rw [Render.perform]
    refine hQ.bind (hQ.attempt (ihBody hs.1 hdepth hr)) fun r => ?_
    split
    · exact ih _ (hs.2.2 _) hdepth hr
    · exact hQ.bind (ihRecover _ (hs.2.1 _) hdepth hr) fun t => ih t (hs.2.2 t) hdepth hr
    · exact hQ.fail _

/-- a script that leaves the labels around it alone has every property that sequencing keeps, if the tables that it
opens have it; inside of these, labels may be used -/
theorem Compositional.perform {Q : ∀ {α : Type}, Render α → Prop} (hQ : Compositional Q) {F : Footprint}
    {render : Node → Render Text} {s : Script} (hs : s.Within F) (hdepth : ¬ F.depth) (hlabels : ¬ F.labels)
    (hr : ∀ n, F.renders n → Q (render n))
    (htable : ∀ body : Script, body.Within { F with labels := True } → Q (inTable (perform render body))) :
    Q (perform render s) := by
  induction s with
  | done t => exact hQ.pure t
  | fail f => exact hQ.fail f
  | render n next ih => exact hQ.bind (hr n hs.1) fun t => ih t (hs.2 t)
  | renderAny n next ih => exact hQ.bind (hQ.text? (hr n hs.1)) fun t => ih t (hs.2 t)
  | renderChildren nodes inline next ih =>
    exact hQ.bind (hQ.inOrder (fun n hn => hr n (hs.1 n hn)) inline) fun t => ih t (hs.2 t)
  | appendLabel label next ih => exact absurd hs.1 hlabels
  | readLabels next ih => exact absurd hs.1 hlabels
  | readDepth next ih => exact absurd hs.1 hdepth
  | inTable body next ihBody ih => exact hQ.bind (htable body hs.1) fun t => ih t (hs.2 t)
  | recovering body recover next ihBody ihRecover ih =>
    rw [Render.perform]
    refine hQ.bind (hQ.attempt (ihBody hs.1)) fun r => ?_
    split
    · exact ih _ (hs.2.2 _)
    · exact hQ.bind (ihRecover _ (hs.2.1 _)) fun t => ih t (hs.2.2 t)
    · exact hQ.fail _

/-- a script cannot tell renderings apart that agree on the nodes of its footprint -/
theorem perform_congr {F : Footprint} {render render' : Node → Render Text} {s : Script} (hs : s.Within F)
    (h : ∀ n, F.renders n → render n = render' n) : perform render s = perform render' s := by
  induction s generalizing F with
  | done t => rfl
  | fail f => rfl
  | render n next ih => simp only [perform, h n hs.1, fun t => ih t (hs.2 t) h]
  | renderAny n next ih => simp only [perform, h n hs.1, fun t => ih t (hs.2 t) h]
  | renderChildren nodes inline next ih =>
    have hnodes : ∀ n ∈ nodes, render n = render' n := fun n hn => h n (hs.1 n hn)
    simp only [perform, inOrder_congr hnodes, fun t => ih t (hs.2 t) h]
  | appendLabel label next ih => simp only [perform, ih hs.2 h]
  | readLabels next ih => simp only [perform, fun labels => ih labels (hs.2 labels) h]
  | readDepth next ih => simp only [perform, fun d => ih d (hs.2 d) h]
  | inTable body next ihBody ih => simp only [perform, ihBody hs.1 h, fun t => ih t (hs.2 t) h]
  | recovering body recover next ihBody ihRecover ih =>
    simp only [perform, ihBody hs.1 h, fun e => ihRecover e (hs.2.1 e) h, fun t => ih t (hs.2.2 t) h]

end Render

end Unmark
