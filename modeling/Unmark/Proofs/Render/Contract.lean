import Mathlib.Data.List.Forall2
import Unmark.Proofs.Render.BuiltIn
/-!
Contracts of renderings. A contract says what the rendering of each node reads as if it succeeds, and what holds of
the labels that tables keep meanwhile. It is checked handler by handler: a script meets a postcondition (`Meets`) if
it ends well whenever all that it is answered with is as the contract says. What checks out for the script of every
handler holds of every built-in rendering (`ensures_renderNode`): the induction over the tree is done here, once.

Contracts speak of renderings that succeed. Whether one does is a matter of what is malformed.
-/
namespace Unmark

/-- what renderings read as, and what labels read as -/
structure Contract where
  /-- what the text of a node is like -/
  reads : Node → Text → Prop
  /-- what a label is like -/
  label : Text → Prop

namespace Contract

/-- what the joined text of some nodes is like: the pieces are as the contract says, and blocks inside a line lose
their closing line feeds -/
inductive Joins (C : Contract) (inline : Bool) : List Node → Text → Prop
  | nil : Joins C inline [] []
  | cons {n : Node} {rest : List Node} {t others : Text} (first : C.reads n t) (more : Joins C inline rest others) :
      Joins C inline (n :: rest) ((if inline && !n.isInline then Text.dropTrailingNewlines t else t) ++ others)

/-- all labels on a stack are as the contract says -/
def Holds (C : Contract) (labels : LabelStack) : Prop := ∀ list ∈ labels, ∀ label ∈ list, C.label label

theorem Holds.addLabel {C : Contract} {labels : LabelStack} (h : C.Holds labels) {label : Text} (hl : C.label label) :
    C.Holds (Render.addLabel label labels) := by
  cases labels with
  | nil => exact h
  | cons top below =>
    obtain ⟨htop, hbelow⟩ := List.forall_mem_cons.1 h
    refine List.forall_mem_cons.2 ⟨fun l hmem => ?_, hbelow⟩
    rcases List.mem_append.1 hmem with hold | hnew
    · exact htop l hold
    · rw [List.mem_singleton.1 hnew]
      exact hl

theorem Holds.headD {C : Contract} {labels : LabelStack} (h : C.Holds labels) : ∀ l ∈ labels.headD [], C.label l := by
  cases labels with
  | nil => simp
  | cons top below => exact h top List.mem_cons_self

theorem Holds.tail {C : Contract} {labels : LabelStack} (h : C.Holds labels) : C.Holds labels.tail :=
  fun list hlist => h list (List.mem_of_mem_tail hlist)

theorem Joins.mono {C D : Contract} (hreads : ∀ n t, D.reads n t → C.reads n t) {inline : Bool} {nodes : List Node}
    {t : Text} (h : D.Joins inline nodes t) : C.Joins inline nodes t := by
  induction h with
  | nil => exact .nil
  | cons first more ih => exact .cons (hreads _ _ first) ih

/-- the text of one node among the others, as it stands between their texts -/
theorem Joins.split {C : Contract} {inline : Bool} {before after : List Node} {n : Node} {t : Text}
    (h : C.Joins inline (before ++ n :: after) t) : ∃ u s v, C.Joins inline before u ∧ C.reads n s ∧
      C.Joins inline after v ∧ t = u ++ (if inline && !n.isInline then Text.dropTrailingNewlines s else s) ++ v := by
  induction before generalizing t with
  | nil =>
    cases h with
    | cons first more => exact ⟨[], _, _, .nil, first, more, rfl⟩
  | cons m rest ih =>
    cases h with
    | cons first more =>
      obtain ⟨u, s, v, hu, hs, hv, rfl⟩ := ih more
      exact ⟨_, s, v, .cons first hu, hs, hv, by simp⟩

end Contract

/-! ## Scripts -/

namespace Script

/-- the script ends with a text of the postcondition, if it ends with a text at all and is answered with texts and
labels that are as the contract says -/
def Meets (C : Contract) : Script → (Text → Prop) → Prop
  | .done t, post => post t
  | .fail _, _ => True
  | .render n next, post => ∀ t, C.reads n t → (next t).Meets C post
  | .renderAny n next, post => ∀ t, (∀ text, t = some text → C.reads n text) → (next t).Meets C post
  | .renderChildren nodes inline next, post => ∀ t, C.Joins inline nodes t → (next t).Meets C post
  | .appendLabel label next, post => C.label label ∧ next.Meets C post
  | .readLabels next, post => ∀ labels, (∀ l ∈ labels, C.label l) → (next labels).Meets C post
  | .readDepth next, post => ∀ d, (next d).Meets C post
  | .inTable body next, post => ∃ mid, body.Meets C mid ∧ ∀ t, mid t → (next t).Meets C post
  | .recovering body recover next, post =>
    ∃ mid, body.Meets C mid ∧ (∀ e, (recover e).Meets C mid) ∧ ∀ t, mid t → (next t).Meets C post

theorem meets_renderText {C : Contract} {post : Text → Prop} {n : Node} {next : Text → Script}
    (h : ∀ t, C.reads n t → (next t).Meets C post) : (renderText n next).Meets C post := by
  intro t ht
  cases t with
  | some t => exact h t (ht t rfl)
  | none => trivial

/-- nodes that are rendered one by one answer with a text each -/
theorem meets_renderOneByOne {C : Contract} {post : Text → Prop} {next : List Text → Script} {nodes : List Node}
    {before : List Text}
    (h : ∀ texts, List.Forall₂ C.reads nodes texts → (next (before.reverse ++ texts)).Meets C post) :
    (renderOneByOne before next nodes).Meets C post := by
  induction nodes generalizing before with
  | nil => simpa [renderOneByOne] using h [] .nil
  | cons n rest ih =>
    refine meets_renderText fun t ht => ih fun texts htexts => ?_
    simpa using h (t :: texts) (.cons ht htexts)

/-- a contract that promises more of what is answered, and a postcondition that asks for less -/
theorem Meets.mono {C D : Contract} (hreads : ∀ n t, D.reads n t → C.reads n t) (hlabel : ∀ l, C.label l ↔ D.label l)
    {s : Script} {p q : Text → Prop} (hpost : ∀ t, p t → q t) (h : s.Meets C p) : s.Meets D q := by
  induction s generalizing p q with
  | done t => exact hpost t h
  | fail f => trivial
  | render n next ih => exact fun t ht => ih t hpost (h t (hreads n t ht))
  | renderAny n next ih => exact fun t ht => ih t hpost (h t fun text htext => hreads n text (ht text htext))
  | renderChildren nodes inline next ih => exact fun t ht => ih t hpost (h t (ht.mono hreads))
  | appendLabel label next ih => exact ⟨(hlabel label).1 h.1, ih hpost h.2⟩
  | readLabels next ih => exact fun labels hl => ih labels hpost (h labels fun l hmem => (hlabel l).2 (hl l hmem))
  | readDepth next ih => exact fun d => ih d hpost (h d)
  | inTable body next ihBody ih =>
    obtain ⟨mid, hbody, hnext⟩ := h
    exact ⟨mid, ihBody (fun _ => id) hbody, fun t ht => ih t hpost (hnext t ht)⟩
  | recovering body recover next ihBody ihRecover ih =>
    obtain ⟨mid, hbody, hrecover, hnext⟩ := h
    exact ⟨mid, ihBody (fun _ => id) hbody, fun e => ihRecover e (fun _ => id) (hrecover e),
      fun t ht => ih t hpost (hnext t ht)⟩

/-- where labels may be anything, there is nothing to meet but what is asked of the text -/
theorem meets_true {C : Contract} (hlabel : ∀ l, C.label l) (s : Script) : s.Meets C fun _ => True := by
  induction s with
  | done t => trivial
  | fail f => trivial
  | render n next ih => exact fun t _ => ih t
  | renderAny n next ih => exact fun t _ => ih t
  | renderChildren nodes inline next ih => exact fun t _ => ih t
  | appendLabel label next ih => exact ⟨hlabel label, ih⟩
  | readLabels next ih => exact fun labels _ => ih labels
  | readDepth next ih => exact ih
  | inTable body next ihBody ih => exact ⟨_, ihBody, fun t _ => ih t⟩
  | recovering body recover next ihBody ihRecover ih => exact ⟨_, ihBody, ihRecover, fun t _ => ih t⟩

/-- two postconditions that are met are met together -/
theorem Meets.and {C : Contract} {s : Script} {p q : Text → Prop} (hp : s.Meets C p) (hq : s.Meets C q) :
    s.Meets C fun t => p t ∧ q t := by
  induction s generalizing p q with
  | done t => exact ⟨hp, hq⟩
  | fail f => trivial
  | render n next ih => exact fun t ht => ih t (hp t ht) (hq t ht)
  | renderAny n next ih => exact fun t ht => ih t (hp t ht) (hq t ht)
  | renderChildren nodes inline next ih => exact fun t ht => ih t (hp t ht) (hq t ht)
  | appendLabel label next ih => exact ⟨hp.1, ih hp.2 hq.2⟩
  | readLabels next ih => exact fun labels hl => ih labels (hp labels hl) (hq labels hl)
  | readDepth next ih => exact fun d => ih d (hp d) (hq d)
  | inTable body next ihBody ih =>
    obtain ⟨mid, hbody, hnext⟩ := hp
    obtain ⟨mid', hbody', hnext'⟩ := hq
    exact ⟨_, ihBody hbody hbody', fun t ht => ih t (hnext t ht.1) (hnext' t ht.2)⟩
  | recovering body recover next ihBody ihRecover ih =>
    obtain ⟨mid, hbody, hrecover, hnext⟩ := hp
    obtain ⟨mid', hbody', hrecover', hnext'⟩ := hq
    exact ⟨_, ihBody hbody hbody', fun e => ihRecover e (hrecover e) (hrecover' e),
      fun t ht => ih t (hnext t ht.1) (hnext' t ht.2)⟩

end Script

namespace Render

variable {α β : Type} {C : Contract}

/-! ## Computations -/

/-- on every stack whose labels are as the contract says, they still are in the end, and a result is as said -/
def Ensures (C : Contract) (x : Render α) (post : α → Prop) : Prop :=
  ∀ labels, C.Holds labels → C.Holds (x labels).labels ∧ ∀ a, (x labels).result = .ok a → post a

theorem ensures_pure {a : α} {post : α → Prop} (h : post a) : Ensures C (Pure.pure a : Render α) post := by
  intro labels hl
  refine ⟨hl, fun b hb => ?_⟩
  cases hb
  exact h

theorem ensures_fail (f : Fault) (post : α → Prop) : Ensures C (fail f) post := by
  intro labels hl
  exact ⟨hl, fun a ha => by cases ha⟩

theorem ensures_note (events : List Event) : Ensures C (note events) fun _ => True := by
  intro labels hl
  exact ⟨hl, fun _ _ => trivial⟩

theorem Ensures.bind {x : Render α} {f : α → Render β} {mid : α → Prop} {post : β → Prop} (hx : Ensures C x mid)
    (hf : ∀ a, mid a → Ensures C (f a) post) : Ensures C (x >>= f) post := by
  intro labels hl
  obtain ⟨hafter, hmid⟩ := hx labels hl
  cases h : (x labels).result with
  | ok a => rw [bind_ok h]; exact hf a (hmid a h) _ hafter
  | error e => rw [bind_error h]; exact ⟨hafter, fun b hb => by cases hb⟩

theorem Ensures.attempt {x : Render α} {post : α → Prop} (hx : Ensures C x post) :
    Ensures C (attempt x) fun r => ∀ a, r = .ok a → post a := by
  intro labels hl
  obtain ⟨hafter, hpost⟩ := hx labels hl
  refine ⟨hafter, fun r hr => ?_⟩
  cases hr
  exact hpost

theorem Ensures.text? {x : Render Text} {post : Text → Prop} (hx : Ensures C x post) :
    Ensures C (text? x) fun r => ∀ t, r = some t → post t := by
  refine hx.attempt.bind fun r hresult => ?_
  split
  · rename_i t
    exact ensures_pure fun u hu => Option.some.inj hu ▸ hresult t rfl
  · exact ensures_pure fun u hu => by cases hu
  · exact ensures_fail _ _

theorem ensures_append {label : Text} (h : C.label label) : Ensures C (append label) fun _ => True := by
  intro labels hl
  exact ⟨hl.addLabel h, fun _ _ => trivial⟩

theorem ensures_innermost : Ensures C innermost fun labels => ∀ l ∈ labels, C.label l := by
  intro labels hl
  refine ⟨hl, fun read hread => ?_⟩
  cases hread
  exact hl.headD

theorem ensures_depth : Ensures C depth fun _ => True := by
  intro labels hl
  exact ⟨hl, fun _ _ => trivial⟩

/-- the list of a new table starts without labels -/
theorem Ensures.inTable {x : Render α} {post : α → Prop} (hx : Ensures C x post) : Ensures C (inTable x) post := by
  intro labels hl
  have hopen : C.Holds ([] :: labels) := List.forall_mem_cons.2 ⟨by simp, hl⟩
  obtain ⟨hafter, hpost⟩ := hx ([] :: labels) hopen
  exact ⟨hafter.tail, hpost⟩

theorem ensures_inOrder {render : Node → Render Text} {nodes : List Node}
    (hr : ∀ n ∈ nodes, Ensures C (render n) (C.reads n)) (inline : Bool) :
    Ensures C (inOrder render inline nodes) (C.Joins inline nodes) := by
  induction nodes with
  | nil => exact ensures_pure .nil
  | cons n rest ih =>
    obtain ⟨hn, hrest⟩ := List.forall_mem_cons.1 hr
    rw [inOrder]
    refine hn.text?.bind fun r hfirst => ?_
    split
    · rename_i t
      refine (ih hrest).bind fun others hothers => ?_
      exact ensures_pure (.cons (hfirst t rfl) hothers)
    · split
      · exact ensures_fail _ _
      · exact (ih hrest).bind fun _ _ => ensures_fail _ _

/-- carried out, a script ends as it says, if the nodes of its footprint read as the contract says -/
theorem ensures_perform {F : Footprint} {render : Node → Render Text} {s : Script} {post : Text → Prop}
    (hs : s.Meets C post) (hw : s.Within F) (hr : ∀ n, F.renders n → Ensures C (render n) (C.reads n)) :
    Ensures C (perform render s) post := by
  induction s generalizing F post with
  | done t => exact ensures_pure hs
  | fail f => exact ensures_fail f post
  | render n next ih => exact (hr n hw.1).bind fun t ht => ih t (hs t ht) (hw.2 t) hr
  | renderAny n next ih => exact (hr n hw.1).text?.bind fun t ht => ih t (hs t ht) (hw.2 t) hr
  | renderChildren nodes inline next ih =>
    have hnodes : ∀ n ∈ nodes, Ensures C (render n) (C.reads n) := fun n hn => hr n (hw.1 n hn)
    exact (ensures_inOrder hnodes inline).bind fun t ht => ih t (hs t ht) (hw.2 t) hr
  | appendLabel label next ih => exact (ensures_append hs.1).bind fun _ _ => ih hs.2 hw.2 hr
  | readLabels next ih =>
    exact ensures_innermost.bind fun labels hlabels => ih labels (hs labels hlabels) (hw.2 labels) hr
  | readDepth next ih => exact ensures_depth.bind fun d _ => ih d (hs d) (hw.2 d) hr
  | inTable body next ihBody ih =>
    obtain ⟨mid, hbody, hnext⟩ := hs
    exact (ihBody hbody hw.1 hr).inTable.bind fun t ht => ih t (hnext t ht) (hw.2 t) hr
  | recovering body recover next ihBody ihRecover ih =>
    obtain ⟨mid, hbody, hrecover, hnext⟩ := hs
    rw [perform]
    refine (ihBody hbody hw.1 hr).attempt.bind fun r hfirst => ?_
    split
    · rename_i t
      exact ih t (hnext t (hfirst t rfl)) (hw.2.2 t) hr
    · rename_i e
      exact (ihRecover e (hrecover e) (hw.2.1 e) hr).bind fun t ht => ih t (hnext t ht) (hw.2.2 t) hr
    · exact ensures_fail _ _

end Render

/-! ## Built-in rendering -/

namespace Renderer

open Render

variable {C : Contract} {covered : Node → Prop}

/-- **The rule for contracts.** Take some nodes that are closed under parts. If the script of the built-in handler
meets the contract for each of them, then each reads as the contract says. -/
theorem ensures_renderNode (hpart : ∀ n m, IsPart n m → covered m → covered n)
    (hmeets : ∀ head children items header rows, covered (.element head children items header rows) →
      ((Treatment.ofKind head.kind).handler (.element head children items header rows)).Meets C
        (C.reads (.element head children items header rows)))
    {n : Node} (hn : covered n) : Ensures C (plain.renderNode n) (C.reads n) := by
  induction n using Node.induction_isPart with
  | element head children items header rows ih =>
    rw [renderNode_element]
    refine (ensures_note _).bind fun _ _ => ?_
    have hwithin := Treatment.handler_within head children items header rows
    exact ensures_perform (hmeets _ _ _ _ _ hn) hwithin fun m hm => ih m hm (hpart _ _ hm hn)
  | cells entries => rw [renderNode_cells]; exact ensures_fail _ _
  | stray value => rw [renderNode_stray]; exact ensures_fail _ _

/-- the same for a document that renders to a text -/
theorem joins_of_renderToText (hpart : ∀ n m, IsPart n m → covered m → covered n)
    (hmeets : ∀ head children items header rows, covered (.element head children items header rows) →
      ((Treatment.ofKind head.kind).handler (.element head children items header rows)).Meets C
        (C.reads (.element head children items header rows)))
    {nodes : List Node} (hn : ∀ n ∈ nodes, covered n) {t : Text} (ht : (plain.renderToText nodes).result = .ok t) :
    C.Joins false nodes t := by
  have hnodes := ensures_inOrder (fun n h => ensures_renderNode hpart hmeets (hn n h)) false
  rw [renderToText_result] at ht
  have hempty : C.Holds [] := by simp [Contract.Holds]
  exact (hnodes [] hempty).2 t ht

end Renderer

end Unmark
