import Unmark.Document.Build
import Unmark.Proofs.Render.Sessions
import Unmark.Proofs.Text.Lines
/-!
Headings, paragraphs, links and cells around the same children. Each has a handler of its own; all of them render the
children inside a line, and a block ends what comes out. A paragraph takes a shorter way if its only child is a link
or an image: it reads as that node, whose text ends as a block already. On the longer way the end of the child would
be dropped and a new one put there, and line feeds at the end of its own text would go with it.

Results:
- `renderNode_eq_ok_iff_ownText`: a link or an image reads as its own text, ended as a block;
- `result_renderChildren_only`: what is left of it inside a line;
- the four containers agree, except where that text ends with a line feed.
-/
namespace Unmark

open Text

/-- a node of some kind around some children -/
structure Node.Holds (k : Kind) (xs : List Node) (n : Node) : Prop where
  kind : n.hasKind k = true
  children : n.children = xs

theorem Node.Holds.exists_head {k : Kind} {xs : List Node} {n : Node} (h : n.Holds k xs) :
    ∃ head items header rows, n = .element head xs items header rows ∧ head.kind = k := by
  obtain ⟨hkind, rfl⟩ := h
  cases n with
  | element head children items header rows =>
    exact ⟨head, items, header, rows, rfl, by simpa [Node.hasKind] using hkind⟩
  | cells entries => cases hkind
  | stray value => cases hkind

/-- a link or an image -/
def Node.isReference (n : Node) : Bool := n.hasKind .link || n.hasKind .image

theorem Node.kind_of_isReference {head : Head} {children : List Node} {items header rows : Option (List Node)}
    (h : (element head children items header rows).isReference = true) : head.kind = .link ∨ head.kind = .image := by
  simpa [isReference, hasKind] using h

namespace Renderer

open Render Treatment

variable {xs : List Node} {n : Node}

/-! ## Children inside a line -/

/-- a script that renders its children inside a line and ends them as a block -/
theorem result_renderChildren_blockEnd (xs : List Node) (labels : LabelStack) :
    (perform plain.renderNode (.renderChildren xs true fun t => .done (t ++ blockEnd)) labels).result =
      (plain.renderChildren true xs labels).result.map (· ++ blockEnd) :=
  result_bind_pure (plain.renderChildren true xs) (· ++ blockEnd) labels

theorem result_heading (h : n.Holds .heading xs) (hne : xs ≠ []) (labels : LabelStack) :
    (plain.renderNode n labels).result = (plain.renderChildren true xs labels).result.map (· ++ blockEnd) := by
  obtain ⟨head, items, header, rows, rfl, hk⟩ := h.exists_head
  rw [renderNode_element, result_note_bind, ← result_renderChildren_blockEnd]
  simp [hk, ofKind, handler, renderPlainBlock, hne]

theorem result_link (h : n.Holds .link xs) (hne : xs ≠ []) (htarget : (n.head?.bind Head.href).isSome = true)
    (labels : LabelStack) :
    (plain.renderNode n labels).result = (plain.renderChildren true xs labels).result.map (· ++ blockEnd) := by
  obtain ⟨head, items, header, rows, rfl, hk⟩ := h.exists_head
  obtain ⟨target, htarget⟩ := Option.isSome_iff_exists.1 htarget
  have hhref : head.href = some target := htarget
  rw [renderNode_element, result_note_bind, ← result_renderChildren_blockEnd]
  simp [hk, ofKind, handler, renderLink, hhref, hne]

theorem result_cell (h : n.Holds .tableCell xs) (hflag : n.head?.map Head.isHeaderCell = some false)
    (labels : LabelStack) : (plain.renderNode n labels).result = (plain.renderChildren true xs labels).result := by
  obtain ⟨head, items, header, rows, rfl, hk⟩ := h.exists_head
  have hflag : head.isHeaderCell = false := by simpa [Node.head?] using hflag
  rw [renderNode_element, result_note_bind]
  simp only [hk, ofKind, handler, renderCell, hflag, Bool.false_eq_true, if_false]
  have hdone : perform plain.renderNode (.renderChildren xs true .done) = plain.renderChildren true xs := bind_pure _
  rw [hdone]

/-! ## Links and images -/

/-- the text of a link or an image, before it is ended as a block -/
inductive OwnText (labels : LabelStack) : Node → Text → Prop
  /-- a link around children: what they read as inside a line -/
  | label {head : Head} {children : List Node} {items header rows : Option (List Node)} {u : Text}
      (isLink : head.kind = .link) (target : head.href ≠ none) (some : children ≠ [])
      (reads : (plain.renderChildren true children labels).result = .ok u) :
      OwnText labels (.element head children items header rows) u
  /-- a link without children: its literal -/
  | bareLabel {head : Head} {items header rows : Option (List Node)} {u : Text}
      (isLink : head.kind = .link) (target : head.href ≠ none) (literal : head.literal = .text u) :
      OwnText labels (.element head [] items header rows) u
  /-- an image: its alternative text -/
  | alternative {head : Head} {children : List Node} {items header rows : Option (List Node)} {u : Text}
      (isImage : head.kind = .image) (target : head.href ≠ none) (literal : head.literal = .text u)
      (some : u ≠ [] ∨ children = []) : OwnText labels (.element head children items header rows) u
  /-- an image without alternative text: what its children read as inside a line -/
  | described {head : Head} {children : List Node} {items header rows : Option (List Node)} {u : Text}
      (isImage : head.kind = .image) (target : head.href ≠ none) (blank : head.literal.truthy = false)
      (some : children ≠ []) (reads : (plain.renderChildren true children labels).result = .ok u) :
      OwnText labels (.element head children items header rows) u

theorem OwnText.isReference {labels : LabelStack} {u : Text} (h : OwnText labels n u) : n.isReference = true := by
  cases h with
  | label isLink | bareLabel isLink => simp [Node.isReference, Node.hasKind, isLink]
  | alternative isImage | described isImage => simp [Node.isReference, Node.hasKind, isImage]

theorem map_eq_ok_iff {r : Except Fault Text} {f : Text → Text} {t : Text} :
    r.map f = .ok t ↔ ∃ u, r = .ok u ∧ t = f u := by
  cases r with
  | ok u => simp [Except.map, eq_comm]
  | error e => simp [Except.map]

theorem OwnText.renders {labels : LabelStack} {u : Text} (h : OwnText labels n u) :
    (plain.renderNode n labels).result = .ok (u ++ blockEnd) := by
  cases h with
  | @label head children items header rows u isLink target some reads =>
    have hholds : (Node.element head children items header rows).Holds .link children :=
      ⟨by simp [Node.hasKind, isLink], rfl⟩
    rw [result_link hholds some (Option.isSome_iff_ne_none.2 target)]
    exact map_eq_ok_iff.2 ⟨u, reads, rfl⟩
  | bareLabel isLink target literal =>
    obtain ⟨address, haddress⟩ := Option.ne_none_iff_exists'.1 target
    rw [renderNode_element, result_note_bind, isLink]
    simp only [ofKind, handler, renderLink, haddress, literal]
    rfl
  | @alternative head children items header rows u isImage target literal some =>
    obtain ⟨address, haddress⟩ := Option.ne_none_iff_exists'.1 target
    rw [renderNode_element, result_note_bind, isImage]
    have hown : ((Literal.text u).truthy || children.isEmpty) = true := by simpa [Literal.truthy] using some
    simp only [ofKind, handler, renderImage, haddress, literal, hown, if_true]
    rfl
  | @described head children items header rows u isImage target blank some reads =>
    obtain ⟨address, haddress⟩ := Option.ne_none_iff_exists'.1 target
    rw [renderNode_element, result_note_bind, isImage]
    simp only [ofKind, handler, renderImage, haddress]
    rw [if_neg (by simpa [blank] using some), result_renderChildren_blockEnd]
    exact map_eq_ok_iff.2 ⟨u, reads, rfl⟩

theorem OwnText.unique {labels : LabelStack} {u v : Text} (hu : OwnText labels n u) (hv : OwnText labels n v) :
    u = v := by
  have hsame := hu.renders.symm.trans hv.renders
  simpa using hsame

theorem exists_ownText (h : n.isReference = true) {labels : LabelStack} {t : Text}
    (ht : (plain.renderNode n labels).result = .ok t) : ∃ u, OwnText labels n u := by
  cases n with
  | element head children items header rows =>
    rw [renderNode_element, result_note_bind] at ht
    have hkind := Node.kind_of_isReference h
    cases htarget : head.href with
    | none =>
      rcases hkind with hk | hk <;> simp only [hk, ofKind, handler, renderLink, renderImage, htarget] at ht <;> cases ht
    | some address =>
      have haddress : head.href ≠ none := by simp [htarget]
      rcases hkind with hk | hk
      · simp only [hk, ofKind, handler, renderLink, htarget] at ht
        by_cases hnone : children = []
        · subst hnone
          cases hl : head.literal with
          | text u => exact ⟨u, .bareLabel hk haddress hl⟩
          | other v =>
            rw [hl] at ht
            cases ht
        · rw [if_neg (by simpa using hnone), result_renderChildren_blockEnd, map_eq_ok_iff] at ht
          obtain ⟨u, hu, -⟩ := ht
          exact ⟨u, .label hk haddress hnone hu⟩
      · simp only [hk, ofKind, handler, renderImage, htarget] at ht
        by_cases hown : (head.literal.truthy || children.isEmpty) = true
        · rw [if_pos hown] at ht
          cases hl : head.literal with
          | text u =>
            rw [hl] at hown
            exact ⟨u, .alternative hk haddress hl (by simpa [Literal.truthy] using hown)⟩
          | other v =>
            rw [hl] at ht
            cases ht
        · rw [if_neg hown, result_renderChildren_blockEnd, map_eq_ok_iff] at ht
          obtain ⟨u, hu, -⟩ := ht
          obtain ⟨hblank, hsome⟩ : head.literal.truthy = false ∧ children ≠ [] := by simpa using hown
          exact ⟨u, .described hk haddress hblank hsome hu⟩
  | cells entries => cases h
  | stray value => cases h

/-- **A link or an image reads as its own text.** And then it ends as a block. -/
theorem renderNode_eq_ok_iff_ownText (h : n.isReference = true) {labels : LabelStack} {t : Text} :
    (plain.renderNode n labels).result = .ok t ↔ ∃ u, OwnText labels n u ∧ t = u ++ blockEnd := by
  constructor
  · intro ht
    obtain ⟨u, hu⟩ := exists_ownText h ht
    exact ⟨u, hu, Except.ok.inj (ht.symm.trans hu.renders)⟩
  · rintro ⟨u, hu, rfl⟩
    exact hu.renders

/-- neither gives up for want of text -/
theorem worded_of_isReference (h : n.isReference = true) : Worded (plain.renderNode n) := by
  cases n with
  | element head children items header rows =>
    have hdone : ∀ t, Worded (perform plain.renderNode (.done t)) := fun t labels ht => by cases ht
    have hchildren : Worded (perform plain.renderNode (.renderChildren children true fun t => .done (t ++ blockEnd))) :=
      (worded_inOrder plain.renderNode true children).bind fun t => hdone _
    have hfail : ∀ f, f ≠ .notText → Worded (perform plain.renderNode (.fail f)) := fun f hf => worded_fail hf
    have hscript : Worded (perform plain.renderNode
        ((ofKind head.kind).handler (.element head children items header rows))) := by
      rcases Node.kind_of_isReference h with hk | hk
      all_goals simp only [hk, ofKind, handler, renderLink, renderImage, Script.malformed]
      all_goals repeat' split
      all_goals first | exact hdone _ | exact hchildren | exact hfail _ (by simp)
    intro labels
    rw [renderNode_element, result_note_bind]
    exact hscript labels
  | cells entries => cases h
  | stray value => cases h

/-- inside a line, the end of the block goes, with all line feeds before it -/
theorem renderChildren_only {x : Node} (h : x.isReference = true) :
    plain.renderChildren true [x] = plain.renderNode x >>= fun t => Pure.pure (dropTrailingNewlines t) := by
  have hblock : x.isInline = false := by
    cases x with
    | element head children items header rows =>
      rcases Node.kind_of_isReference h with hk | hk <;> simp [Node.isInline, hk, Kind.isInline, Kind.behaviour]
    | cells entries => rfl
    | stray value => rfl
  have hjoined : plain.renderChildren true [x] =
      plain.renderNode x >>= fun t => Pure.pure (dropTrailingNewlines t ++ []) := by
    rw [renderChildren, inOrder_cons (worded_of_isReference h)]
    simp only [hblock, Bool.not_false, Bool.and_self, if_true]
    rfl
  simpa only [List.append_nil] using hjoined

theorem result_renderChildren_only {x : Node} (h : x.isReference = true) (labels : LabelStack) :
    (plain.renderChildren true [x] labels).result =
      (plain.renderNode x labels).result.map dropTrailingNewlines := by
  rw [renderChildren_only h, result_bind_pure]

/-! ## Paragraphs -/

/-- the shorter way -/
theorem renderParagraph_only {x : Node} (h : x.isReference = true) : renderParagraph [x] = .render x .done := if_pos h

/-- the longer way -/
theorem renderParagraph_children (h : ∀ x, xs = [x] → x.isReference = false) :
    renderParagraph xs = .renderChildren xs true fun t => .done (t ++ blockEnd) := by
  rw [renderParagraph.eq_def]
  split
  · rename_i only
    have honly : ¬ (only.hasKind .link || only.hasKind .image) = true := by simpa [Node.isReference] using h only rfl
    rw [if_neg honly]
  · rfl

theorem result_paragraph_only {x : Node} (h : n.Holds .paragraph [x]) (hx : x.isReference = true)
    (labels : LabelStack) : (plain.renderNode n labels).result = (plain.renderNode x labels).result := by
  obtain ⟨head, items, header, rows, rfl, hk⟩ := h.exists_head
  have hdone : perform plain.renderNode (.render x .done) = plain.renderNode x := bind_pure _
  rw [renderNode_element, result_note_bind, hk]
  simp only [ofKind, handler, renderParagraph_only hx, hdone]

theorem result_paragraph (h : n.Holds .paragraph xs) (hxs : ∀ x, xs = [x] → x.isReference = false)
    (labels : LabelStack) :
    (plain.renderNode n labels).result = (plain.renderChildren true xs labels).result.map (· ++ blockEnd) := by
  obtain ⟨head, items, header, rows, rfl, hk⟩ := h.exists_head
  rw [renderNode_element, result_note_bind, ← result_renderChildren_blockEnd, hk]
  simp only [ofKind, handler, renderParagraph_children hxs]

/-- **The shorter way of a paragraph.** It agrees with the longer one unless the text of the only child ends with a
line feed. -/
theorem result_paragraph_eq_iff (h : n.Holds .paragraph xs) (labels : LabelStack) :
    (plain.renderNode n labels).result = (plain.renderChildren true xs labels).result.map (· ++ blockEnd) ↔
      ¬ ∃ x u, xs = [x] ∧ OwnText labels x u ∧ u.getLast? = some '\n' := by
  by_cases hshort : ∃ x, xs = [x] ∧ x.isReference = true
  · obtain ⟨x, rfl, hx⟩ := hshort
    rw [result_paragraph_only h hx, result_renderChildren_only hx]
    cases hresult : (plain.renderNode x labels).result with
    | error f =>
      refine iff_of_true rfl ?_
      rintro ⟨y, u, hy, hu, -⟩
      obtain rfl : x = y := by simpa using hy
      rw [hu.renders] at hresult
      cases hresult
    | ok t =>
      obtain ⟨u, hu, rfl⟩ := (renderNode_eq_ok_iff_ownText hx).1 hresult
      have hclosed : Except.map (· ++ blockEnd) (Except.map dropTrailingNewlines (.ok (u ++ blockEnd))) =
          Except.ok (ε := Fault) (dropTrailingNewlines u ++ blockEnd) := by
        rw [← dropTrailingNewlines_append_blockEnd]
        rfl
      rw [hclosed, Except.ok.injEq, List.append_left_inj, eq_comm, dropTrailingNewlines_eq_self_iff, not_iff_not]
      constructor
      · exact fun hlast => ⟨x, u, rfl, hu, hlast⟩
      · rintro ⟨y, v, hy, hv, hlast⟩
        obtain rfl : x = y := by simpa using hy
        exact hv.unique hu ▸ hlast
  · refine iff_of_true (result_paragraph h (fun x hxs => ?_) labels) ?_
    · exact Bool.eq_false_iff.2 fun hx => hshort ⟨x, hxs, hx⟩
    · rintro ⟨x, u, hxs, hu, -⟩
      exact hshort ⟨x, hxs, hu.isReference⟩

end Renderer

/-! ## Main result -/

open Renderer in
/-- **Containers of one line agree.** Take a heading, a paragraph, a link with a target and a cell that is not marked
as a header cell, all around the same children, of which there is at least one. In every context the heading and the
link end in the same way: with the text of the cell, ended as a block, or with the fault of the cell. So does the
paragraph, unless its only child is a link or an image whose own text ends with a line feed. Of a link or an image
that is its only child, a paragraph shows the own text as it is, ended as a block. -/
theorem inline_containers_agree (xs : List Node) (hne : xs ≠ []) (heading paragraph link cell : Node)
    (hheading : heading.Holds .heading xs) (hparagraph : paragraph.Holds .paragraph xs)
    (hlink : link.Holds .link xs) (htarget : (link.head?.bind Head.href).isSome = true)
    (hcell : cell.Holds .tableCell xs) (hflag : cell.head?.map Head.isHeaderCell = some false) (labels : LabelStack) :
    let closed := (plain.renderNode cell labels).result.map (· ++ ['\n', '\n'])
    (plain.renderNode heading labels).result = closed ∧ (plain.renderNode link labels).result = closed ∧
    ((plain.renderNode paragraph labels).result = closed ↔
      ¬ ∃ x u, xs = [x] ∧ OwnText labels x u ∧ u.getLast? = some '\n') ∧
    ∀ x u, xs = [x] → OwnText labels x u → (plain.renderNode paragraph labels).result = .ok (u ++ ['\n', '\n']) := by
  intro closed
  have hclosed : closed = (plain.renderChildren true xs labels).result.map (· ++ blockEnd) := by
    rw [← result_cell hcell hflag]
    rfl
  refine ⟨?_, ?_, ?_, ?_⟩
  · exact (result_heading hheading hne labels).trans hclosed.symm
  · exact (result_link hlink hne htarget labels).trans hclosed.symm
  · rw [hclosed]
    exact result_paragraph_eq_iff hparagraph labels
  · rintro x u rfl hu
    exact (result_paragraph_only hparagraph hu.isReference labels).trans hu.renders

/-- an image whose alternative text ends with a line feed -/
def brokenImage : Node := Build.image ['a', '\n'] (some (.text "b")) none

open Renderer in
theorem inline_containers_agree_brokenImage :
    let closed := (plain.renderNode (Build.tableCell false [.node brokenImage]) []).result.map (· ++ ['\n', '\n'])
    (plain.renderNode (Build.link (some (.text "c")) none [.node brokenImage]) []).result = closed ∧
      (plain.renderNode (Build.paragraph [.node brokenImage]) []).result = .ok ['a', '\n', '\n', '\n'] ∧
      (plain.renderNode (Build.paragraph [.node brokenImage]) []).result ≠ closed := by
  have hown : OwnText [] brokenImage ['a', '\n'] := .alternative rfl (by simp) rfl (.inl (by simp))
  obtain ⟨-, hlink, hparagraph, hshown⟩ := inline_containers_agree [brokenImage] (by simp)
    (.branch .heading [brokenImage]) (Build.paragraph [.node brokenImage])
    (Build.link (some (.text "c")) none [.node brokenImage]) (Build.tableCell false [.node brokenImage])
    ⟨rfl, rfl⟩ ⟨rfl, rfl⟩ ⟨rfl, rfl⟩ rfl ⟨rfl, rfl⟩ rfl []
  exact ⟨hlink, hshown _ _ rfl hown, fun heq => hparagraph.1 heq ⟨_, _, rfl, hown, rfl⟩⟩

end Unmark
