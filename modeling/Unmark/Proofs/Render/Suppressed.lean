import Unmark.Document.Build
import Unmark.Proofs.Document.Walk
import Unmark.Proofs.Document.WellFormed
import Unmark.Proofs.Render.Contract
import Unmark.Proofs.Render.InlineContainers
import Unmark.Proofs.Render.Lockstep
/-!
Suppressed nodes leave no trace. A suppressed node reads as nothing, so it may be put among other nodes without a change
to their joined text. How many children a node has can be seen in other ways, though: a node without any falls back on
its literal, and a paragraph with a single link or image in it takes a shorter way. So children are put only where a
child that is not suppressed stands already, and the two ways of a paragraph must come to the same: they do unless what
stands in a line is broken off by a line feed.

A row renders its children as cells and refuses all else, so nothing is put into rows.

Results:
- `getLast?_ownText`: where no literal ends with a line feed, neither does what stands in a line;
- `alike_renderNode_of_padded`: a node with suppressed nodes put in, at any depth, renders as before.
-/
namespace Unmark

open Text

namespace Node

/-! ## Putting in suppressed nodes -/

def isSuppressed : Node → Bool
  | .element head .. => head.kind.behaviour == .suppressed
  | _ => false

/-- the second forest has related nodes in place of those of the first, and suppressed nodes in between -/
inductive Interspersed (R : Node → Node → Prop) : List Node → List Node → Prop
  | nil : Interspersed R [] []
  | cons {n m : Node} {rest rest' : List Node} (first : R n m) (more : Interspersed R rest rest') :
      Interspersed R (n :: rest) (m :: rest')
  | inserted {s : Node} {nodes rest : List Node} (suppressed : s.isSuppressed = true)
      (more : Interspersed R nodes rest) : Interspersed R nodes (s :: rest)

/-- the second node is the first one with suppressed nodes put in at any depth: among the children of a node that is
no row and has a child that is not suppressed, and nowhere else -/
inductive Padded : Node → Node → Prop
  | element {head : Head} {children children' : List Node}
      {items items' header header' rows rows' : Option (List Node)}
      (room : children'.length = children.length ∨
        head.kind ≠ .tableRow ∧ ∃ n ∈ children, n.isSuppressed = false)
      (below : Interspersed Padded children children') (inItems : Option.Rel (List.Forall₂ Padded) items items')
      (inHeader : Option.Rel (List.Forall₂ Padded) header header')
      (inRows : Option.Rel (List.Forall₂ Padded) rows rows') :
      Padded (.element head children items header rows) (.element head children' items' header' rows')
  | cells {entries entries' : List Node} (below : List.Forall₂ Padded entries entries') :
      Padded (.cells entries) (.cells entries')
  | stray (value : Value) : Padded (.stray value) (.stray value)

section

variable {R S : Node → Node → Prop} {xs ys : List Node}

theorem forall₂_imp_of_mem (h : List.Forall₂ R xs ys) (hx : ∀ x ∈ xs, ∀ y, R x y → S x y) : List.Forall₂ S xs ys :=
  ((List.forall₂_and_left xs ys).2 ⟨hx, h⟩).imp fun _ y hxy => hxy.1 y hxy.2

theorem rel_imp_of_mem {nodes nodes' : Option (List Node)} (h : Option.Rel (List.Forall₂ R) nodes nodes')
    (hx : ∀ given, nodes = some given → ∀ x ∈ given, ∀ y, R x y → S x y) :
    Option.Rel (List.Forall₂ S) nodes nodes' := by
  cases h with
  | none => exact .none
  | some h => exact .some (forall₂_imp_of_mem h (hx _ rfl))

theorem Interspersed.length_le (h : Interspersed R xs ys) : xs.length ≤ ys.length := by
  induction h with
  | nil => exact Nat.le_refl _
  | cons first more ih => exact Nat.succ_le_succ ih
  | inserted suppressed more ih => exact Nat.le_succ_of_le ih

/-- where nothing is put in, each node has its own -/
theorem Interspersed.forall₂ (h : Interspersed R xs ys) (hlength : ys.length = xs.length) : List.Forall₂ R xs ys := by
  induction h with
  | nil => exact .nil
  | cons first more ih => exact .cons first (ih (Nat.succ.inj hlength))
  | inserted suppressed more ih =>
    have hle := more.length_le
    rw [List.length_cons] at hlength
    omega

theorem Interspersed.of_forall₂ (h : List.Forall₂ R xs ys) : Interspersed R xs ys := by
  induction h with
  | nil => exact .nil
  | cons first more ih => exact .cons first ih

theorem Interspersed.isEmpty_eq (h : Interspersed R xs ys)
    (hroom : ys.length = xs.length ∨ ∃ n ∈ xs, n.isSuppressed = false) : xs.isEmpty = ys.isEmpty := by
  cases h with
  | nil => rfl
  | cons first more => rfl
  | inserted suppressed more =>
    have hne : xs ≠ [] := by
      rintro rfl
      rcases hroom with hlength | ⟨n, hn, -⟩
      · cases hlength
      · cases hn
    exact List.isEmpty_eq_false_iff.2 hne

/-- a single node that is not suppressed is the only one of before -/
theorem Interspersed.eq_singleton {y : Node} (h : Interspersed R xs [y]) (hy : y.isSuppressed = false) :
    ∃ x, xs = [x] ∧ R x y := by
  cases h with
  | cons first more =>
    cases more with
    | nil => exact ⟨_, rfl, first⟩
  | inserted suppressed more =>
    rw [suppressed] at hy
    cases hy

theorem Padded.isInline_eq {n m : Node} (h : Padded n m) : n.isInline = m.isInline := by
  cases h <;> rfl

theorem Padded.hasKind_eq {n m : Node} (h : Padded n m) (k : Kind) : m.hasKind k = n.hasKind k := by
  cases h <;> rfl

theorem Padded.isReference_eq {n m : Node} (h : Padded n m) : m.isReference = n.isReference := by
  rw [isReference, isReference, h.hasKind_eq, h.hasKind_eq]

theorem isSuppressed_of_isReference {n : Node} (h : n.isReference = true) : n.isSuppressed = false := by
  cases n with
  | element head children items header rows =>
    rcases kind_of_isReference h with hk | hk <;> simp [isSuppressed, hk, Kind.behaviour]
  | cells entries => rfl
  | stray value => rfl

theorem Padded.refl (n : Node) : Padded n n := by
  have hall : ∀ nodes : List Node, (∀ n ∈ nodes, Padded n n) → List.Forall₂ Padded nodes nodes :=
    fun nodes => List.forall₂_same.2
  induction n using induction_members with
  | element head children items header rows ihChildren ihItems ihHeader ihRows =>
    have hsome : ∀ nodes : Option (List Node), (∀ n ∈ nodes.getD [], Padded n n) →
        Option.Rel (List.Forall₂ Padded) nodes nodes := by
      intro nodes hnodes
      cases nodes with
      | none => exact .none
      | some nodes => exact .some (hall nodes hnodes)
    exact .element (.inl rfl) (.of_forall₂ (hall children ihChildren)) (hsome items ihItems) (hsome header ihHeader)
      (hsome rows ihRows)
  | cells entries ih => exact .cells (hall entries ih)
  | stray value => exact .stray value

end

/-! ## Broken lines -/

/-- the literal of the node is text that ends with a line feed, and the node is not suppressed -/
def breaksLine : Node → Bool
  | .element head .. =>
    match head.literal with
    | .text t => head.kind.behaviour != .suppressed && t.getLast? == some '\n'
    | .other _ => false
  | _ => false

/-- no node in the walk over the node breaks a line, rows apart, which have nothing but their cells -/
def Unbroken (n : Node) : Prop := ∀ m ∈ n.walk, m.hasKind .tableRow = true ∨ m.breaksLine = false

theorem Unbroken.of_isPart {n m : Node} (h : IsPart n m) (hm : m.Unbroken) : n.Unbroken := forall_walk_of_isPart h hm

theorem Unbroken.getLast?_literal {head : Head} {children : List Node} {items header rows : Option (List Node)}
    (h : (element head children items header rows).Unbroken)
    (hk : head.kind.isInline = true ∨ head.kind = .link ∨ head.kind = .image) {t : Text}
    (ht : head.literal = .text t) : t.getLast? ≠ some '\n' := by
  intro hlast
  have hself := h _ (mem_walk_self _)
  rcases hk with hk | hk | hk
  all_goals cases hkind : head.kind <;> simp_all [hasKind, breaksLine, Kind.behaviour, Kind.isInline]

end Node

open Node

/-- what stands in a line does not end with a line feed -/
def unbroken : Contract where
  reads n t := n.isInline = true → t.getLast? ≠ some '\n'
  label _ := True

theorem getLast?_of_joins {nodes : List Node} {t : Text} (h : unbroken.Joins true nodes t) :
    t.getLast? ≠ some '\n' := by
  induction h with
  | nil => simp
  | @cons n rest t others first more ih =>
    have hpiece : (if true && !n.isInline then dropTrailingNewlines t else t).getLast? ≠ some '\n' := by
      cases hinline : n.isInline with
      | true => exact first hinline
      | false => exact getLast?_dropTrailingNewlines t
    -- the last piece that is not empty tells
    cases others with
    | nil => simpa using hpiece
    | cons c more => rwa [List.getLast?_append_of_ne_nil _ (by simp)]

/-- only nodes that stand in a line have anything to keep -/
theorem meets_unbroken (head : Head) (children : List Node) (items header rows : Option (List Node))
    (h : (Node.element head children items header rows).Unbroken) :
    ((Treatment.ofKind head.kind).handler (.element head children items header rows)).Meets unbroken
      (unbroken.reads (.element head children items header rows)) := by
  cases hinline : head.kind.isInline with
  | false =>
    refine (Script.meets_true (fun _ => trivial) _).mono (fun _ _ => id) (fun _ => Iff.rfl) fun t _ hself => ?_
    have hnot : head.kind.isInline = true := hself
    rw [hinline] at hnot
    cases hnot
  | true =>
    have htreatment : Treatment.ofKind head.kind = .inline := by
      cases hk : head.kind <;> simp_all [Kind.isInline, Kind.behaviour, Treatment.ofKind]
    rw [htreatment, Treatment.handler, Treatment.renderInline.eq_def]
    split
    · split
      · exact fun _ => h.getLast?_literal (.inl hinline) ‹_›
      · trivial
    · intro t ht _
      exact getLast?_of_joins ht

namespace Renderer

open Render Treatment

variable {labels : LabelStack} {n : Node}

theorem ensures_unbroken (h : n.Unbroken) : Ensures unbroken (plain.renderNode n) (unbroken.reads n) := by
  apply ensures_renderNode _ meets_unbroken h
  intro n m hpart hm
  exact hm.of_isPart hpart

/-- what children read as in a line -/
theorem getLast?_renderChildren {head : Head} {children : List Node} {items header rows : Option (List Node)}
    (h : (Node.element head children items header rows).Unbroken) (hlist : head.kind ≠ .list)
    (htable : head.kind ≠ .table) {u : Text} (hu : (plain.renderChildren true children labels).result = .ok u) :
    u.getLast? ≠ some '\n' := by
  have hchildren : Ensures unbroken (plain.renderChildren true children) (unbroken.Joins true children) := by
    apply ensures_inOrder
    intro n hn
    exact ensures_unbroken (h.of_isPart (.child hlist htable hn))
  have hlabels : unbroken.Holds labels := fun _ _ _ _ => trivial
  exact getLast?_of_joins ((hchildren labels hlabels).2 u hu)

/-- **The own text of a link or an image is not broken off.** -/
theorem getLast?_ownText (h : n.Unbroken) {u : Text} (hu : OwnText labels n u) : u.getLast? ≠ some '\n' := by
  cases hu with
  | label isLink target some reads => exact getLast?_renderChildren h (by simp [isLink]) (by simp [isLink]) reads
  | bareLabel isLink target literal => exact h.getLast?_literal (.inr (.inl isLink)) literal
  | alternative isImage target literal some => exact h.getLast?_literal (.inr (.inr isImage)) literal
  | described isImage target literal some reads =>
    exact getLast?_renderChildren h (by simp [isImage]) (by simp [isImage]) reads

/-! ## Children -/

theorem alike_suppressed {s : Node} (h : s.isSuppressed = true) : Alike (plain.renderNode s) (Pure.pure []) := by
  cases s with
  | element head children items header rows =>
    have hscript : (ofKind head.kind).handler (.element head children items header rows) = .done [] := by
      cases hk : head.kind <;> simp_all [isSuppressed, Kind.behaviour, ofKind, handler]
    rw [renderNode_element, hscript]
    exact fun labels => ⟨rfl, rfl⟩
  | cells entries => cases h
  | stray value => cases h

/-- among other nodes it leaves no text -/
theorem alike_inserted {s : Node} (h : s.isSuppressed = true) (inline : Bool) (rest : List Node) :
    Alike (plain.renderChildren inline (s :: rest)) (plain.renderChildren inline rest) := by
  have hnothing := alike_suppressed h
  have hworded : Worded (plain.renderNode s) := by
    intro labels hfault
    rw [(hnothing labels).1] at hfault
    cases hfault
  have hpiece : (if inline && !s.isInline then dropTrailingNewlines [] else []) = ([] : Text) := by split <;> rfl
  rw [renderChildren, inOrder_cons hworded]
  calc
    Alike _ (Pure.pure [] >>= fun t => plain.renderChildren inline rest >>= fun others =>
        Pure.pure ((if inline && !s.isInline then dropTrailingNewlines t else t) ++ others)) :=
      hnothing.bind fun t => Alike.refl _
    Alike _ (plain.renderChildren inline rest >>= fun others =>
        Pure.pure ((if inline && !s.isInline then dropTrailingNewlines [] else []) ++ others)) := alike_pure_bind [] _
    Alike _ (plain.renderChildren inline rest) := by
      simp only [hpiece, List.nil_append]
      rw [bind_pure]
      exact Alike.refl _

/-- nodes that render alike, with suppressed nodes in between -/
theorem alike_interspersed {xs ys : List Node} (h : Interspersed Padded xs ys)
    (hx : ∀ n ∈ xs, ∀ m, Padded n m → Alike (plain.renderNode n) (plain.renderNode m)) (inline : Bool) :
    Alike (plain.renderChildren inline xs) (plain.renderChildren inline ys) := by
  induction h with
  | nil => exact Alike.refl _
  | @cons n m rest rest' first more ih =>
    obtain ⟨hn, hrest⟩ := List.forall_mem_cons.1 hx
    exact alike_inOrder_cons first.isInline_eq (hn m first) (ih hrest)
  | inserted suppressed more ih => exact (ih hx).trans (alike_inserted suppressed inline _).symm

/-! ## The built-in handlers -/

/-- forests that are both empty or both not, and whose joined texts are the same -/
structure ReadAlike (xs ys : List Node) : Prop where
  isEmpty : xs.isEmpty = ys.isEmpty
  joined : ∀ inline, Alike (plain.renderChildren inline xs) (plain.renderChildren inline ys)

section

variable {xs ys : List Node}

theorem ReadAlike.renderChildren (h : ReadAlike xs ys) (inline : Bool) (next : Text → Script) :
    Alike (perform plain.renderNode (.renderChildren xs inline next))
      (perform plain.renderNode (.renderChildren ys inline next)) := by
  apply (h.joined inline).bind
  intro t
  exact Alike.refl _

theorem ReadAlike.childrenOr (h : ReadAlike xs ys) (fallback : Script) (inline : Bool) (next : Text → Script) :
    Alike (perform plain.renderNode (if xs.isEmpty then fallback else .renderChildren xs inline next))
      (perform plain.renderNode (if ys.isEmpty then fallback else .renderChildren ys inline next)) := by
  rw [h.isEmpty]
  split
  · exact Alike.refl _
  · exact h.renderChildren inline next

theorem ReadAlike.renderPlainBlock (h : ReadAlike xs ys) (kind : Kind) (literal : Literal) :
    Alike (perform plain.renderNode (renderPlainBlock kind literal xs))
      (perform plain.renderNode (renderPlainBlock kind literal ys)) := by
  unfold Treatment.renderPlainBlock
  rw [h.isEmpty]
  split
  · exact Alike.refl _
  · split
    · exact h.renderChildren true _
    · exact h.renderChildren false _

theorem ReadAlike.renderLink (h : ReadAlike xs ys) (kind : Kind) (href : Option Value) (literal : Literal) :
    Alike (perform plain.renderNode (renderLink kind href literal xs))
      (perform plain.renderNode (renderLink kind href literal ys)) := by
  cases href with
  | none => exact Alike.refl _
  | some target => exact h.childrenOr _ true _

theorem ReadAlike.renderImage (h : ReadAlike xs ys) (kind : Kind) (href : Option Value) (literal : Literal) :
    Alike (perform plain.renderNode (renderImage kind href literal xs))
      (perform plain.renderNode (renderImage kind href literal ys)) := by
  cases href with
  | none => exact Alike.refl _
  | some target =>
    simp only [Treatment.renderImage, h.isEmpty]
    split
    · exact Alike.refl _
    · exact h.renderChildren true _

/-- the two ways of a paragraph come to the same where its only child is not broken off -/
theorem alike_renderParagraph (h : ∀ x labels u, xs = [x] → OwnText labels x u → u.getLast? ≠ some '\n') :
    Alike (perform plain.renderNode (renderParagraph xs))
      (perform plain.renderNode (.renderChildren xs true fun t => .done (t ++ blockEnd))) := by
  by_cases hshort : ∃ x, xs = [x] ∧ x.isReference = true
  · obtain ⟨x, rfl, hx⟩ := hshort
    have hdone : perform plain.renderNode (.render x .done) = plain.renderNode x := bind_pure _
    have hlonger : perform plain.renderNode (.renderChildren [x] true fun t => .done (t ++ blockEnd)) =
        plain.renderNode x >>= (fun t => Pure.pure (dropTrailingNewlines t)) >>=
          fun t => Pure.pure (t ++ blockEnd) := by
      rw [← renderChildren_only hx]
      rfl
    rw [renderParagraph_only hx, hdone, hlonger]
    intro labels
    rw [result_bind_pure, result_bind_pure, labels_bind_pure, labels_bind_pure]
    refine ⟨?_, rfl⟩
    cases hresult : (plain.renderNode x labels).result with
    | error f => rfl
    | ok t =>
      obtain ⟨u, hu, rfl⟩ := (renderNode_eq_ok_iff_ownText hx).1 hresult
      have hwhole : dropTrailingNewlines u = u := dropTrailingNewlines_eq_self_iff.2 (h x labels u rfl hu)
      simp only [Except.map, dropTrailingNewlines_append_blockEnd, hwhole]
  · have hnone : ∀ x, xs = [x] → x.isReference = false := by
      intro x hxs
      exact Bool.eq_false_iff.2 fun hx => hshort ⟨x, hxs, hx⟩
    rw [renderParagraph_children hnone]
    exact Alike.refl _

end

/-! ## The recursion -/

/-- the second node is the first one with suppressed nodes put in, and renders as the first one -/
structure PaddedAlike (n m : Node) : Prop where
  padded : Padded n m
  alike : Alike (plain.renderNode n) (plain.renderNode m)

theorem hasKind_of_paddedAlike (n m : Node) (h : PaddedAlike n m) : m.hasKind .tableCell = n.hasKind .tableCell :=
  h.padded.hasKind_eq _

/-- scripts in lockstep over such nodes cannot be told apart -/
theorem PaddedAlike.alike_perform {s s' : Script} (h : s.Parallel PaddedAlike s') :
    Alike (perform plain.renderNode s) (perform plain.renderNode s') := by
  apply Render.alike_perform h
  · intro n m hnm
    exact hnm.padded.isInline_eq
  · intro n m hnm
    exact hnm.alike

theorem rowsAgree_of_padded {row row' : Node} (h : Padded row row')
    (hrow : ∀ n, rowNode row = .ok n → ∀ m, Padded n m → PaddedAlike n m) : RowsAgree PaddedAlike row row' := by
  cases h with
  | @element head _ _ _ _ _ _ _ _ room below inItems inHeader inRows =>
    by_cases hk : head.kind = .tableRow
    · exact .nodes (if_pos hk) (if_pos hk) (hrow _ (if_pos hk) _ (.element room below inItems inHeader inRows))
    · exact .fault (if_neg hk) (if_neg hk)
  | cells below =>
    exact .nodes rfl rfl (hrow _ rfl _ (.element (.inl below.length_eq.symm) (.of_forall₂ below) .none .none .none))
  | stray value => exact .fault rfl rfl

/-- the own text of a node is that of any that renders alike -/
theorem ownText_of_alike {x y : Node} (h : PaddedAlike x y) {u : Text} (hu : OwnText labels y u) :
    OwnText labels x u := by
  have hx : x.isReference = true := h.padded.isReference_eq.symm.trans hu.isReference
  have hreads : (plain.renderNode x labels).result = .ok (u ++ blockEnd) := (h.alike labels).1.trans hu.renders
  obtain ⟨v, hv, hsame⟩ := (renderNode_eq_ok_iff_ownText hx).1 hreads
  rwa [List.append_cancel_right hsame]

section

variable {head : Head} {children children' : List Node} {items items' header header' rows rows' : Option (List Node)}
  (hpart : ∀ x, IsPart x (.element head children items header rows) → ∀ y, Padded x y → PaddedAlike x y)

include hpart

theorem readAlike_children (hlist : head.kind ≠ .list) (htable : head.kind ≠ .table)
    (hroom : children'.length = children.length ∨ ∃ n ∈ children, n.isSuppressed = false)
    (below : Interspersed Padded children children') : ReadAlike children children' where
  isEmpty := below.isEmpty_eq hroom
  joined := by
    apply alike_interspersed below
    intro x hx y hxy
    exact (hpart x (.child hlist htable hx) y hxy).alike

theorem alike_paragraph (hlist : head.kind ≠ .list) (htable : head.kind ≠ .table)
    (hn : (Node.element head children items header rows).Unbroken)
    (below : Interspersed Padded children children') (hread : ReadAlike children children') :
    Alike (perform plain.renderNode (renderParagraph children))
      (perform plain.renderNode (renderParagraph children')) := by
  have hchild : ∀ x ∈ children, IsPart x (.element head children items header rows) := by
    intro x hx
    exact .child hlist htable hx
  have hxs : ∀ x labels u, children = [x] → OwnText labels x u → u.getLast? ≠ some '\n' := by
    rintro x labels u rfl hu
    exact getLast?_ownText (hn.of_isPart (hchild x List.mem_cons_self)) hu
  have hys : ∀ y labels u, children' = [y] → OwnText labels y u → u.getLast? ≠ some '\n' := by
    rintro y labels u rfl hu
    -- a link or an image is not put in, so there was one, and it was the only child
    obtain ⟨x, rfl, hxy⟩ := below.eq_singleton (isSuppressed_of_isReference hu.isReference)
    exact hxs x labels u rfl (ownText_of_alike (hpart x (hchild x List.mem_cons_self) y hxy) hu)
  calc
    Alike _ (perform plain.renderNode (.renderChildren children true fun t => .done (t ++ blockEnd))) :=
      alike_renderParagraph hxs
    Alike _ (perform plain.renderNode (.renderChildren children' true fun t => .done (t ++ blockEnd))) :=
      hread.renderChildren true _
    Alike _ (perform plain.renderNode (renderParagraph children')) := (alike_renderParagraph hys).symm

theorem alike_list (hk : head.kind = .list) (inItems : Option.Rel (List.Forall₂ Padded) items items') :
    Alike (perform plain.renderNode (renderList head.kind items))
      (perform plain.renderNode (renderList head.kind items')) := by
  apply PaddedAlike.alike_perform
  apply parallel_renderList
  apply rel_imp_of_mem inItems
  rintro given rfl x hx
  exact hpart x (.item hk hx)

theorem alike_table (hk : head.kind = .table) (inHeader : Option.Rel (List.Forall₂ Padded) header header')
    (inRows : Option.Rel (List.Forall₂ Padded) rows rows') :
    Alike (perform plain.renderNode (renderTable head.kind header rows))
      (perform plain.renderNode (renderTable head.kind header' rows')) := by
  apply PaddedAlike.alike_perform
  apply parallel_renderTable _ hasKind_of_paddedAlike
  · apply rel_imp_of_mem inHeader
    rintro given rfl x hx
    exact hpart x (.entry hk hx)
  · apply rel_imp_of_mem inRows
    rintro given rfl row hrow row' hpadded
    exact rowsAgree_of_padded hpadded fun x hx => hpart x (.row hk hrow hx)

theorem alike_row (hk : head.kind = .tableRow) (hlength : children'.length = children.length)
    (below : Interspersed Padded children children') :
    Alike (perform plain.renderNode (renderCells [] children))
      (perform plain.renderNode (renderCells [] children')) := by
  apply PaddedAlike.alike_perform
  apply parallel_renderCells hasKind_of_paddedAlike
  apply forall₂_imp_of_mem (below.forall₂ hlength)
  intro x hx
  exact hpart x (.child (by simp [hk]) (by simp [hk]) hx)

end

/-- **A node with suppressed nodes put in renders as before.** -/
theorem alike_renderNode_of_padded {n m : Node} (hn : n.Unbroken) (h : Padded n m) :
    Alike (plain.renderNode n) (plain.renderNode m) := by
  induction n using induction_isPart generalizing m with
  | cells entries =>
    cases h
    rw [renderNode_cells, renderNode_cells]
    exact Alike.refl _
  | stray value =>
    cases h
    exact Alike.refl _
  | element head children items header rows ih =>
    obtain @⟨_, _, children', _, items', _, header', _, rows', room, below, inItems, inHeader, inRows⟩ := h
    have hpart : ∀ x, IsPart x (.element head children items header rows) → ∀ y, Padded x y → PaddedAlike x y := by
      intro x hx y hxy
      exact ⟨hxy, ih x hx (hn.of_isPart hx) hxy⟩
    have hlist : ofKind head.kind ≠ .list → head.kind ≠ .list := mt ofKind_eq_list.2
    have htable : ofKind head.kind ≠ .table → head.kind ≠ .table := mt ofKind_eq_table.2
    have hread : ofKind head.kind ≠ .list → ofKind head.kind ≠ .table → ReadAlike children children' := by
      intro hl ht
      exact readAlike_children hpart (hlist hl) (htable ht) (room.imp_right And.right) below
    rw [renderNode_element, renderNode_element]
    refine (Alike.refl _).bind fun _ => ?_
    cases hk : ofKind head.kind with
    | suppressed | escapedBlock => exact Alike.refl _
    | inline => exact (hread (by simp [hk]) (by simp [hk])).childrenOr _ true _
    | plainBlock => exact (hread (by simp [hk]) (by simp [hk])).renderPlainBlock _ _
    | paragraph =>
      exact alike_paragraph hpart (hlist (by simp [hk])) (htable (by simp [hk])) hn below
        (hread (by simp [hk]) (by simp [hk]))
    | link => exact (hread (by simp [hk]) (by simp [hk])).renderLink _ _ _
    | image => exact (hread (by simp [hk]) (by simp [hk])).renderImage _ _ _
    | list => exact alike_list hpart (ofKind_eq_list.1 hk) inItems
    | listItem => exact (hread (by simp [hk]) (by simp [hk])).renderChildren false _
    | table => exact alike_table hpart (ofKind_eq_table.1 hk) inHeader inRows
    | tableRow =>
      -- nothing is put among the cells of a row
      have hrow := ofKind_eq_tableRow.1 hk
      exact alike_row hpart hrow (room.resolve_right fun hroom => hroom.1 hrow) below
    | tableCell => exact (hread (by simp [hk]) (by simp [hk])).renderChildren true _

end Renderer

/-! ## Main result -/

/-- **Suppressed nodes leave no trace.** Take a document in which no literal ends with a line feed but those of
suppressed nodes. Put suppressed nodes, whatever they hold, anywhere among the nodes of the document, and at any depth
among the children of nodes that are no rows and have a child that is not suppressed already. The result is the same
text as before, or the same fault. -/
theorem suppressed_leave_no_trace (nodes nodes' : List Node)
    (hends : ∀ n ∈ Node.walkAll nodes, n.breaksLine = false) (h : Interspersed Padded nodes nodes') :
    (Renderer.plain.renderToText nodes').result = (Renderer.plain.renderToText nodes).result := by
  have hunbroken : ∀ n ∈ nodes, n.Unbroken := by
    intro n hn m hm
    exact .inr (hends m (mem_walkAll.2 ⟨n, hn, hm⟩))
  have hnodes : ∀ n ∈ nodes, ∀ m, Padded n m →
      Render.Alike (Renderer.plain.renderNode n) (Renderer.plain.renderNode m) := by
    intro n hn m hnm
    exact Renderer.alike_renderNode_of_padded (hunbroken n hn) hnm
  have halike := Renderer.alike_interspersed h hnodes false
  rw [Renderer.renderToText_result, Renderer.renderToText_result]
  exact (halike []).1.symm

/-- a link that is the only child of a paragraph, and a table -/
def bareDocument : List Node :=
  [Build.paragraph [.node (Build.link (some (.text "u")) none [.text ['l']])],
    Build.table [.text ['a']] [.cells [.text ['b']]]]

/-- the same with a mark before the link, a break in it, a rule before the table and blank space in its header cell -/
def markedDocument : List Node :=
  let link := Build.link (some (.text "u")) none [.text ['l'], .node Build.lineBreak]
  let header := Build.tableCell true [.node Build.space, .text ['a']]
  [Build.paragraph [.node (Build.checkbox true), .node link], Build.horizontalRule,
    Build.table [.node header] [.cells [.text ['b']]]]

theorem padded_bareDocument : Interspersed Padded bareDocument markedDocument := by
  have haround : ∀ head n children', head.kind ≠ .tableRow → n.isSuppressed = false →
      Interspersed Padded [n] children' →
        Padded (.element head [n] none none none) (.element head children' none none none) := by
    intro head n children' hrow hn hchildren
    exact .element (.inr ⟨hrow, n, List.mem_cons_self, hn⟩) hchildren .none .none .none
  refine .cons (haround _ _ _ (by decide) rfl (.inserted rfl (.cons ?_ .nil))) (.inserted rfl (.cons ?_ .nil))
  · exact haround _ _ _ (by decide) rfl (.cons (.refl _) (.inserted rfl .nil))
  · have hheader : Padded (Build.tableCell true [.text ['a']])
        (Build.tableCell true [.node Build.space, .text ['a']]) :=
      haround _ _ _ (by decide) rfl (.inserted rfl (.cons (.refl _) .nil))
    exact .element (.inl rfl) .nil .none (.some (.cons hheader .nil)) (.some (.cons (.refl _) .nil))

theorem suppressed_leave_no_trace_marks :
    (∀ n ∈ Node.walkAll bareDocument, n.breaksLine = false) ∧
      (Renderer.plain.renderToText markedDocument).result = (Renderer.plain.renderToText bareDocument).result ∧
      (Renderer.plain.renderToText markedDocument).result = .ok ['l', '\n', '\n', 'a', ':', ' ', 'b', '\n', '\n'] := by
  have hends : ∀ n ∈ Node.walkAll bareDocument, n.breaksLine = false := by decide
  exact ⟨hends, suppressed_leave_no_trace bareDocument markedDocument hends padded_bareDocument, rfl⟩

-- where a literal ends with a line feed, a mark before the image makes a paragraph take its longer way
example :
    let image := Build.image ['a', '\n'] (some (.text "u")) none
    (Renderer.plain.renderToText [Build.paragraph [.node image]]).result = .ok ['a', '\n', '\n', '\n'] ∧
      (Renderer.plain.renderToText [Build.paragraph [.node (Build.checkbox true), .node image]]).result =
        .ok ['a', '\n', '\n'] :=
  ⟨rfl, rfl⟩

end Unmark
