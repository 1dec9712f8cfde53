import Mathlib.Logic.Relation
import Unmark.Proofs.Render.InlineContainers
/-!
Blocks around blocks. A block ends what it holds as a block again, so a node that is wrapped many times over would end
in many blank lines if nothing was taken away. Headings and links take the end of the inner block away as they put it
inside a line, quotations and nodes without rules of their own as they trim it, and a paragraph around a link or an
image puts nothing of its own around it.

Each way around a trimmed block gives that block back (`Node.Wraps.reads`), hence so does any chain of them.
-/
namespace Unmark

open Text

/-- what may stand around a single block: a heading, a paragraph, a quotation, a node without rules of its own, and a
link with a target -/
def Head.isWrapper (head : Head) : Bool :=
  match head.kind with
  | .heading | .paragraph | .blockquote | .generic | .other _ => true
  | .link => head.href.isSome
  | _ => false

theorem Head.isWrapper_cases {head : Head} (h : head.isWrapper = true) :
    head.kind = .heading ∨ head.kind = .paragraph ∨ head.kind = .link ∧ head.href.isSome = true ∨
      Treatment.ofKind head.kind = .plainBlock ∧ head.kind ≠ .heading := by
  unfold isWrapper at h
  split at h <;> simp_all [Treatment.ofKind]

/-- wrappers are blocks -/
theorem Head.isInline_of_isWrapper {head : Head} (h : head.isWrapper = true) : head.kind.isInline = false := by
  unfold isWrapper at h
  split at h <;> simp_all [Kind.isInline, Kind.behaviour]

/-- the second node stands around the first one and holds no other child -/
inductive Node.Wraps (inner : Node) : Node → Prop
  | around {head : Head} {items header rows : Option (List Node)} (wrapper : head.isWrapper = true) :
      Wraps inner (.element head [inner] items header rows)

/-! ## Trimmed texts -/

namespace Text

variable {c : Text}

theorem trimStart_of_trim (h : trim c = c) : trimStart c = c := by
  rw [← h]
  exact trimStart_trim c

theorem trimEnd_of_trim (h : trim c = c) : trimEnd c = c := by
  rw [← h]
  exact trimEnd_trim c

/-- of a trimmed block, trimming leaves the text -/
theorem trim_append_blockEnd (h : trim c = c) : trim (c ++ blockEnd) = c := by
  have hends : c ++ blockEnd = c ++ ['\n'] ++ ['\n'] := by simp [blockEnd]
  cases c with
  | nil => rfl
  | cons d rest =>
    rw [trim, trimStart_append (by simp) (trimStart_of_trim h), hends, trimEnd_newline, trimEnd_newline]
    exact trimEnd_of_trim h

/-- and so does dropping its last line feeds -/
theorem dropTrailingNewlines_of_trim (h : trim c = c) : dropTrailingNewlines (c ++ blockEnd) = c := by
  rw [dropTrailingNewlines_append_blockEnd, dropTrailingNewlines_eq_self_iff]
  intro hlast
  cases trimEnd_eq_self_iff.1 (trimEnd_of_trim h) '\n' hlast

end Text

namespace Renderer

open Render Treatment

variable {n : Node} {labels : LabelStack}

/-! ## A single child -/

theorem result_renderChildren_singleton {t : Text} (h : (plain.renderNode n labels).result = .ok t) (inline : Bool) :
    (plain.renderChildren inline [n] labels).result =
      .ok (if inline && !n.isInline then dropTrailingNewlines t else t) := by
  rw [renderChildren, inOrder, bind_ok (text?_of_ok h)]
  exact congrArg Except.ok (List.append_nil _)

/-- a quotation or a node without rules of its own -/
theorem result_quotation {head : Head} (hk : ofKind head.kind = .plainBlock) (hline : head.kind ≠ .heading)
    {xs : List Node} (hne : xs ≠ []) (items header rows : Option (List Node)) (labels : LabelStack) :
    (plain.renderNode (.element head xs items header rows) labels).result =
      (plain.renderChildren false xs labels).result.map (trim · ++ blockEnd) := by
  have hscript : (ofKind head.kind).handler (.element head xs items header rows) =
      .renderChildren xs false fun t => .done (trim t ++ blockEnd) := by
    simp [hk, handler, renderPlainBlock, hne, hline]
  rw [renderNode_element, result_note_bind, hscript]
  exact result_bind_pure (plain.renderChildren false xs) (trim · ++ blockEnd) labels

/-- a block that reads as a trimmed text -/
structure ReadsTrimmed (labels : LabelStack) (c : Text) (n : Node) : Prop where
  block : n.isInline = false
  reads : (plain.renderNode n labels).result = .ok (c ++ blockEnd)

variable {c : Text}

/-- inside a line the trimmed text is left of it -/
theorem ReadsTrimmed.inside (h : ReadsTrimmed labels c n) (hc : trim c = c) :
    (plain.renderChildren true [n] labels).result = .ok c := by
  rw [result_renderChildren_singleton h.reads, h.block]
  exact congrArg Except.ok (dropTrailingNewlines_of_trim hc)

/-- **One block around another.** It reads as the block that it holds. -/
theorem ReadsTrimmed.of_wraps {outer : Node} (h : ReadsTrimmed labels c n) (hc : trim c = c) (hwraps : n.Wraps outer) :
    ReadsTrimmed labels c outer := by
  obtain @⟨head, items, header, rows, wrapper⟩ := hwraps
  refine ⟨Head.isInline_of_isWrapper wrapper, ?_⟩
  have hne : [n] ≠ [] := by simp
  have hholds : ∀ k, head.kind = k → (Node.element head [n] items header rows).Holds k [n] :=
    fun k hk => ⟨by simp [Node.hasKind, hk], rfl⟩
  rcases Head.isWrapper_cases wrapper with hk | hk | ⟨hk, htarget⟩ | ⟨hk, hline⟩
  · rw [result_heading (hholds _ hk) hne, h.inside hc]
    rfl
  · -- the shorter way leaves the text alone, the longer one takes its end away and puts it back
    by_cases hreference : n.isReference = true
    · rw [result_paragraph_only (hholds _ hk) hreference, h.reads]
    · have honly : ∀ x, [n] = [x] → x.isReference = false := by
        rintro x ⟨⟩
        exact Bool.eq_false_iff.2 hreference
      rw [result_paragraph (hholds _ hk) honly, h.inside hc]
      rfl
  · rw [result_link (hholds _ hk) hne htarget, h.inside hc]
    rfl
  · have hchild : (plain.renderChildren false [n] labels).result = .ok (c ++ blockEnd) :=
      result_renderChildren_singleton h.reads false
    rw [result_quotation hk hline hne, hchild]
    exact congrArg (fun t => Except.ok (t ++ blockEnd)) (trim_append_blockEnd hc)

/-- any number of blocks around another -/
theorem ReadsTrimmed.of_chain {outer : Node} (h : ReadsTrimmed labels c n) (hc : trim c = c)
    (hchain : Relation.ReflTransGen Node.Wraps n outer) : ReadsTrimmed labels c outer := by
  induction hchain with
  | refl => exact h
  | tail _ hwraps ih => exact ih.of_wraps hc hwraps

end Renderer

/-! ## Main result -/

open Renderer in
/-- **Ends of blocks do not pile up.** Let a node that stands in no line read, in some context, as a text without
blanks at its ends, closed as a block. The text may be empty and may span several lines. Put any number of headings,
paragraphs, quotations, links with a target and nodes without rules of their own around the node, each around the one
before and around nothing else, in any order. In the same context, all of it reads as the node alone. -/
theorem ends_of_blocks_merge (n outer : Node) (labels : LabelStack) (c : Text) (hblock : n.isInline = false)
    (htrim : trim c = c) (hreads : (plain.renderNode n labels).result = .ok (c ++ ['\n', '\n']))
    (hchain : Relation.ReflTransGen Node.Wraps n outer) :
    (plain.renderNode outer labels).result = .ok (c ++ ['\n', '\n']) := by
  have hinner : ReadsTrimmed labels c n := ⟨hblock, hreads⟩
  exact (hinner.of_chain htrim hchain).reads

def gappedCode : Node := Build.codeBlock ['a', '\n', '\n', '<'] none

/-- the code in a link in a paragraph in a node of an unknown kind in a heading in a quotation -/
def wrappedCode : Node :=
  let link := Build.link (some (.text "u")) none [.node gappedCode]
  Build.blockquote
    [.node (.branch .heading [.branch (.other "aside") [Build.paragraph [.node link]]])]

open Renderer in
theorem ends_of_blocks_merge_wrappedCode :
    (plain.renderNode gappedCode []).result = .ok ['a', '\n', '\n', '&', 'l', 't', ';', '\n', '\n'] ∧
      (plain.renderNode wrappedCode []).result = .ok ['a', '\n', '\n', '&', 'l', 't', ';', '\n', '\n'] := by
  have hchain : Relation.ReflTransGen Node.Wraps gappedCode wrappedCode :=
    .tail (.tail (.tail (.tail (.tail .refl (.around rfl)) (.around rfl)) (.around rfl)) (.around rfl)) (.around rfl)
  exact ⟨rfl, ends_of_blocks_merge gappedCode wrappedCode [] ['a', '\n', '\n', '&', 'l', 't', ';'] rfl (by decide) rfl
    hchain⟩

end Unmark
