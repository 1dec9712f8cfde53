import Mathlib.Data.List.Forall2
import Unmark.Markdown.Nodes
import Unmark.Proofs.Document.WellFormed
/-!
Conversion of well-typed tokens. What a tokenizer may hand over is taken loosely here: types may be unknown, tokens
may stand anywhere, and most attributes may hold anything. All that is asked is that raw text is text, that what a
token holds inside is a list of tokens, and that targets and info strings are text where they are given.

A token is read by its place, whatever type it names: as a node, as an item of a list, as a section, a row or a cell of
a table, or as a piece of alternative text. `Converts` says of one token that each reading gives what is well-formed in
its place; it holds of a token if it holds of the tokens inside (`converts_entry`), hence of every token (`converts`).

Results:
- conversion gives one node for each token, in order (`toNodes_eq_ok_iff`);
- well-typed tokens convert to a well-formed document, which renders to a text.
-/
namespace Unmark

/-! ## Well-typed tokens -/

namespace TokenHead

def isTextOrAbsent : Option Value → Bool
  | none => true
  | some (.text _) => true
  | some _ => false

def isTextOrNull : Option Value → Bool
  | some .null => true
  | field => isTextOrAbsent field

/-- type, raw text and target are texts where they are given, and so is the info string unless it is null -/
def wellTyped (h : TokenHead) : Bool :=
  isTextOrAbsent h.type && isTextOrAbsent h.raw && isTextOrAbsent (h.attribute? "url") &&
    isTextOrNull (h.attribute? "info")

end TokenHead

def Inner.tokens : Inner → List Token
  | .list tokens => tokens
  | _ => []

mutual

/-- the token is one, its fields are well-typed, and so are the tokens inside -/
def Token.wellTyped : Token → Bool
  | .entry head inner => head.wellTyped && inner.wellTyped
  | .stray _ => false

/-- nothing is said of tokens inside, or there is a list of well-typed ones -/
def Inner.wellTyped : Inner → Bool
  | .absent => true
  | .list tokens => Token.wellTypedAll tokens
  | .other _ => false

def Token.wellTypedAll : List Token → Bool
  | [] => true
  | t :: rest => t.wellTyped && Token.wellTypedAll rest

end

theorem Token.wellTypedAll_iff {tokens : List Token} :
    Token.wellTypedAll tokens = true ↔ ∀ t ∈ tokens, t.wellTyped = true := by
  induction tokens with
  | nil => simp [Token.wellTypedAll]
  | cons t rest ih => simp [Token.wellTypedAll, ih]

/-- what a well-typed token holds inside: nothing, or a list of well-typed tokens -/
theorem Inner.wellTyped_cases {inner : Inner} (h : inner.wellTyped = true) :
    inner = .absent ∨ ∃ tokens, inner = .list tokens ∧ ∀ t ∈ tokens, t.wellTyped = true := by
  cases inner with
  | absent => exact .inl rfl
  | list tokens => exact .inr ⟨tokens, rfl, Token.wellTypedAll_iff.1 h⟩
  | other v => cases h

/-- induction along the tokens inside -/
theorem Token.induction_inner {motive : Token → Prop}
    (entry : ∀ head inner, (∀ t ∈ inner.tokens, motive t) → motive (.entry head inner))
    (stray : ∀ value, motive (.stray value)) (t : Token) : motive t := by
  refine @Token.rec motive (fun inner => ∀ t ∈ inner.tokens, motive t) (fun tokens => ∀ t ∈ tokens, motive t)
    entry stray ?absent ?list ?other ?nil ?cons t
  case absent => simp [Inner.tokens]
  case list =>
    intro tokens ih
    exact ih
  case other => simp [Inner.tokens]
  case nil => simp
  case cons =>
    intro first rest ihFirst ihRest
    exact List.forall_mem_cons.2 ⟨ihFirst, ihRest⟩

/-! ## Computations that give a result -/

namespace Logged

variable {α β : Type}

/-- the computation ends with a result, and the result is as said -/
def Gives (x : Logged α) (post : α → Prop) : Prop := ∃ a, x.result = .ok a ∧ post a

theorem gives_pure {a : α} {post : α → Prop} (h : post a) : (Pure.pure a : Logged α).Gives post := ⟨a, rfl, h⟩

theorem gives_note (e : Event) : (note e).Gives fun _ => True := ⟨(), rfl, trivial⟩

theorem gives_ofExcept {r : Except Fault α} {a : α} (h : r = .ok a) : (ofExcept r).Gives (· = a) := ⟨a, h, rfl⟩

theorem Gives.bind {x : Logged α} {f : α → Logged β} {mid : α → Prop} {post : β → Prop} (hx : x.Gives mid)
    (hf : ∀ a, mid a → (f a).Gives post) : (x >>= f).Gives post := by
  obtain ⟨a, ha, hmid⟩ := hx
  obtain ⟨b, hb, hpost⟩ := hf a hmid
  refine ⟨b, ?_, hpost⟩
  rw [result_bind, ha]
  exact hb

/-- one after the other -/
theorem Gives.cons {x : Logged α} {xs : Logged (List α)} {post : α → Prop} (hx : x.Gives post)
    (hxs : xs.Gives fun as => ∀ a ∈ as, post a) :
    (x >>= fun a => xs >>= fun as => Pure.pure (a :: as)).Gives fun as => ∀ a ∈ as, post a := by
  refine hx.bind fun a ha => ?_
  refine hxs.bind fun as has => ?_
  exact gives_pure (List.forall_mem_cons.2 ⟨ha, has⟩)

end Logged

/-! ## The fields of a token -/

namespace TokenHead

variable {h : TokenHead}

theorem isTextOrAbsent_cases {field : Option Value} (hf : isTextOrAbsent field = true) :
    field = none ∨ ∃ s, field = some (.text s) := by
  cases field with
  | none => exact .inl rfl
  | some v =>
    cases v with
    | text s => exact .inr ⟨s, rfl⟩
    | _ => cases hf

theorem wellTyped_fields (hw : h.wellTyped = true) :
    isTextOrAbsent h.type = true ∧ isTextOrAbsent h.raw = true ∧ isTextOrAbsent (h.attribute? "url") = true ∧
      isTextOrNull (h.attribute? "info") = true := by
  simp only [wellTyped, Bool.and_eq_true] at hw
  exact ⟨hw.1.1.1, hw.1.1.2, hw.1.2, hw.2⟩

theorem tokenType?_eq_ok (hw : h.wellTyped = true) : ∃ type, h.tokenType? = .ok type := by
  unfold tokenType? typeValue
  rcases isTextOrAbsent_cases (wellTyped_fields hw).1 with ht | ⟨s, ht⟩ <;> rw [ht] <;> exact ⟨_, rfl⟩

theorem language_eq_ok (hw : h.wellTyped = true) : ∃ language, h.language = .ok language := by
  obtain ⟨-, -, -, hinfo⟩ := wellTyped_fields hw
  unfold language
  split
  · exact ⟨_, rfl⟩
  · rename_i v hnot hv
    rw [hv] at hinfo
    cases v with
    | null => exact ⟨none, rfl⟩
    | text s => exact absurd rfl (hnot s)
    | _ => cases hinfo
  · exact ⟨_, rfl⟩

theorem blockText_eq_ok (hw : h.wellTyped = true) : ∃ t, h.blockText = .ok t := by
  unfold blockText
  rcases isTextOrAbsent_cases (wellTyped_fields hw).2.1 with hr | ⟨s, hr⟩ <;> rw [hr] <;> exact ⟨_, rfl⟩

theorem literal_eq_text (hw : h.wellTyped = true) : ∃ t, h.literal = .text t := by
  unfold literal
  rcases isTextOrAbsent_cases (wellTyped_fields hw).2.1 with hr | ⟨s, hr⟩ <;> rw [hr] <;> exact ⟨_, rfl⟩

theorem looseLiteral_eq_text (hw : h.wellTyped = true) : ∃ t, h.looseLiteral = .text t := by
  unfold looseLiteral
  rcases isTextOrAbsent_cases (wellTyped_fields hw).2.1 with hr | ⟨s, hr⟩ <;> rw [hr] <;> exact ⟨_, rfl⟩

theorem target_isSome (hw : h.wellTyped = true) : h.target.isSome = true := by
  unfold target
  rcases isTextOrAbsent_cases (wellTyped_fields hw).2.2.1 with hr | ⟨s, hr⟩ <;> rw [hr] <;> rfl

/-- whatever the attribute holds -/
theorem level_bounds (h : TokenHead) : 1 ≤ h.level ∧ h.level ≤ 6 := by
  unfold level
  split
  · split
    · assumption
    · omega
  · omega

theorem marker_wellFormed (h : TokenHead) : h.marker = [] ∨ ∃ n, h.marker = [n] ∧ n.wellFormed .opening = true := by
  unfold marker
  split
  · right
    refine ⟨_, rfl, ?_⟩
    cases h.isMarked "checked" <;> rfl
  · exact .inl rfl

end TokenHead

/-! ## Well-formed nodes -/

namespace Node

/-- kinds that stand anywhere and hold nothing but what stands anywhere -/
def isSimple : Kind → Bool
  | .list | .listItem | .table | .tableRow | .tableCell | .lineBreak | .checkbox => false
  | _ => true

theorem wellFormed_simple {head : Head} {children : List Node} (hkind : isSimple head.kind = true)
    (hcomplete : head.isComplete = true) (hchildren : ∀ n ∈ children, n.wellFormed .flow = true) :
    (element head children none none none).wellFormed .flow = true := by
  have hall : wellFormedAll .flow .flow children = true := wellFormedAll_iff.2 hchildren
  simp only [wellFormed, wellFormedIf, hcomplete, Position.admits]
  cases hk : head.kind <;> simp_all [isSimple, Position.ofFirst, Position.ofOthers]

theorem wellFormed_leaf {head : Head} (hkind : isSimple head.kind = true) (hcomplete : head.isComplete = true) :
    (element head [] none none none).wellFormed .flow = true :=
  wellFormed_simple hkind hcomplete (by simp)

/-- an item may open with the marker of its task -/
theorem wellFormed_listItem {position : Position} (hadmits : position.admits { kind := .listItem } = true)
    (h : TokenHead) {children : List Node} (hchildren : ∀ n ∈ children, n.wellFormed .flow = true) :
    (branch .listItem (h.marker ++ children)).wellFormed position = true := by
  have hmembers : wellFormedAll .opening .flow (h.marker ++ children) = true := by
    rcases h.marker_wellFormed with hnone | ⟨n, hone, hn⟩
    · rw [hnone, List.nil_append]
      cases children with
      | nil => rfl
      | cons n rest =>
        obtain ⟨hn, hrest⟩ := List.forall_mem_cons.1 hchildren
        simp [wellFormedAll, wellFormed_opening hn, wellFormedAll_iff.2 hrest]
    · simp [hone, wellFormedAll, hn, wellFormedAll_iff.2 hchildren]
  simp [branch, wellFormed, wellFormedIf, hadmits, Head.isComplete, Position.ofFirst, Position.ofOthers, hmembers]

theorem wellFormed_list {ordered : Bool} {items : List Node} (h : ∀ n ∈ items, n.wellFormed .item = true) :
    (listNode ordered items).wellFormed .flow = true := by
  simp [listNode, wellFormed, wellFormedAll, wellFormedIf, Position.admits, Head.isComplete, wellFormedAll_iff.2 h]

theorem wellFormed_table {header rows : List Node} (hh : ∀ n ∈ header, n.wellFormed .headerCell = true)
    (hr : ∀ n ∈ rows, n.wellFormed .row = true) : (tableNode header rows).wellFormed .flow = true := by
  simp [tableNode, wellFormed, wellFormedAll, wellFormedIf, Position.admits, Head.isComplete,
    wellFormedAll_iff.2 hh, wellFormedAll_iff.2 hr]

theorem wellFormed_row {cells : List Node} (h : ∀ n ∈ cells, n.wellFormed .bodyCell = true) :
    (branch .tableRow cells).wellFormed .row = true := by
  simp [branch, wellFormed, wellFormedIf, Position.admits, Position.ofFirst, Position.ofOthers, Head.isComplete,
    wellFormedAll_iff.2 h]

def cellPosition (isHeader : Bool) : Position := if isHeader then .headerCell else .bodyCell

theorem wellFormed_cell (isHeader : Bool) {children : List Node} (h : ∀ n ∈ children, n.wellFormed .flow = true) :
    (element { kind := .tableCell, isHeaderCell := isHeader } children none none none).wellFormed
      (cellPosition isHeader) = true := by
  have hall := wellFormedAll_iff.2 h
  cases isHeader <;>
    simp [cellPosition, wellFormed, wellFormedIf, Position.admits, Position.ofFirst, Position.ofOthers,
      Head.isComplete, hall]

end Node

/-! ## The readings of a token -/

namespace Token

/-- however the token is read by its place, the reading gives what is well-formed there -/
structure Converts (t : Token) : Prop where
  node : t.toNode.Gives fun n => n.wellFormed .flow = true
  item : t.toItem.Gives fun items => ∀ n ∈ items, n.wellFormed .item = true
  /-- as a section of a table, after a header and rows that were found before -/
  part : ∀ header rows, (∀ n ∈ header, n.wellFormed .headerCell = true) → (∀ n ∈ rows, n.wellFormed .row = true) →
    (t.toSection header rows).Gives fun found =>
      (∀ n ∈ found.1, n.wellFormed .headerCell = true) ∧ ∀ n ∈ found.2, n.wellFormed .row = true
  row : t.toRow.Gives fun n => n.wellFormed .row = true
  cell : ∀ isHeader, (t.toCell isHeader).Gives fun n => n.wellFormed (Node.cellPosition isHeader) = true
  /-- as a piece of alternative text -/
  flat : ∃ s, t.flatText = .ok s

variable {tokens : List Token}

open Logged

theorem gives_toNodes (h : ∀ t ∈ tokens, t.Converts) :
    (toNodes tokens).Gives fun nodes => ∀ n ∈ nodes, n.wellFormed .flow = true := by
  induction tokens with
  | nil => rw [toNodes]; exact gives_pure (by simp)
  | cons t rest ih =>
    obtain ⟨ht, hrest⟩ := List.forall_mem_cons.1 h
    rw [toNodes]
    exact ht.node.cons (ih hrest)

theorem gives_toItems (h : ∀ t ∈ tokens, t.Converts) :
    (toItems tokens).Gives fun items => ∀ n ∈ items, n.wellFormed .item = true := by
  induction tokens with
  | nil => rw [toItems]; exact gives_pure (by simp)
  | cons t rest ih =>
    obtain ⟨ht, hrest⟩ := List.forall_mem_cons.1 h
    rw [toItems]
    refine ht.item.bind fun first hfirst => ?_
    refine (ih hrest).bind fun others hothers => ?_
    exact gives_pure (List.forall_mem_append.2 ⟨hfirst, hothers⟩)

theorem gives_toRows (h : ∀ t ∈ tokens, t.Converts) :
    (toRows tokens).Gives fun rows => ∀ n ∈ rows, n.wellFormed .row = true := by
  induction tokens with
  | nil => rw [toRows]; exact gives_pure (by simp)
  | cons t rest ih =>
    obtain ⟨ht, hrest⟩ := List.forall_mem_cons.1 h
    rw [toRows]
    exact ht.row.cons (ih hrest)

theorem gives_toCells (h : ∀ t ∈ tokens, t.Converts) (isHeader : Bool) :
    (toCells isHeader tokens).Gives fun cells => ∀ n ∈ cells, n.wellFormed (Node.cellPosition isHeader) = true := by
  induction tokens with
  | nil => rw [toCells]; exact gives_pure (by simp)
  | cons t rest ih =>
    obtain ⟨ht, hrest⟩ := List.forall_mem_cons.1 h
    rw [toCells]
    exact (ht.cell isHeader).cons (ih hrest)

theorem gives_toSections (h : ∀ t ∈ tokens, t.Converts) {header rows : List Node}
    (hh : ∀ n ∈ header, n.wellFormed .headerCell = true) (hr : ∀ n ∈ rows, n.wellFormed .row = true) :
    (toSections header rows tokens).Gives fun found =>
      (∀ n ∈ found.1, n.wellFormed .headerCell = true) ∧ ∀ n ∈ found.2, n.wellFormed .row = true := by
  induction tokens generalizing header rows with
  | nil => rw [toSections]; exact gives_pure ⟨hh, hr⟩
  | cons t rest ih =>
    obtain ⟨ht, hrest⟩ := List.forall_mem_cons.1 h
    rw [toSections]
    refine (ht.part header rows hh hr).bind fun found hfound => ?_
    exact ih hrest hfound.1 hfound.2

theorem flatTextAll_eq_ok (h : ∀ t ∈ tokens, t.Converts) : ∃ s, flatTextAll tokens = .ok s := by
  induction tokens with
  | nil => exact ⟨[], rfl⟩
  | cons t rest ih =>
    obtain ⟨ht, hrest⟩ := List.forall_mem_cons.1 h
    obtain ⟨first, hfirst⟩ := ht.flat
    obtain ⟨others, hothers⟩ := ih hrest
    refine ⟨first ++ others, ?_⟩
    rw [flatTextAll, hfirst, hothers]
    rfl

end Token

/-! ## What is inside -/

namespace Inner

open Logged

variable {inner : Inner}

theorem gives_toNodes (hw : inner.wellTyped = true) (h : ∀ t ∈ inner.tokens, t.Converts) :
    inner.toNodes.Gives fun nodes => ∀ n ∈ nodes, n.wellFormed .flow = true := by
  rcases wellTyped_cases hw with rfl | ⟨tokens, rfl, -⟩
  · exact gives_pure (by simp)
  · rw [toNodes]; exact Token.gives_toNodes h

theorem gives_toItems (hw : inner.wellTyped = true) (h : ∀ t ∈ inner.tokens, t.Converts) :
    inner.toItems.Gives fun items => ∀ n ∈ items, n.wellFormed .item = true := by
  rcases wellTyped_cases hw with rfl | ⟨tokens, rfl, -⟩
  · rw [toItems]; exact gives_pure (by simp)
  · rw [toItems]; exact Token.gives_toItems h

theorem gives_toSections (hw : inner.wellTyped = true) (h : ∀ t ∈ inner.tokens, t.Converts) :
    inner.toSections.Gives fun found =>
      (∀ n ∈ found.1, n.wellFormed .headerCell = true) ∧ ∀ n ∈ found.2, n.wellFormed .row = true := by
  rcases wellTyped_cases hw with rfl | ⟨tokens, rfl, -⟩
  · rw [toSections]; exact gives_pure ⟨by simp, by simp⟩
  · rw [toSections]; exact Token.gives_toSections h (by simp) (by simp)

theorem gives_toRows (hw : inner.wellTyped = true) (h : ∀ t ∈ inner.tokens, t.Converts) :
    inner.toRows.Gives fun rows => ∀ n ∈ rows, n.wellFormed .row = true := by
  rcases wellTyped_cases hw with rfl | ⟨tokens, rfl, -⟩
  · rw [toRows]; exact gives_pure (by simp)
  · rw [toRows]; exact Token.gives_toRows h

theorem gives_toCells (hw : inner.wellTyped = true) (h : ∀ t ∈ inner.tokens, t.Converts) (isHeader : Bool) :
    (inner.toCells isHeader).Gives fun cells => ∀ n ∈ cells, n.wellFormed (Node.cellPosition isHeader) = true := by
  rcases wellTyped_cases hw with rfl | ⟨tokens, rfl, -⟩
  · rw [toCells]; exact gives_pure (by simp)
  · rw [toCells]; exact Token.gives_toCells h isHeader

/-- a node around what is inside -/
theorem gives_around (hw : inner.wellTyped = true) (h : ∀ t ∈ inner.tokens, t.Converts) {outer : Head}
    (hkind : Node.isSimple outer.kind = true) (hcomplete : outer.isComplete = true) :
    (inner.toNodes >>= fun children => Pure.pure (Node.element outer children none none none)).Gives
      fun n => n.wellFormed .flow = true := by
  refine (gives_toNodes hw h).bind fun children hchildren => ?_
  exact gives_pure (Node.wellFormed_simple hkind hcomplete hchildren)

/-- an item around what is inside, with the marker of its task -/
theorem gives_item (hw : inner.wellTyped = true) (h : ∀ t ∈ inner.tokens, t.Converts) (head : TokenHead) :
    (inner.toNodes >>= fun children => Pure.pure (Node.branch .listItem (head.marker ++ children))).Gives
      fun n => n.wellFormed .flow = true := by
  refine (gives_toNodes hw h).bind fun children hchildren => ?_
  exact gives_pure (Node.wellFormed_listItem (by decide) head hchildren)

theorem flatText_eq_ok (hw : inner.wellTyped = true) (h : ∀ t ∈ inner.tokens, t.Converts) :
    ∃ s, inner.flatText = .ok s := by
  rcases wellTyped_cases hw with rfl | ⟨tokens, rfl, -⟩
  · exact ⟨[], rfl⟩
  · rw [flatText]; exact Token.flatTextAll_eq_ok h

end Inner

/-! ## Every token -/

namespace Token

open Logged

variable {head : TokenHead} {inner : Inner}

/-- a token of any type becomes a node that may stand anywhere -/
theorem gives_toNode (hhead : head.wellTyped = true) (hinner : inner.wellTyped = true)
    (h : ∀ t ∈ inner.tokens, t.Converts) : (entry head inner).toNode.Gives fun n => n.wellFormed .flow = true := by
  obtain ⟨type, htype⟩ := TokenHead.tokenType?_eq_ok hhead
  rw [toNode]
  refine (gives_ofExcept htype).bind fun found hfound => ?_
  subst hfound
  cases found with
  | none =>
    obtain ⟨t, ht⟩ := TokenHead.looseLiteral_eq_text hhead
    refine (gives_note _).bind fun _ _ => ?_
    rw [ht]
    exact inner.gives_around hinner h rfl rfl
  | some type =>
    cases type with
    | blankLine | thematicBreak | linebreak | softbreak => exact gives_pure (Node.wellFormed_leaf rfl rfl)
    | paragraph | blockText | blockQuote | strong | emphasis | strikethrough =>
      exact inner.gives_around hinner h rfl rfl
    | listItem | taskListItem => exact inner.gives_item hinner h head
    | text | codespan =>
      obtain ⟨t, ht⟩ := TokenHead.literal_eq_text hhead
      simp only [ht]
      exact gives_pure (Node.wellFormed_leaf rfl rfl)
    | blockCode =>
      obtain ⟨language, hlanguage⟩ := TokenHead.language_eq_ok hhead
      obtain ⟨code, hcode⟩ := TokenHead.blockText_eq_ok hhead
      refine (gives_ofExcept hlanguage).bind fun _ _ => ?_
      refine (gives_ofExcept hcode).bind fun _ _ => ?_
      exact gives_pure (Node.wellFormed_leaf rfl rfl)
    | blockHtml | inlineHtml =>
      obtain ⟨code, hcode⟩ := TokenHead.blockText_eq_ok hhead
      refine (gives_ofExcept hcode).bind fun _ _ => ?_
      exact gives_pure (Node.wellFormed_leaf rfl rfl)
    | heading =>
      obtain ⟨hlow, hhigh⟩ := head.level_bounds
      exact inner.gives_around hinner h rfl (by simp [Head.isComplete, hlow, hhigh])
    | list =>
      refine (inner.gives_toItems hinner h).bind fun items hitems => ?_
      exact gives_pure (Node.wellFormed_list hitems)
    | table =>
      refine (inner.gives_toSections hinner h).bind fun found hfound => ?_
      exact gives_pure (Node.wellFormed_table hfound.1 hfound.2)
    | link =>
      have htarget := TokenHead.target_isSome hhead
      exact inner.gives_around hinner h rfl (by simp [Head.isComplete, htarget])
    | image =>
      -- its text is the flattened text of what is inside, so nothing inside becomes a node
      have htarget := TokenHead.target_isSome hhead
      obtain ⟨alt, halt⟩ := inner.flatText_eq_ok hinner h
      refine (gives_ofExcept halt).bind fun _ _ => ?_
      exact gives_pure (Node.wellFormed_leaf rfl (by simp [Head.isComplete, htarget]))

theorem gives_toItem (hinner : inner.wellTyped = true) (h : ∀ t ∈ inner.tokens, t.Converts) :
    (entry head inner).toItem.Gives fun items => ∀ n ∈ items, n.wellFormed .item = true := by
  rw [toItem]
  refine (inner.gives_toNodes hinner h).bind fun children hflow => ?_
  have hitem := Node.wellFormed_listItem (by decide : Position.item.admits { kind := .listItem } = true) head hflow
  exact gives_pure (by simpa using hitem)

/-- a header takes the place of the one found before, rows of a body come after those found before, and a section of
any other type changes nothing -/
theorem gives_toSection (hinner : inner.wellTyped = true) (h : ∀ t ∈ inner.tokens, t.Converts) {header rows : List Node}
    (hheader : ∀ n ∈ header, n.wellFormed .headerCell = true) (hrows : ∀ n ∈ rows, n.wellFormed .row = true) :
    ((entry head inner).toSection header rows).Gives fun found =>
      (∀ n ∈ found.1, n.wellFormed .headerCell = true) ∧ ∀ n ∈ found.2, n.wellFormed .row = true := by
  rw [toSection]
  split
  · refine (inner.gives_toCells hinner h true).bind fun cells hcells => ?_
    exact gives_pure ⟨hcells, hrows⟩
  · split
    · refine (inner.gives_toRows hinner h).bind fun more hmore => ?_
      exact gives_pure ⟨hheader, List.forall_mem_append.2 ⟨hrows, hmore⟩⟩
    · exact gives_pure ⟨hheader, hrows⟩

theorem flatText_eq_ok (hhead : head.wellTyped = true) (hinner : inner.wellTyped = true)
    (h : ∀ t ∈ inner.tokens, t.Converts) : ∃ s, (entry head inner).flatText = .ok s := by
  rcases Inner.wellTyped_cases hinner with rfl | ⟨tokens, rfl, -⟩
  · obtain ⟨-, hraw, -, -⟩ := TokenHead.wellTyped_fields hhead
    rw [flatText]
    rcases TokenHead.isTextOrAbsent_cases hraw with hnone | ⟨s, hsome⟩
    · exact ⟨[], by rw [hnone]⟩
    · exact ⟨s.toList, by rw [hsome]⟩
  · rw [flatText]
    · exact Inner.flatText_eq_ok hinner h
    · simp

/-- the step: a token converts if what is inside it does -/
theorem converts_entry (hhead : head.wellTyped = true) (hinner : inner.wellTyped = true)
    (h : ∀ t ∈ inner.tokens, t.Converts) : (entry head inner).Converts where
  node := gives_toNode hhead hinner h
  item := gives_toItem hinner h
  part header rows hheader hrows := gives_toSection hinner h hheader hrows
  row := by
    rw [toRow]
    refine (inner.gives_toCells hinner h false).bind fun cells hcells => ?_
    exact gives_pure (Node.wellFormed_row hcells)
  cell isHeader := by
    rw [toCell]
    refine (inner.gives_toNodes hinner h).bind fun children hflow => ?_
    exact gives_pure (Node.wellFormed_cell isHeader hflow)
  flat := flatText_eq_ok hhead hinner h

/-- **Every well-typed token converts**, in whatever place. -/
theorem converts {t : Token} (h : t.wellTyped = true) : t.Converts := by
  induction t using induction_inner with
  | stray value => cases h
  | entry head inner ih =>
    simp only [wellTyped, Bool.and_eq_true] at h
    refine converts_entry h.1 h.2 fun t ht => ih t ht ?_
    rcases Inner.wellTyped_cases h.2 with rfl | ⟨tokens, rfl, htokens⟩
    · cases ht
    · exact htokens t ht

/-- conversion gives one node for each token, in order -/
theorem toNodes_eq_ok_iff {tokens : List Token} {nodes : List Node} :
    (toNodes tokens).result = .ok nodes ↔ List.Forall₂ (fun t n => t.toNode.result = .ok n) tokens nodes := by
  induction tokens generalizing nodes with
  | nil =>
    rw [toNodes, List.forall₂_nil_left_iff]
    exact ⟨fun h => by cases h; rfl, fun h => by rw [h]; rfl⟩
  | cons t rest ih =>
    rw [toNodes, result_bind]
    simp only [result_bind, result_pure]
    cases nodes with
    | nil => cases t.toNode.result <;> cases (toNodes rest).result <;> simp [Except.bind]
    | cons n others =>
      rw [List.forall₂_cons, ← ih]
      cases t.toNode.result <;> cases (toNodes rest).result <;> simp [Except.bind]

end Token

/-! ## Main result -/

/-- **Conversion is sound.** Well-typed tokens of any types, in any places, convert to one node each, in order. All
these nodes may stand anywhere in a document, all that they hold is well-formed, and so the built-in rendering gives a
text. -/
theorem conversion_sound (tokens : List Token) (h : Token.wellTypedAll tokens = true) :
    ∃ nodes, (Token.toNodes tokens).result = .ok nodes ∧
      List.Forall₂ (fun t n => t.toNode.result = .ok n) tokens nodes ∧
      (∀ n ∈ nodes, n.wellFormed .flow = true) ∧ ∃ t, (Renderer.plain.renderToText nodes).result = .ok t := by
  obtain ⟨nodes, hnodes, hflow⟩ := Token.gives_toNodes fun t ht => Token.converts (Token.wellTypedAll_iff.1 h t ht)
  refine ⟨nodes, hnodes, Token.toNodes_eq_ok_iff.1 hnodes, hflow, ?_⟩
  rw [Renderer.renderToText_result]
  exact Renderer.renders_of_wellFormed (fun n hn => ⟨.flow, hflow n hn⟩) false []

/-- a heading whose level is no number around a row that holds a link without a target, a list whose items are a task
and a cell, a table with a section of another type and with cells and rows of any types, a token without a type, and
code with a blank info string -/
def oddTokens : List Token :=
  let word : Token := .entry ⟨some (.text "text"), some (.text "w"), none⟩ .absent
  let typed (type : String) (inner : List Token) : Token := .entry ⟨some (.text type), none, none⟩ (.list inner)
  [.entry ⟨some (.text "heading"), none, some (.object [("level", .list [.null])])⟩
      (.list [typed "table_row" [typed "link" [word]]]),
    typed "list" [typed "task_list_item" [word], typed "table_cell" [word]],
    typed "table" [typed "table_head" [typed "heading" [word]], typed "caption" [word],
      typed "table_body" [typed "paragraph" [typed "table_cell" [word], typed "link" [word]]]],
    .entry ⟨none, some (.text "r"), some (.text "none")⟩ .absent,
    .entry ⟨some (.text "block_code"), some (.text "c\n"), some (.object [("info", .text " ")])⟩ .absent]

theorem conversion_sound_odd :
    Token.wellTypedAll oddTokens = true ∧
    (∃ nodes, (Token.toNodes oddTokens).result = .ok nodes ∧
      List.Forall₂ (fun t n => t.toNode.result = .ok n) oddTokens nodes ∧
      (∀ n ∈ nodes, n.wellFormed .flow = true) ∧ ∃ t, (Renderer.plain.renderToText nodes).result = .ok t) ∧
    (Token.toNodes oddTokens >>= Renderer.plain.renderToText).result =
      .ok "w\n\n\nw\nw\n\nw: w\n\nr\n\nc\n\n".toList :=
  ⟨by decide, conversion_sound oddTokens (by decide), by rfl⟩

end Unmark
