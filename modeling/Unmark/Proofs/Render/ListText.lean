import Mathlib.Data.List.Forall2
import Unmark.Document.Build
import Unmark.Proofs.Render.BuiltIn
import Unmark.Proofs.Text.Lines
/-!
The text of a list in closed form. Each item is put on a new line, squeezed, and joined to the others, and then the
whole is trimmed once more. What comes out is said by the entries, the contents of the items tidied one by one.

Results:
- `listText_eq`: the entries, a line feed between them, without the empty ones at both ends;
- `renderNode_list_eq_ok`: a list renders to a text exactly if its items do, one after the other;
- a list of list items reads as the closed form, and shows a blank line only where an empty item stands in between.
-/
namespace Unmark

open Text

/-! ## Entries -/

/-- what is left of the content of a list item -/
def entryText (content : Text) : Text := squeezeNewlines (trim content)

/-- the entries that show in a list, a line feed between them -/
def listBody (contents : List Text) : Text := ['\n'].intercalate (dropEmptyEnds (contents.map entryText))

theorem firm_entryText (content : Text) : Firm (entryText content) := firm_squeezeNewlines_trim content

/-- squeezing does not reach over the border between two items -/
theorem flatMap_squeezeNewlines (contents : List Text) :
    (contents.map fun c => '\n' :: trim c).flatMap squeezeNewlines = lines (contents.map entryText) := by
  induction contents with
  | nil => rfl
  | cons c rest ih =>
    have hstart : (trim c).head? ≠ some '\n' := by
      rw [← head?_squeezeNewlines]
      exact (firm_entryText c).head?_ne
    have hitem : squeezeNewlines ('\n' :: trim c) = '\n' :: entryText c :=
      squeezeNewlines_cons_of_ne fun hfeeds => hstart hfeeds.2
    rw [List.map_cons, List.flatMap_cons, ih, hitem, List.map_cons, lines_cons, List.cons_append]

theorem listText_eq (contents : List Text) :
    Treatment.listText (contents.map fun c => '\n' :: trim c) = '\n' :: listBody contents ++ blockEnd := by
  have hfirm : ∀ t ∈ contents.map entryText, trimStart t = t ∧ trimEnd t = t := by
    intro t ht
    obtain ⟨c, -, rfl⟩ := List.mem_map.1 ht
    exact ⟨(firm_entryText c).front, (firm_entryText c).back⟩
  rw [Treatment.listText, flatMap_squeezeNewlines, trim_lines hfirm, listBody]

theorem hasBlankLine_listBody (contents : List Text) :
    HasBlankLine (listBody contents) ↔ HasGap (contents.map entryText) := by
  refine hasBlankLine_dropEmptyEnds fun t ht => ?_
  obtain ⟨c, -, rfl⟩ := List.mem_map.1 ht
  exact firm_entryText c

/-! ## Items in turn -/

namespace Renderer

open Render

/-- the nodes render to the texts, each on the labels that the one before has left -/
inductive InTurn (render : Node → Render Text) : LabelStack → List Node → List Text → Prop
  | nil (labels : LabelStack) : InTurn render labels [] []
  | cons {labels : LabelStack} {n : Node} {rest : List Node} {t : Text} {texts : List Text}
      (first : (render n labels).result = .ok t) (more : InTurn render (render n labels).labels rest texts) :
      InTurn render labels (n :: rest) (t :: texts)

variable {render : Node → Render Text} {labels : LabelStack} {nodes : List Node} {texts : List Text}

theorem inTurn_nil : InTurn render labels [] texts ↔ texts = [] := by
  constructor
  · rintro ⟨⟩
    rfl
  · rintro rfl
    exact .nil labels

theorem inTurn_cons {n : Node} : InTurn render labels (n :: nodes) texts ↔
    ∃ t others, texts = t :: others ∧ (render n labels).result = .ok t ∧
      InTurn render (render n labels).labels nodes others := by
  constructor
  · rintro ⟨⟩
    exact ⟨_, _, rfl, ‹_›, ‹_›⟩
  · rintro ⟨t, others, rfl, hfirst, hmore⟩
    exact .cons hfirst hmore

/-- nodes that read the same on all labels -/
theorem inTurn_of_forall₂ (h : List.Forall₂ (fun n t => ∀ labels, (render n labels).result = .ok t) nodes texts)
    (labels : LabelStack) : InTurn render labels nodes texts := by
  induction h generalizing labels with
  | nil => exact .nil labels
  | cons hn _ ih => exact .cons (hn labels) (ih _)

theorem perform_renderOneByOne_eq_ok {f : List Text → Text} {before : List Text} {t : Text} :
    (perform render (.renderOneByOne before (fun texts => .done (f texts)) nodes) labels).result = .ok t ↔
      ∃ texts, InTurn render labels nodes texts ∧ t = f (before.reverse ++ texts) := by
  induction nodes generalizing before labels with
  | nil =>
    have hdone : (perform render (.renderOneByOne before (fun texts => .done (f texts)) []) labels).result =
        .ok (f before.reverse) := rfl
    simp [hdone, inTurn_nil, eq_comm]
  | cons n rest ih =>
    rw [Script.renderOneByOne, perform_renderText_eq_ok]
    simp only [ih, inTurn_cons, List.reverse_cons, List.append_assoc, List.singleton_append]
    constructor
    · rintro ⟨u, hfirst, others, hmore, ht⟩
      exact ⟨u :: others, ⟨u, others, rfl, hfirst, hmore⟩, ht⟩
    · rintro ⟨_, ⟨u, others, rfl, hfirst, hmore⟩, ht⟩
      exact ⟨u, hfirst, others, hmore, ht⟩

theorem renderNode_list_eq_ok {head : Head} (hk : head.kind = .list) {children items : List Node} (hne : items ≠ [])
    {header rows : Option (List Node)} {t : Text} :
    (plain.renderNode (.element head children (some items) header rows) labels).result = .ok t ↔
      ∃ texts, InTurn plain.renderNode labels items texts ∧ t = Treatment.listText texts := by
  obtain ⟨item, rest, rfl⟩ := List.exists_cons_of_ne_nil hne
  rw [renderNode_element, result_note_bind, hk]
  exact perform_renderOneByOne_eq_ok

/-! ## List items -/

/-- the content of an item, before it is tidied -/
def content (item : Node) : Render Text := plain.renderChildren false item.children

theorem renderNode_listItem {item : Node} (h : item.hasKind .listItem = true) : plain.renderNode item =
    note (plain.missingRule .listItem) >>= fun _ => content item >>= fun c => Pure.pure ('\n' :: trim c) := by
  cases item with
  | element head children items header rows =>
    have hk : head.kind = .listItem := by simpa [Node.hasKind] using h
    rw [renderNode_element, hk]
    rfl
  | cells entries => cases h
  | stray value => cases h

theorem renderNode_listItem_eq_ok {item : Node} (h : item.hasKind .listItem = true) {t : Text} :
    (plain.renderNode item labels).result = .ok t ↔ ∃ c, (content item labels).result = .ok c ∧ t = '\n' :: trim c := by
  rw [renderNode_listItem h, result_note_bind, result_bind_pure]
  cases (content item labels).result with
  | ok c => simp [Except.map, eq_comm]
  | error e => simp [Except.map]

/-- an item leaves the labels that its content leaves -/
theorem labels_renderNode_listItem {item : Node} (h : item.hasKind .listItem = true) :
    (plain.renderNode item labels).labels = (content item labels).labels := by
  rw [renderNode_listItem h]
  exact labels_bind_pure (content item) _ labels

theorem inTurn_items {items : List Node} (h : ∀ item ∈ items, item.hasKind .listItem = true) :
    InTurn plain.renderNode labels items texts ↔
      ∃ contents, InTurn content labels items contents ∧ texts = contents.map fun c => '\n' :: trim c := by
  induction items generalizing labels texts with
  | nil => simp [inTurn_nil]
  | cons item rest ih =>
    obtain ⟨hitem, hrest⟩ := List.forall_mem_cons.1 h
    simp only [inTurn_cons, renderNode_listItem_eq_ok hitem, labels_renderNode_listItem hitem, ih hrest]
    constructor
    · rintro ⟨_, _, rfl, ⟨c, hc, rfl⟩, contents, hcontents, rfl⟩
      exact ⟨c :: contents, ⟨c, contents, rfl, hc, hcontents⟩, rfl⟩
    · rintro ⟨_, ⟨c, contents, rfl, hc, hcontents⟩, rfl⟩
      exact ⟨_, _, rfl, ⟨c, hc, rfl⟩, contents, hcontents, rfl⟩

end Renderer

/-! ## Main result -/

open Renderer in
/-- **Lists in closed form.** A list of one or more list items, whatever they hold, renders to a text exactly if the
contents of the items render in turn. Tidy each of them: trim it and squeeze its runs of line feeds. The text is a
line feed, the entries with a line feed between them, without the empty ones at the beginning and at the end, and the
separator of blocks. Between the first line feed and the separator there is a blank line exactly if an empty entry
stands between two that are not empty. -/
theorem list_reads_as_entries (head : Head) (children items : List Node) (header rows : Option (List Node))
    (labels : LabelStack) (hk : head.kind = .list) (hne : items ≠ [])
    (hitems : ∀ item ∈ items, item.hasKind .listItem = true) :
    (∀ t, (plain.renderNode (.element head children (some items) header rows) labels).result = .ok t ↔
      ∃ contents, InTurn content labels items contents ∧ t = '\n' :: listBody contents ++ ['\n', '\n']) ∧
    ∀ contents, InTurn content labels items contents →
      (HasBlankLine (listBody contents) ↔ HasGap (contents.map entryText)) := by
  refine ⟨fun t => ?_, fun contents _ => hasBlankLine_listBody contents⟩
  rw [renderNode_list_eq_ok hk hne]
  constructor
  · rintro ⟨texts, htexts, rfl⟩
    obtain ⟨contents, hcontents, rfl⟩ := (inTurn_items hitems).1 htexts
    exact ⟨contents, hcontents, listText_eq contents⟩
  · rintro ⟨contents, hcontents, rfl⟩
    exact ⟨_, (inTurn_items hitems).2 ⟨contents, hcontents, rfl⟩, (listText_eq contents).symm⟩

/-- a list item of some paragraphs -/
def paragraphItem (texts : List Text) : Node :=
  .branch .listItem (texts.map fun t => .branch .paragraph [.leaf .text t])

/-- an empty item at both ends of a list and one in between -/
def gappedItems : List Node :=
  [paragraphItem [], paragraphItem [['a'], ['b']], paragraphItem [[' ']], paragraphItem [['c']], paragraphItem []]

open Renderer in
theorem gapped_list_reads_as_entries :
    (plain.renderNode (.element { kind := .list } [] (some gappedItems) none none) []).result =
        .ok ['\n', 'a', '\n', 'b', '\n', '\n', 'c', '\n', '\n'] ∧
      HasBlankLine ['a', '\n', 'b', '\n', '\n', 'c'] := by
  have hclosed := list_reads_as_entries { kind := .list } [] gappedItems none none [] rfl (by simp [gappedItems])
    (by decide)
  have hcontents : InTurn content [] gappedItems
      [[], ['a', '\n', '\n', 'b', '\n', '\n'], [' ', '\n', '\n'], ['c', '\n', '\n'], []] :=
    .cons rfl (.cons rfl (.cons rfl (.cons rfl (.cons rfl (.nil _)))))
  have hgap : HasGap [[], ['a', '\n', 'b'], [], ['c'], []] :=
    ⟨[[], ['a', '\n', 'b']], [['c'], []], rfl, ⟨['a', '\n', 'b'], by simp⟩, ⟨['c'], by simp⟩⟩
  exact ⟨(hclosed.1 _).2 ⟨_, hcontents, rfl⟩, (hclosed.2 _ hcontents).2 hgap⟩

end Unmark
