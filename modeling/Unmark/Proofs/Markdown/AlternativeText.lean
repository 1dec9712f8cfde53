import Mathlib.Data.List.Forall2
import Unmark.Proofs.Markdown.Conversion
import Unmark.Proofs.Render.BuiltIn
import Unmark.Proofs.Text.Tidying
/-!
Alternative text against visible text. The tokens inside an image are flattened to its alternative text; the same
tokens inside a link become nodes, and these are rendered inside a line. Two recursions over one tree.

Both are compared with one function, `Token.spelled`: the words of a token in order, with a given text for each line
break. A phrase flattens to its words with nothing for a break (`Token.Reads.flat`), and its node reads as its words
with a blank for a break (`Token.Reads.node`). So the two differ by one blank for each line break, and by nothing else.

Results:
- nodes that read as texts of one line read, inside a line, as these texts one after the other (`result_inOrder`);
- an image and a link around the same phrases show texts of different length exactly if there is a line break among
  them, and the same text otherwise (`alternative_text_iff`).
-/
namespace Unmark

/-! ## Phrases -/

namespace TokenHead

def IsA (h : TokenHead) (type : TokenType) : Prop := h.tokenType? = .ok (some type)

/-- a soft or a hard line break -/
def isBreak (h : TokenHead) : Bool :=
  match h.tokenType? with
  | .ok (some .softbreak) | .ok (some .linebreak) => true
  | _ => false

def rawText (h : TokenHead) : Text :=
  match h.raw with
  | some (.text s) => s.toList
  | _ => []

end TokenHead

/-- what stands inside a line: words on one line, breaks, and marks and links around such tokens -/
inductive Token.Phrase : Token → Prop
  | word {head : TokenHead} {s : String} (isWord : head.IsA .text ∨ head.IsA .codespan)
      (raw : head.raw = some (.text s)) (oneLine : '\n' ∉ s.toList) : Phrase (.entry head .absent)
  | gap {head : TokenHead} (isBreak : head.IsA .softbreak ∨ head.IsA .linebreak) (raw : head.raw = none) :
      Phrase (.entry head .absent)
  | marked {head : TokenHead} {tokens : List Token}
      (isMark : head.IsA .strong ∨ head.IsA .emphasis ∨ head.IsA .strikethrough) (inside : ∀ t ∈ tokens, Phrase t) :
      Phrase (.entry head (.list tokens))
  | link {head : TokenHead} {tokens : List Token} {target : String} (isLink : head.IsA .link)
      (url : head.attribute? "url" = some (.text target)) (inside : ∀ t ∈ tokens, Phrase t) :
      Phrase (.entry head (.list tokens))

/-! ## Spelling -/

mutual

/-- the words of a token, in order, with `gap` for each line break -/
def Token.spelled (gap : Text) : Token → Text
  | .entry head .absent => if head.isBreak then gap else head.rawText
  | .entry _ inner => inner.spelled gap
  | .stray _ => []

def Inner.spelled (gap : Text) : Inner → Text
  | .list tokens => Token.spelledAll gap tokens
  | _ => []

def Token.spelledAll (gap : Text) : List Token → Text
  | [] => []
  | t :: rest => t.spelled gap ++ Token.spelledAll gap rest

end

mutual

def Token.breaks : Token → Nat
  | .entry head .absent => if head.isBreak then 1 else 0
  | .entry _ inner => inner.breaks
  | .stray _ => 0

def Inner.breaks : Inner → Nat
  | .list tokens => Token.breaksAll tokens
  | _ => 0

def Token.breaksAll : List Token → Nat
  | [] => 0
  | t :: rest => t.breaks + Token.breaksAll rest

end

namespace Token

variable {tokens : List Token} {gap : Text}

theorem spelledAll_length
    (h : ∀ t ∈ tokens, (t.spelled gap).length = (t.spelled []).length + t.breaks * gap.length) :
    (spelledAll gap tokens).length = (spelledAll [] tokens).length + breaksAll tokens * gap.length := by
  induction tokens with
  | nil => simp [spelledAll, breaksAll]
  | cons t rest ih =>
    obtain ⟨hfirst, hrest⟩ := List.forall_mem_cons.1 h
    have hothers := ih hrest
    simp only [spelledAll, breaksAll, List.length_append, Nat.add_mul]
    omega

/-- a gap costs its length at each break -/
theorem spelled_length (gap : Text) (t : Token) :
    (t.spelled gap).length = (t.spelled []).length + t.breaks * gap.length := by
  induction t using induction_inner with
  | stray value => simp [spelled, breaks]
  | entry head inner ih =>
    cases inner with
    | absent =>
      simp only [spelled, breaks]
      split <;> simp
    | list tokens => exact spelledAll_length ih
    | other v => simp [spelled, breaks, Inner.spelled, Inner.breaks]

theorem spelledAll_sublist (h : ∀ t ∈ tokens, (t.spelled []).Sublist (t.spelled gap)) :
    (spelledAll [] tokens).Sublist (spelledAll gap tokens) := by
  induction tokens with
  | nil => exact List.Sublist.refl []
  | cons t rest ih =>
    obtain ⟨hfirst, hrest⟩ := List.forall_mem_cons.1 h
    exact hfirst.append (ih hrest)

/-- and takes nothing away -/
theorem spelled_sublist (gap : Text) (t : Token) : (t.spelled []).Sublist (t.spelled gap) := by
  induction t using induction_inner with
  | stray value => exact List.Sublist.refl []
  | entry head inner ih =>
    cases inner with
    | absent =>
      simp only [spelled]
      split
      · exact List.nil_sublist gap
      · exact List.Sublist.refl _
    | list tokens => exact spelledAll_sublist ih
    | other v => exact List.Sublist.refl []

/-- without a break there is no difference, and with one there is -/
theorem spelledAll_eq_iff (tokens : List Token) :
    spelledAll [] tokens = spelledAll [' '] tokens ↔ breaksAll tokens = 0 := by
  have hlength : (spelledAll [' '] tokens).length = (spelledAll [] tokens).length + breaksAll tokens * 1 :=
    spelledAll_length fun t _ => spelled_length [' '] t
  have hsublist : (spelledAll [] tokens).Sublist (spelledAll [' '] tokens) :=
    spelledAll_sublist fun t _ => spelled_sublist [' '] t
  constructor
  · intro heq
    rw [heq] at hlength
    omega
  · intro hnone
    rw [hnone] at hlength
    exact hsublist.eq_of_length hlength.symm

end Token

/-! ## Nodes that read as one line -/

namespace Renderer

open Render

/-- in every context the node renders to a text of one line; a block ends it, and inside a line that end is dropped -/
structure ReadsAs (n : Node) (t : Text) : Prop where
  oneLine : '\n' ∉ t
  result : ∀ labels, (plain.renderNode n labels).result = .ok (t ++ if n.isInline then [] else Text.blockEnd)

theorem ReadsAs.inside {n : Node} {t : Text} (h : ReadsAs n t) :
    (if true && !n.isInline then Text.dropTrailingNewlines (t ++ if n.isInline then [] else Text.blockEnd)
      else t ++ if n.isInline then [] else Text.blockEnd) = t := by
  cases n.isInline with
  | true => exact List.append_nil t
  | false => exact Text.dropTrailingNewlines_blockEnd h.oneLine

/-- inside a line, one after the other -/
theorem result_inOrder {nodes : List Node} {texts : List Text} (h : List.Forall₂ ReadsAs nodes texts)
    (labels : LabelStack) : (inOrder plain.renderNode true nodes labels).result = .ok texts.flatten := by
  induction h generalizing labels with
  | nil => rfl
  | cons hn hrest ih =>
    rename_i n t rest others
    have hworded : Worded (plain.renderNode n) := by
      intro labels
      rw [hn.result]
      simp
    rw [inOrder_cons hworded, bind_eq_ok_iff]
    refine ⟨_, hn.result labels, ?_⟩
    rw [bind_eq_ok_iff, hn.inside]
    exact ⟨_, ih _, rfl⟩

theorem forall₂_oneLine {nodes : List Node} {texts : List Text} (h : List.Forall₂ ReadsAs nodes texts) :
    '\n' ∉ texts.flatten := by
  induction h with
  | nil => simp
  | cons hn _ ih =>
    rw [List.flatten_cons, List.mem_append]
    exact fun hmem => hmem.elim hn.oneLine ih

/-- a node of an inline kind without children reads as its literal -/
theorem readsAs_leaf {kind : Kind} (hkind : Treatment.ofKind kind = .inline) (hinline : kind.isInline = true)
    {t : Text} (h : '\n' ∉ t) : ReadsAs (.element { kind := kind, literal := .text t } [] none none none) t where
  oneLine := h
  result labels := by
    rw [renderNode_element, result_note_bind, hkind]
    simp [Treatment.handler, Treatment.renderInline, perform, Render.pure, Node.isInline, hinline]

/-- around nodes that read as texts, it reads as these joined -/
theorem readsAs_branch {kind : Kind} (hkind : Treatment.ofKind kind = .inline) (hinline : kind.isInline = true)
    {children : List Node} {texts : List Text} (h : List.Forall₂ ReadsAs children texts) :
    ReadsAs (.branch kind children) texts.flatten where
  oneLine := forall₂_oneLine h
  result labels := by
    have hsuffix : (if (Node.branch kind children).isInline then [] else Text.blockEnd) = [] := by
      simp [Node.branch, Node.isInline, hinline]
    rw [hsuffix, List.append_nil, Node.branch, renderNode_element, result_note_bind, hkind]
    cases h with
    | nil => rfl
    | cons hn hrest =>
      simp only [Treatment.handler, Treatment.renderInline, List.isEmpty_cons, Bool.false_eq_true, if_false, perform]
      rw [bind_eq_ok_iff]
      exact ⟨_, result_inOrder (.cons hn hrest) labels, rfl⟩

/-- so does a link that has a target -/
theorem readsAs_link (target : Value) (title : Option Value) {children : List Node} {texts : List Text}
    (h : List.Forall₂ ReadsAs children texts) :
    ReadsAs (.element { kind := .link, href := some target, title := title } children none none none)
      texts.flatten where
  oneLine := forall₂_oneLine h
  result labels := by
    rw [renderNode_element, result_note_bind]
    cases h with
    | nil => rfl
    | cons hn hrest =>
      simp only [Treatment.ofKind, Treatment.handler, Treatment.renderLink, List.isEmpty_cons, Bool.false_eq_true,
        if_false, perform]
      rw [bind_eq_ok_iff]
      exact ⟨_, result_inOrder (.cons hn hrest) labels, rfl⟩

/-- an image reads as its alternative text, be it empty or not -/
theorem result_image (alt : Text) (target : Value) (title : Option Value) (labels : LabelStack) :
    (plain.renderNode (Build.image alt (some target) title) labels).result = .ok (alt ++ Text.blockEnd) := by
  rw [Build.image, renderNode_element, result_note_bind]
  cases alt <;> rfl

end Renderer

/-! ## Phrases in both readings -/

namespace Token

open Renderer

/-- the token flattens to its words, and its node reads as its words with a blank for each break -/
structure Reads (t : Token) : Prop where
  flat : t.flatText = .ok (t.spelled [])
  node : ∃ n, t.toNode.result = .ok n ∧ ReadsAs n (t.spelled [' '])

variable {tokens : List Token}

theorem flatTextAll_of_reads (h : ∀ t ∈ tokens, t.Reads) : flatTextAll tokens = .ok (spelledAll [] tokens) := by
  induction tokens with
  | nil => rfl
  | cons t rest ih =>
    obtain ⟨ht, hrest⟩ := List.forall_mem_cons.1 h
    rw [flatTextAll, ht.flat, ih hrest]
    rfl

theorem toNodes_of_reads (h : ∀ t ∈ tokens, t.Reads) : ∃ nodes texts, (toNodes tokens).result = .ok nodes ∧
    List.Forall₂ ReadsAs nodes texts ∧ texts.flatten = spelledAll [' '] tokens := by
  induction tokens with
  | nil => exact ⟨[], [], rfl, .nil, rfl⟩
  | cons t rest ih =>
    obtain ⟨ht, hrest⟩ := List.forall_mem_cons.1 h
    obtain ⟨n, hn, hreads⟩ := ht.node
    obtain ⟨nodes, texts, hnodes, hall, htexts⟩ := ih hrest
    refine ⟨n :: nodes, t.spelled [' '] :: texts, ?_, .cons hreads hall, ?_⟩
    · rw [toNodes, Logged.result_bind, hn]
      simp [Except.bind, Logged.result_bind, hnodes]
    · rw [List.flatten_cons, htexts, spelledAll]

variable {head : TokenHead}

theorem isBreak_of_isA {type : TokenType} (h : head.IsA type) :
    head.isBreak = (type == .softbreak || type == .linebreak) := by
  unfold TokenHead.IsA at h
  rw [TokenHead.isBreak, h]
  cases type <;> rfl

/-- words become leaves of an inline kind -/
theorem toNode_word (inner : Inner) (isWord : head.IsA .text ∨ head.IsA .codespan) : ∃ kind : Kind,
    (Treatment.ofKind kind = .inline ∧ kind.isInline = true) ∧
      (entry head inner).toNode.result =
        .ok (.element { kind := kind, literal := head.literal } [] none none none) := by
  unfold TokenHead.IsA at isWord
  rcases isWord with htype | htype <;> rw [toNode, Logged.result_bind, Logged.ofExcept, htype]
  · exact ⟨.text, ⟨rfl, rfl⟩, rfl⟩
  · exact ⟨.codeSpan, ⟨rfl, rfl⟩, rfl⟩

/-- breaks become a blank -/
theorem toNode_gap (inner : Inner) (isBreak : head.IsA .softbreak ∨ head.IsA .linebreak) :
    (entry head inner).toNode.result = .ok (Build.text [' ']) := by
  unfold TokenHead.IsA at isBreak
  rcases isBreak with htype | htype <;> rw [toNode, Logged.result_bind, Logged.ofExcept, htype] <;> rfl

/-- marks become branches of an inline kind -/
theorem toNode_marked (isMark : head.IsA .strong ∨ head.IsA .emphasis ∨ head.IsA .strikethrough) {nodes : List Node}
    (hnodes : (toNodes tokens).result = .ok nodes) : ∃ kind : Kind,
      (Treatment.ofKind kind = .inline ∧ kind.isInline = true) ∧
        (entry head (.list tokens)).toNode.result = .ok (.branch kind nodes) := by
  unfold TokenHead.IsA at isMark
  have hmake : ∀ kind, ((Inner.list tokens).toNodes >>= fun children =>
      Pure.pure (Node.branch kind children)).result = .ok (.branch kind nodes) := by
    intro kind
    rw [Inner.toNodes, Logged.result_bind, hnodes]
    rfl
  rcases isMark with htype | htype | htype <;> rw [toNode, Logged.result_bind, Logged.ofExcept, htype]
  · exact ⟨.strong, ⟨rfl, rfl⟩, hmake .strong⟩
  · exact ⟨.emphasis, ⟨rfl, rfl⟩, hmake .emphasis⟩
  · exact ⟨.strikethrough, ⟨rfl, rfl⟩, hmake .strikethrough⟩

/-- links keep their target -/
theorem toNode_link (isLink : head.IsA .link) {nodes : List Node} (hnodes : (toNodes tokens).result = .ok nodes) :
    (entry head (.list tokens)).toNode.result =
      .ok (.element { kind := .link, href := head.target, title := head.title } nodes none none none) := by
  unfold TokenHead.IsA at isLink
  rw [toNode, Logged.result_bind, Logged.ofExcept, isLink]
  show ((Inner.list tokens).toNodes >>= _).result = _
  rw [Inner.toNodes, Logged.result_bind, hnodes]
  rfl

/-- images keep it too, and the flattened text -/
theorem toNode_image (isImage : head.IsA .image) {alt : Text} (halt : flatTextAll tokens = .ok alt) :
    (entry head (.list tokens)).toNode.result = .ok (Build.image alt head.target head.title) := by
  unfold TokenHead.IsA at isImage
  rw [toNode, Logged.result_bind, Logged.ofExcept, isImage]
  show (Logged.ofExcept (Inner.list tokens).flatText >>= _).result = _
  rw [Inner.flatText, halt]
  rfl

theorem target_eq {target : String} (url : head.attribute? "url" = some (.text target)) :
    head.target = some (.text target) := by
  rw [TokenHead.target, url]

theorem reads_word {s : String} (isWord : head.IsA .text ∨ head.IsA .codespan) (raw : head.raw = some (.text s))
    (oneLine : '\n' ∉ s.toList) : (entry head .absent).Reads := by
  have hspelled : ∀ gap, (entry head .absent).spelled gap = s.toList := by
    intro gap
    rw [spelled]
    rcases isWord with htype | htype <;> simp [isBreak_of_isA htype, TokenHead.rawText, raw]
  constructor
  · rw [flatText, raw, hspelled]
  · obtain ⟨kind, ⟨hkind, hinline⟩, hnode⟩ := toNode_word .absent isWord
    rw [TokenHead.literal, raw] at hnode
    rw [hspelled]
    exact ⟨_, hnode, readsAs_leaf hkind hinline oneLine⟩

theorem reads_gap (isBreak : head.IsA .softbreak ∨ head.IsA .linebreak) (raw : head.raw = none) :
    (entry head .absent).Reads := by
  have hspelled : ∀ gap, (entry head .absent).spelled gap = gap := by
    intro gap
    rw [spelled]
    rcases isBreak with htype | htype <;> simp [isBreak_of_isA htype]
  constructor
  · rw [flatText, raw, hspelled]
  · rw [hspelled]
    exact ⟨_, toNode_gap .absent isBreak, readsAs_leaf rfl rfl (by decide)⟩

theorem flatText_list (head : TokenHead) (tokens : List Token) :
    (entry head (.list tokens)).flatText = flatTextAll tokens := by
  rw [flatText, Inner.flatText]
  simp

theorem spelled_list (gap : Text) (head : TokenHead) (tokens : List Token) :
    (entry head (.list tokens)).spelled gap = spelledAll gap tokens := by
  rw [spelled, Inner.spelled]
  simp

theorem reads_marked (isMark : head.IsA .strong ∨ head.IsA .emphasis ∨ head.IsA .strikethrough)
    (inside : ∀ t ∈ tokens, t.Reads) : (entry head (.list tokens)).Reads := by
  obtain ⟨nodes, texts, hnodes, hreads, htexts⟩ := toNodes_of_reads inside
  constructor
  · rw [flatText_list, spelled_list]
    exact flatTextAll_of_reads inside
  · obtain ⟨kind, ⟨hkind, hinline⟩, hnode⟩ := toNode_marked isMark hnodes
    rw [spelled_list, ← htexts]
    exact ⟨_, hnode, readsAs_branch hkind hinline hreads⟩

theorem reads_link {target : String} (isLink : head.IsA .link) (url : head.attribute? "url" = some (.text target))
    (inside : ∀ t ∈ tokens, t.Reads) : (entry head (.list tokens)).Reads := by
  obtain ⟨nodes, texts, hnodes, hreads, htexts⟩ := toNodes_of_reads inside
  constructor
  · rw [flatText_list, spelled_list]
    exact flatTextAll_of_reads inside
  · have hnode := toNode_link isLink hnodes
    rw [target_eq url] at hnode
    rw [spelled_list, ← htexts]
    exact ⟨_, hnode, readsAs_link _ _ hreads⟩

/-- **Every phrase reads as its words**, in both readings. -/
theorem reads_of_phrase {t : Token} (h : t.Phrase) : t.Reads := by
  induction h with
  | word isWord raw oneLine => exact reads_word isWord raw oneLine
  | gap isBreak raw => exact reads_gap isBreak raw
  | marked isMark _ ih => exact reads_marked isMark ih
  | link isLink url _ ih => exact reads_link isLink url ih

end Token

/-! ## Main result -/

open Token Renderer in
/-- **Alternative text agrees with link text up to line breaks.** Let an image and a link with targets hold the same
phrases. Both convert, and they render in every context: the image to the flattened text, the link to what the nodes
of the phrases render to inside a line. Either is the words of the phrases in order, with nothing for a line break in
the image and a blank for it in the link. So the link shows one character more for each line break, and both show the
same text exactly if there is none. -/
theorem alternative_text_iff (image link : TokenHead) (source target : String) (tokens : List Token)
    (himage : image.IsA .image) (hsource : image.attribute? "url" = some (.text source)) (hlink : link.IsA .link)
    (htarget : link.attribute? "url" = some (.text target)) (h : ∀ t ∈ tokens, t.Phrase) :
    ∃ alt label nodes picture anchor,
      flatTextAll tokens = .ok alt ∧ (toNodes tokens).result = .ok nodes ∧
      (∀ labels, (plain.renderChildren true nodes labels).result = .ok label) ∧
      (entry image (.list tokens)).toNode.result = .ok picture ∧
      (∀ labels, (plain.renderNode picture labels).result = .ok (alt ++ Text.blockEnd)) ∧
      (entry link (.list tokens)).toNode.result = .ok anchor ∧
      (∀ labels, (plain.renderNode anchor labels).result = .ok (label ++ Text.blockEnd)) ∧
      alt = spelledAll [] tokens ∧ label = spelledAll [' '] tokens ∧
      label.length = alt.length + breaksAll tokens ∧ (alt = label ↔ breaksAll tokens = 0) := by
  have hreads : ∀ t ∈ tokens, t.Reads := fun t ht => reads_of_phrase (h t ht)
  have hflat := flatTextAll_of_reads hreads
  obtain ⟨nodes, texts, hnodes, hall, htexts⟩ := toNodes_of_reads hreads
  have hpicture := toNode_image himage hflat
  have hanchor := toNode_link hlink hnodes
  rw [target_eq hsource] at hpicture
  rw [target_eq htarget] at hanchor
  have hlabel := (readsAs_link (.text target) link.title hall).result
  rw [htexts] at hlabel
  have hlength : (spelledAll [' '] tokens).length = (spelledAll [] tokens).length + breaksAll tokens * 1 :=
    spelledAll_length fun t _ => spelled_length [' '] t
  refine ⟨_, _, nodes, _, _, hflat, hnodes, fun labels => ?_, hpicture, result_image _ _ _, hanchor, hlabel, rfl, rfl,
    ?_, spelledAll_eq_iff tokens⟩
  · rw [← htexts]
    exact result_inOrder hall labels
  · rw [hlength, Nat.mul_one]

/-- the token of an image or of a link, with a target -/
def targeted (type : String) : TokenHead := ⟨some (.text type), none, some (.object [("url", .text "u")])⟩

def wordToken (word : String) : Token := .entry ⟨some (.text "text"), some (.text word), none⟩ .absent

def softBreak : Token := .entry ⟨some (.text "softbreak"), none, none⟩ .absent

/-- strong text around a word, a line break and a link, and a hard break before the last word -/
def brokenPhrases : List Token :=
  [.entry ⟨some (.text "strong"), none, none⟩ (.list [wordToken "a", softBreak,
      .entry (targeted "link") (.list [.entry ⟨some (.text "codespan"), some (.text "b"), none⟩ .absent])]),
    .entry ⟨some (.text "linebreak"), none, none⟩ .absent, wordToken "c"]

theorem phrase_brokenPhrases : ∀ t ∈ brokenPhrases, t.Phrase := by
  have hword : ∀ s : String, '\n' ∉ s.toList → (wordToken s).Phrase := fun s hs => .word (.inl rfl) rfl hs
  have hlink : (Token.entry (targeted "link") (.list
      [.entry ⟨some (.text "codespan"), some (.text "b"), none⟩ .absent])).Phrase := by
    refine .link rfl rfl fun t ht => ?_
    obtain rfl := List.mem_singleton.1 ht
    exact .word (.inr rfl) rfl (by decide)
  have hstrong : ∀ t ∈ [wordToken "a", softBreak, .entry (targeted "link") (.list
      [.entry ⟨some (.text "codespan"), some (.text "b"), none⟩ .absent])], t.Phrase := by
    simp only [List.forall_mem_cons]
    exact ⟨hword "a" (by decide), .gap (.inl rfl) rfl, hlink, by simp⟩
  simp only [brokenPhrases, List.forall_mem_cons]
  exact ⟨.marked (.inl rfl) hstrong, .gap (.inr rfl) rfl, hword "c" (by decide), by simp⟩

open Token Renderer in
theorem alternative_text_iff_broken :
    (∀ t ∈ brokenPhrases, t.Phrase) ∧ breaksAll brokenPhrases = 2 ∧
    ∃ picture anchor, (entry (targeted "image") (.list brokenPhrases)).toNode.result = .ok picture ∧
      (∀ labels, (plain.renderNode picture labels).result = .ok "abc\n\n".toList) ∧
      (entry (targeted "link") (.list brokenPhrases)).toNode.result = .ok anchor ∧
      (∀ labels, (plain.renderNode anchor labels).result = .ok "a b c\n\n".toList) := by
  obtain ⟨_, _, -, picture, anchor, -, -, -, hpicture, halt, hanchor, hlabel, rfl, rfl, -, -⟩ :=
    alternative_text_iff (targeted "image") (targeted "link") "u" "u" brokenPhrases rfl rfl rfl rfl
      phrase_brokenPhrases
  exact ⟨phrase_brokenPhrases, rfl, picture, anchor, hpicture, halt, hanchor, hlabel⟩

open Token Renderer in
/-- **A line break joins two words in alternative text**, and parts them in the text of a link. -/
theorem break_joins_alternative_text :
    let tokens := [wordToken "a", softBreak, wordToken "b"]
    (toNodes [entry (targeted "image") (.list tokens)] >>= plain.renderToText).result = .ok "ab\n\n".toList ∧
    (toNodes [entry (targeted "link") (.list tokens)] >>= plain.renderToText).result = .ok "a b\n\n".toList ∧
    "ab\n\n".toList ≠ "a b\n\n".toList :=
  ⟨rfl, rfl, by decide⟩

end Unmark
