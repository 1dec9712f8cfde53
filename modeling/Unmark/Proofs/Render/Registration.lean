import Mathlib.Data.Rat.Cast.Defs
import Mathlib.Tactic.NormNum
import Mathlib.Tactic.Positivity
import Unmark.Proofs.OrderedTable
import Unmark.Proofs.Render.BuiltIn
/-!
Registered handlers, from what a caller writes down to the rule that a node meets. Three steps lie in between. The
registrations make a table, whose keys may be values of any type. The table is gone through from its first entry on,
until one offends: its keys become kinds, and whatever is registered under them is a handler. The handlers then take
the places of built-in rules.

What a key stands for decides whether it is there already: `1`, `1.0` and `true` are one key (`comparedBy_meaning`).

Results:
- `forall_not_offends_iff`: the tables that nothing is wrong with are the tables of options;
- `ofTable_eq_error_iff`: options are refused for the first entry that offends, and for no other reason;
- `ofTable_eq_ok_iff`: a table of different keys gives the options that it is the table of;
- `rule?_ofOptions_eq_or`: the rule for a kind is the handler that was registered last, or else the built-in one;
- all of it together, from the registrations to the rules.
-/
namespace Unmark

/-! ## Keys -/

def Decimal.toRat (d : Decimal) : ℚ := d.mantissa / 10 ^ d.places

theorem Decimal.same_iff (a b : Decimal) : a.same b = true ↔ a.toRat = b.toRat := by
  have ha : (10 : ℚ) ^ a.places ≠ 0 := by positivity
  have hb : (10 : ℚ) ^ b.places ≠ 0 := by positivity
  rw [toRat, toRat, div_eq_div_iff ha hb, same, beq_iff_eq]
  exact_mod_cast Iff.rfl

/-- what a key stands for: nothing, a text or a number -/
def Value.meaning : Value → Option (String ⊕ ℚ)
  | .text s => some (.inl s)
  | v => v.toNumber?.map fun n => .inr n.toRat

theorem Value.comparedBy_meaning : OrderedTable.ComparedBy (fun v : Value => v.isKey = true) Value.meaning := by
  intro a b ha hb
  show Value.same a b = true ↔ _
  cases a <;> cases b <;> simp_all [Value.same, Value.meaning, Value.isKey, Value.toNumber?, Decimal.same_iff]

theorem Value.text_beq (a b : String) : (Value.text a == .text b) = (a == b) := by
  show Value.same _ _ = _
  rw [Value.same]

namespace Kind

theorem ofName?_name {k : Kind} (h : k ∈ known) : ofName? k.name = some k := by
  revert k
  decide

theorem ofName?_eq_some_iff {name : String} {k : Kind} : ofName? name = some k ↔ k ∈ known ∧ k.name = name := by
  refine ⟨fun h => ⟨List.mem_of_find?_eq_some h, ?_⟩, fun ⟨hknown, hname⟩ => hname ▸ ofName?_name hknown⟩
  simpa using List.find?_some h

theorem name_inj {j k : Kind} (hj : j ∈ known) (hk : k ∈ known) : j.name = k.name ↔ j = k := by
  refine ⟨fun h => ?_, congrArg name⟩
  have hsome : some j = some k := by rw [← ofName?_name hj, h, ofName?_name hk]
  exact Option.some.inj hsome

end Kind

theorem keyKind?_eq_some_iff {key : Value} {k : Kind} :
    keyKind? key = some k ↔ k ∈ Kind.known ∧ key = .text k.name := by
  cases key with
  | text name => rw [keyKind?, Kind.ofName?_eq_some_iff, Value.text.injEq, eq_comm (a := name)]
  | _ => simp [keyKind?]

theorem keyKind?_eq_none_iff {key : Value} : keyKind? key = none ↔ ∀ k ∈ Kind.known, key ≠ .text k.name := by
  simp [Option.eq_none_iff_forall_ne_some, keyKind?_eq_some_iff]

/-! ## Entries -/

/-- the key of an entry names no known kind, or what is registered under it cannot be called -/
def Offends (entry : Value × Candidate) : Prop :=
  (∀ k ∈ Kind.known, entry.1 ≠ .text k.name) ∨ entry.2 = .notCallable

/-- the error for an entry that offends: a key that names no kind is reported, whatever is registered under it -/
inductive Refused : Value × Candidate → Error → Prop
  | unknownKind {key : Value} {candidate : Candidate} (unnamed : ∀ k ∈ Kind.known, key ≠ .text k.name) :
      Refused (key, candidate) (.badHandler key .unknownKind (some .unknownName))
  | notCallable {k : Kind} (known : k ∈ Kind.known) :
      Refused (.text k.name, .notCallable) (.badHandler (.text k.name) (.notCallable k) none)

theorem not_offends_iff {entry : Value × Candidate} :
    ¬ Offends entry ↔ ∃ k ∈ Kind.known, ∃ h, entry = (.text k.name, .callable h) := by
  obtain ⟨key, candidate⟩ := entry
  constructor
  · intro hfine
    obtain ⟨hnamed, hcalled⟩ := not_or.1 hfine
    obtain ⟨k, hk, hkey⟩ : ∃ k ∈ Kind.known, key = .text k.name := by simpa using hnamed
    cases candidate with
    | callable h => exact ⟨k, hk, h, by rw [hkey]⟩
    | notCallable => exact absurd rfl hcalled
  · rintro ⟨k, hk, h, heq⟩ (hunnamed | huncalled)
    · exact hunnamed k hk (congrArg Prod.fst heq)
    · cases heq
      cases huncalled

theorem offends_iff {entry : Value × Candidate} : Offends entry ↔ ∃ e, Refused entry e := by
  obtain ⟨key, candidate⟩ := entry
  constructor
  · intro hoffends
    by_cases hunnamed : ∀ k ∈ Kind.known, key ≠ .text k.name
    · exact ⟨_, .unknownKind hunnamed⟩
    · obtain ⟨k, hk, rfl⟩ : ∃ k ∈ Kind.known, key = .text k.name := by simpa using hunnamed
      obtain rfl : candidate = .notCallable := hoffends.resolve_left hunnamed
      exact ⟨_, .notCallable hk⟩
  · rintro ⟨e, hrefused⟩
    cases hrefused with
    | unknownKind unnamed => exact .inl unnamed
    | notCallable _ => exact .inr rfl

theorem resolveEntry_named {k : Kind} (hk : k ∈ Kind.known) (h : Handler) :
    resolveEntry (.text k.name, .callable h) = .ok (k, h) := by
  simp only [resolveEntry, keyKind?_eq_some_iff.2 ⟨hk, rfl⟩]

theorem resolveEntry_refused {entry : Value × Candidate} {e : Error} (h : Refused entry e) :
    resolveEntry entry = .error e := by
  cases h with
  | unknownKind unnamed => simp only [resolveEntry, keyKind?_eq_none_iff.2 unnamed]
  | notCallable known => simp only [resolveEntry, keyKind?_eq_some_iff.2 ⟨known, rfl⟩]

/-! ## Tables -/

/-- the tables that nothing is wrong with are those that options stand for -/
theorem forall_not_offends_iff {table : OrderedTable Value Candidate} :
    (∀ entry ∈ table, ¬ Offends entry) ↔ ∃ o : RenderOptions, (∀ k ∈ o.kinds, k ∈ Kind.known) ∧ table = o.table := by
  constructor
  · intro hfine
    induction table with
    | nil => exact ⟨.none, fun k hk => absurd hk List.not_mem_nil, rfl⟩
    | cons entry rest ih =>
      obtain ⟨hentry, hrest⟩ := List.forall_mem_cons.1 hfine
      obtain ⟨k, hk, h, rfl⟩ := not_offends_iff.1 hentry
      obtain ⟨o, hknown, rfl⟩ := ih hrest
      exact ⟨⟨(k, h) :: o.handlers⟩, List.forall_mem_cons.2 ⟨hk, hknown⟩, rfl⟩
  · rintro ⟨o, hknown, rfl⟩ entry hentry
    obtain ⟨⟨k, h⟩, hmem, rfl⟩ := List.mem_map.1 hentry
    exact not_offends_iff.2 ⟨k, hknown k (List.mem_map_of_mem hmem), h, rfl⟩

/-- either nothing is wrong with a table, or there is a first entry that offends -/
theorem forall_not_offends_or_first (table : OrderedTable Value Candidate) :
    (∀ entry ∈ table, ¬ Offends entry) ∨ ∃ before entry after e,
      table = before ++ entry :: after ∧ (∀ other ∈ before, ¬ Offends other) ∧ Refused entry e := by
  induction table with
  | nil => exact .inl fun entry hentry => absurd hentry List.not_mem_nil
  | cons first rest ih =>
    by_cases hfirst : Offends first
    · obtain ⟨e, hrefused⟩ := offends_iff.1 hfirst
      exact .inr ⟨[], first, rest, e, rfl, fun other hother => absurd hother List.not_mem_nil, hrefused⟩
    · refine ih.imp (fun hrest => List.forall_mem_cons.2 ⟨hfirst, hrest⟩) ?_
      rintro ⟨before, entry, after, e, rfl, hbefore, hrefused⟩
      exact ⟨first :: before, entry, after, e, rfl, List.forall_mem_cons.2 ⟨hfirst, hbefore⟩, hrefused⟩

/-- entries that do not offend are entered, and the check goes on behind them -/
theorem resolveFrom_table_append {o : RenderOptions} (hknown : ∀ k ∈ o.kinds, k ∈ Kind.known)
    (table : OrderedTable Kind Handler) (rest : List (Value × Candidate)) :
    resolveFrom table (o.table ++ rest) = resolveFrom (OrderedTable.putAll table o.handlers) rest := by
  obtain ⟨handlers⟩ := o
  induction handlers generalizing table with
  | nil => rfl
  | cons entry others ih =>
    obtain ⟨hentry, hothers⟩ := List.forall_mem_cons.1 hknown
    calc resolveFrom table ((⟨entry :: others⟩ : RenderOptions).table ++ rest)
      _ = resolveEntry (.text entry.1.name, .callable entry.2) >>= fun resolved =>
            resolveFrom (OrderedTable.put resolved.1 resolved.2 table)
              ((⟨others⟩ : RenderOptions).table ++ rest) := rfl
      _ = resolveFrom (OrderedTable.put entry.1 entry.2 table) ((⟨others⟩ : RenderOptions).table ++ rest) := by
        rw [resolveEntry_named hentry]
        rfl
      _ = resolveFrom (OrderedTable.putAll table (entry :: others)) rest := ih _ hothers

theorem resolveFrom_table {o : RenderOptions} (hknown : ∀ k ∈ o.kinds, k ∈ Kind.known)
    (table : OrderedTable Kind Handler) :
    resolveFrom table o.table = .ok (OrderedTable.putAll table o.handlers) := by
  rw [← List.append_nil o.table, resolveFrom_table_append hknown]
  rfl

theorem resolveFrom_refused {before after : List (Value × Candidate)} {entry : Value × Candidate} {e : Error}
    (hbefore : ∀ other ∈ before, ¬ Offends other) (hrefused : Refused entry e) (table : OrderedTable Kind Handler) :
    resolveFrom table (before ++ entry :: after) = .error e := by
  obtain ⟨o, hknown, rfl⟩ := forall_not_offends_iff.1 hbefore
  rw [resolveFrom_table_append hknown, resolveFrom, resolveEntry_refused hrefused]
  rfl

namespace RenderOptions

/-- options are refused for the first entry that offends -/
theorem ofTable_eq_error_iff {table : OrderedTable Value Candidate} {e : Error} :
    ofTable table = .error e ↔ ∃ before entry after,
      table = before ++ entry :: after ∧ (∀ other ∈ before, ¬ Offends other) ∧ Refused entry e := by
  constructor
  · intro herror
    rcases forall_not_offends_or_first table with hfine | ⟨before, entry, after, f, rfl, hbefore, hrefused⟩
    · obtain ⟨o, hknown, rfl⟩ := forall_not_offends_iff.1 hfine
      rw [ofTable, resolveFrom_table hknown] at herror
      cases herror
    · rw [ofTable, resolveFrom_refused hbefore hrefused] at herror
      cases herror
      exact ⟨before, entry, after, rfl, hbefore, hrefused⟩
  · rintro ⟨before, entry, after, rfl, hbefore, hrefused⟩
    rw [ofTable, resolveFrom_refused hbefore hrefused]
    rfl

theorem exists_error_iff {table : OrderedTable Value Candidate} :
    (∃ e, ofTable table = .error e) ↔ ∃ entry ∈ table, Offends entry := by
  constructor
  · rintro ⟨e, herror⟩
    obtain ⟨before, entry, after, rfl, -, hrefused⟩ := ofTable_eq_error_iff.1 herror
    exact ⟨entry, List.mem_append_right _ List.mem_cons_self, offends_iff.2 ⟨e, hrefused⟩⟩
  · rintro ⟨entry, hentry, hoffends⟩
    rcases forall_not_offends_or_first table with hfine | ⟨before, first, after, e, hfirst⟩
    · exact absurd hoffends (hfine entry hentry)
    · exact ⟨e, ofTable_eq_error_iff.2 ⟨before, first, after, hfirst⟩⟩

theorem keys_table (o : RenderOptions) : OrderedTable.keys o.table = o.kinds.map fun k => Value.text k.name := by
  simp [OrderedTable.keys, table, kinds]

/-- what is registered under the name of a kind is the handler of the kind -/
theorem get?_table {o : RenderOptions} (hknown : ∀ k ∈ o.kinds, k ∈ Kind.known) {k : Kind} (hk : k ∈ Kind.known) :
    OrderedTable.get? (.text k.name) o.table = (OrderedTable.get? k o.handlers).map .callable := by
  refine OrderedTable.get?_map (f := fun k : Kind => Value.text k.name) (fun j hj => ?_) Candidate.callable
  rw [Value.text_beq, Bool.eq_iff_iff, beq_iff_eq, beq_iff_eq, Kind.name_inj (hknown j hj) hk]

/-- kinds with different names are different -/
theorem distinct_handlers {o : RenderOptions} (h : OrderedTable.Distinct o.table) :
    OrderedTable.Distinct o.handlers := by
  rw [OrderedTable.Distinct, keys_table] at h
  refine (List.pairwise_map.1 h).imp fun {j k} hne => beq_eq_false_iff_ne.2 fun heq => ?_
  rw [Value.text_beq, beq_eq_false_iff_ne] at hne
  exact hne (congrArg Kind.name heq)

/-- a table of different keys gives the options that it is the table of -/
theorem ofTable_eq_ok_iff {t : OrderedTable Value Candidate} (ht : OrderedTable.Distinct t) {o : RenderOptions} :
    ofTable t = .ok o ↔ (∀ k ∈ o.kinds, k ∈ Kind.known) ∧ t = o.table := by
  have hself : ∀ p : RenderOptions, (∀ k ∈ p.kinds, k ∈ Kind.known) → t = p.table → ofTable t = .ok p := by
    rintro p hknown rfl
    -- the keys of the table are different, so no handler takes the place of another one
    have hput : OrderedTable.putAll [] p.handlers = p.handlers :=
      OrderedTable.putAll_of_distinct (distinct_handlers ht)
    rw [ofTable, resolveFrom_table hknown, hput]
    rfl
  refine ⟨fun hok => ?_, fun ⟨hknown, htable⟩ => hself o hknown htable⟩
  rcases forall_not_offends_or_first t with hfine | ⟨before, entry, after, e, hfirst⟩
  · obtain ⟨p, hknown, htable⟩ := forall_not_offends_iff.1 hfine
    rw [hself p hknown htable] at hok
    cases hok
    exact ⟨hknown, htable⟩
  · rw [ofTable_eq_error_iff.2 ⟨before, entry, after, hfirst⟩] at hok
    cases hok

end RenderOptions

/-! ## Rules -/

/-- the treatment that the kinds of a class share; structural kinds have one each -/
def Behaviour.treatment? : Behaviour → Option Treatment
  | .suppressed => some .suppressed
  | .inline => some .inline
  | .escapedBlock => some .escapedBlock
  | .plainBlock => some .plainBlock
  | .structural => none

namespace Treatment

/-- the structural kinds, each with a treatment of its own -/
def structural : OrderedTable Kind Treatment :=
  [(.list, .list), (.listItem, .listItem), (.table, .table), (.tableRow, .tableRow), (.tableCell, .tableCell),
    (.link, .link), (.image, .image), (.paragraph, .paragraph)]

/-- the treatment of a kind, by its class -/
def ofClass? (k : Kind) : Option Treatment :=
  k.behaviour.treatment?.or (OrderedTable.get? k structural)

theorem ofClass?_eq (k : Kind) : ofClass? k = some (ofKind k) := by
  cases k <;> rfl

end Treatment

namespace Renderer

variable {o : RenderOptions}

/-- of the handlers for a kind the last one counts, and the built-in rule if there is none -/
theorem rule?_ofOptions_eq_or (o : RenderOptions) (k : Kind) :
    (ofOptions o).rule? k = ((OrderedTable.get? k o.handlers.reverse).map .custom).or (plain.rule? k) := by
  have hmap : OrderedTable.get? k (o.handlers.reverse.map fun entry => (entry.1, Rule.custom entry.2)) =
      (OrderedTable.get? k o.handlers.reverse).map .custom :=
    OrderedTable.get?_map (fun _ _ => rfl) Rule.custom
  rw [rule?, ofOptions, OrderedTable.get?_putAll_eq_or, ← List.map_reverse, hmap]
  rfl

/-- handlers take the places of rules, and no rule is lost or added -/
theorem keys_ofOptions (hknown : ∀ k ∈ o.kinds, k ∈ Kind.known) :
    OrderedTable.keys (ofOptions o).rules = Kind.known := by
  have hsub : OrderedTable.keys (o.handlers.map fun entry => (entry.1, Rule.custom entry.2)) ⊆
      OrderedTable.keys builtinRules := by
    intro k hk
    have hkind : k ∈ o.kinds := by simpa [OrderedTable.keys, RenderOptions.kinds] using hk
    exact hknown k hkind
  exact OrderedTable.keys_putAll_of_subset hsub

theorem ruleFor_of_handler (ho : OrderedTable.Distinct o.handlers) {k : Kind} {h : Handler}
    (hget : OrderedTable.get? k o.handlers = some h) : (ofOptions o).ruleFor k = .custom h := by
  rw [ruleFor, rule?_ofOptions_eq_or, OrderedTable.get?_reverse_of_distinct ho, hget]
  rfl

theorem ruleFor_of_none (ho : OrderedTable.Distinct o.handlers) {k : Kind}
    (hget : OrderedTable.get? k o.handlers = none) : (ofOptions o).ruleFor k = .builtin (.ofKind k) := by
  rw [← ruleFor_plain, ruleFor, rule?_ofOptions_eq_or, OrderedTable.get?_reverse_of_distinct ho, hget]
  rfl

end Renderer

/-! ## Main result -/

/-- what was registered last under the name of a kind -/
def lastRegistered (entries : List (Value × Candidate)) (k : Kind) : Option Candidate :=
  OrderedTable.get? (.text k.name) entries.reverse

/-- options hold what was registered: each kind once, in the order in which the names first came, with the handler that
came last -/
structure Resolves (entries : List (Value × Candidate)) (o : RenderOptions) : Prop where
  known : ∀ k ∈ o.kinds, k ∈ Kind.known
  once : o.kinds.Nodup
  order : (o.kinds.map fun k => Value.text k.name) = (OrderedTable.keys entries).eraseDups
  last : ∀ k ∈ Kind.known, (OrderedTable.get? k o.handlers).map .callable = lastRegistered entries k

/-- a renderer goes by what was registered: it has a rule for each known kind, which is the handler that was registered
for it, or else the treatment of its class; what has no rule is a plain block -/
structure Serves (entries : List (Value × Candidate)) (r : Renderer) : Prop where
  kinds : OrderedTable.keys r.rules = Kind.known
  registered : ∀ k ∈ Kind.known, ∀ h, lastRegistered entries k = some (.callable h) → r.ruleFor k = .custom h
  others : ∀ k ∈ Kind.known, lastRegistered entries k = none →
    ∃ t, Treatment.ofClass? k = some t ∧ r.ruleFor k = .builtin t
  unknown : ∀ name, (∀ k ∈ Kind.known, k.name ≠ name) → r.ruleFor (.ofName name) = .builtin .plainBlock

section Registrations

variable {entries : List (Value × Candidate)}

theorem keys_registrations (hkeys : ∀ entry ∈ entries, entry.1.isKey = true) :
    OrderedTable.keys (registrations entries) = (OrderedTable.keys entries).eraseDups :=
  Value.comparedBy_meaning.keys_putAll_nil (List.forall_mem_map.2 hkeys)

theorem get?_registrations (hkeys : ∀ entry ∈ entries, entry.1.isKey = true) {key : Value}
    (hkey : key.isKey = true) :
    OrderedTable.get? key (registrations entries) = OrderedTable.get? key entries.reverse := by
  have hnone : ∀ k ∈ OrderedTable.keys ([] : OrderedTable Value Candidate), k.isKey = true :=
    fun k hk => absurd hk List.not_mem_nil
  rw [registrations, Value.comparedBy_meaning.get?_putAll hkey hnone (List.forall_mem_map.2 hkeys)]
  exact Option.or_none

theorem distinct_registrations (entries : List (Value × Candidate)) :
    OrderedTable.Distinct (registrations entries) :=
  OrderedTable.distinct_putAll OrderedTable.distinct_nil entries

variable {o : RenderOptions}

theorem resolves_of_table (hkeys : ∀ entry ∈ entries, entry.1.isKey = true)
    (hknown : ∀ k ∈ o.kinds, k ∈ Kind.known) (htable : registrations entries = o.table) : Resolves entries o where
  known := hknown
  once := OrderedTable.distinct_iff_nodup.1 (RenderOptions.distinct_handlers (htable ▸ distinct_registrations entries))
  order := by rw [← RenderOptions.keys_table, ← htable, keys_registrations hkeys]
  last k hk := by rw [← RenderOptions.get?_table hknown hk, ← htable, get?_registrations hkeys rfl, lastRegistered]

open Renderer in
theorem Resolves.serves (h : Resolves entries o) : Serves entries (ofOptions o) where
  kinds := keys_ofOptions h.known
  registered k hk custom hlast := by
    rw [← h.last k hk, Option.map_eq_some_iff] at hlast
    obtain ⟨g, hget, heq⟩ := hlast
    cases heq
    exact ruleFor_of_handler (OrderedTable.distinct_iff_nodup.2 h.once) hget
  others k hk hlast := by
    rw [← h.last k hk, Option.map_eq_none_iff] at hlast
    exact ⟨_, Treatment.ofClass?_eq k, ruleFor_of_none (OrderedTable.distinct_iff_nodup.2 h.once) hlast⟩
  unknown name hname := by
    -- every kind with a handler is known, so none goes by this name
    have hfree : ∀ k ∈ o.kinds, k ≠ .other name := by
      intro k hk heq
      exact hname k (h.known k hk) (congrArg Kind.name heq)
    have hnone : Kind.ofName? name = none := by
      simpa [Option.eq_none_iff_forall_ne_some, Kind.ofName?_eq_some_iff] using hname
    have hget : OrderedTable.get? (.other name) o.handlers = none :=
      OrderedTable.get?_eq_none fun hk => hfree _ hk rfl
    rw [Kind.ofName, hnone]
    exact ruleFor_of_none (OrderedTable.distinct_iff_nodup.2 h.once) hget

end Registrations

/-- **From registrations to rules.** Let handlers be registered one after the other, under keys that a table can hold.
Then the table that they make has the keys in the order in which they first came, each with what came last under it.
Options are refused exactly if some entry of this table offends: if its key names no known kind, or what is registered
under it cannot be called. The error is that of the first such entry, and its key comes before what is under it.

If no entry offends, there are options. They hold each kind once, in the order of registration, with its last handler,
and making options of their own table changes nothing. The renderer that is made of them has a rule for each known
kind, in the order of kinds: the registered handler, or else the treatment of the class of the kind, which for a
structural kind is its own. Any name that is not known has the rule of plain blocks. -/
theorem registrations_settle_rules (entries : List (Value × Candidate))
    (hkeys : ∀ entry ∈ entries, entry.1.isKey = true) :
    (OrderedTable.keys (registrations entries) = (OrderedTable.keys entries).eraseDups ∧
      ∀ key, key.isKey = true →
        OrderedTable.get? key (registrations entries) = OrderedTable.get? key entries.reverse) ∧
    ((∃ e, RenderOptions.ofRegistrations entries = .error e) ↔ ∃ entry ∈ registrations entries, Offends entry) ∧
    (∀ e, RenderOptions.ofRegistrations entries = .error e ↔ ∃ before entry after,
      registrations entries = before ++ entry :: after ∧ (∀ other ∈ before, ¬ Offends other) ∧ Refused entry e) ∧
    ((∀ entry ∈ registrations entries, ¬ Offends entry) → ∃ o r,
      RenderOptions.ofRegistrations entries = .ok o ∧ Resolves entries o ∧ RenderOptions.ofTable o.table = .ok o ∧
        (Renderer.ofAnyOptions (some (.rendering o))).result = .ok r ∧ Serves entries r) := by
  refine ⟨⟨keys_registrations hkeys, fun key => get?_registrations hkeys⟩, RenderOptions.exists_error_iff,
    fun e => RenderOptions.ofTable_eq_error_iff, fun hfine => ?_⟩
  obtain ⟨o, hknown, htable⟩ := forall_not_offends_iff.1 hfine
  have hok : RenderOptions.ofTable (registrations entries) = .ok o :=
    (RenderOptions.ofTable_eq_ok_iff (distinct_registrations entries)).2 ⟨hknown, htable⟩
  have hresolves : Resolves entries o := resolves_of_table hkeys hknown htable
  exact ⟨o, .ofOptions o, hok, hresolves, htable ▸ hok, rfl, hresolves.serves⟩

/-- strong text is registered twice, the first time with something that cannot be called, and rows in between -/
def crossedRegistrations : List (Value × Candidate) :=
  [(.text "strong", .notCallable), (.text "table_row", .callable fun _ => .done ['r']),
    (.text "strong", .callable fun _ => .done ['s'])]

/-- `1.0` and `true` are one key and name no kind; strong text is registered with something that cannot be called -/
def strayRegistrations : List (Value × Candidate) :=
  [(.number ⟨false, 10, 1⟩, .notCallable), (.text "strong", .notCallable), (.bool true, .callable fun _ => .done [])]

theorem registrations_settle_rules_crossed :
    (∃ o r, RenderOptions.ofRegistrations crossedRegistrations = .ok o ∧ o.kinds = [.strong, .tableRow] ∧
      (Renderer.ofAnyOptions (some (.rendering o))).result = .ok r ∧ Serves crossedRegistrations r) ∧
    RenderOptions.ofRegistrations strayRegistrations =
      .error (.badHandler (.number ⟨false, 10, 1⟩) .unknownKind (some .unknownName)) := by
  constructor
  · have hfine : ∀ entry ∈ registrations crossedRegistrations, ¬ Offends entry :=
      forall_not_offends_iff.2 ⟨⟨[(.strong, fun _ => .done ['s']), (.tableRow, fun _ => .done ['r'])]⟩, by decide, rfl⟩
    obtain ⟨o, r, hok, -, -, hr, hserves⟩ :=
      (registrations_settle_rules crossedRegistrations (by decide)).2.2.2 hfine
    cases hok
    exact ⟨_, r, rfl, rfl, hr, hserves⟩
  · exact ((registrations_settle_rules strayRegistrations (by decide)).2.2.1 _).2
      ⟨[], _, _, rfl, fun _ hother => absurd hother List.not_mem_nil, .unknownKind fun _ _ => nofun⟩

end Unmark
