import Mathlib.Data.List.Basic
import Unmark.OrderedTable
/-!
What is found in a table after something was put into it, and how its keys stand.

Equality of keys need not be lawful. All that finding asks of it is that, among the keys at hand, those are equal that
stand for the same (`ComparedBy`); a lawful equality compares keys by themselves.

Results:
- `ComparedBy.keys_putAll_nil`: a table made of entries has their keys in the order in which they first came;
- `ComparedBy.get?_putAll`: what is found is the last entry under the key, or else what was there before;
- `putAll_of_distinct`: entries under keys that are all different stand as they came.
-/
namespace Unmark.OrderedTable

variable {κ ν : Type}

theorem keys_cons (entry : κ × ν) (rest : OrderedTable κ ν) : keys (entry :: rest) = entry.1 :: keys rest := rfl

variable [BEq κ]

theorem putAll_cons (table : OrderedTable κ ν) (entry : κ × ν) (rest : List (κ × ν)) :
    putAll table (entry :: rest) = putAll (put entry.1 entry.2 table) rest := rfl

theorem get?_cons (key k : κ) (v : ν) (rest : OrderedTable κ ν) :
    get? key ((k, v) :: rest) = if k == key then some v else get? key rest := by
  unfold get?
  rw [List.find?_cons]
  cases hk : k == key <;> simp

theorem get?_append (key : κ) (front back : OrderedTable κ ν) :
    get? key (front ++ back) = (get? key front).or (get? key back) := by
  rw [get?, List.find?_append, Option.map_or]
  rfl

/-- keys and values may be renamed as long as no key becomes equal to the key asked for, or ceases to be so -/
theorem get?_map {κ' ν' : Type} [BEq κ'] {f : κ → κ'} {key : κ} {table : OrderedTable κ ν}
    (hf : ∀ k ∈ keys table, (f k == f key) = (k == key)) (g : ν → ν') :
    get? (f key) (table.map fun entry => (f entry.1, g entry.2)) = (get? key table).map g := by
  induction table with
  | nil => rfl
  | cons entry rest ih =>
    obtain ⟨hfirst, hrest⟩ := List.forall_mem_cons.1 hf
    rw [List.map_cons, get?_cons, get?_cons, ih hrest, hfirst]
    split <;> rfl

/-! ## Places -/

/-- a key that is there keeps its place, a new one goes last -/
theorem keys_put (key : κ) (v : ν) (table : OrderedTable κ ν) :
    keys (put key v table) = if (keys table).any (· == key) then keys table else keys table ++ [key] := by
  induction table with
  | nil => rfl
  | cons entry rest ih =>
    obtain ⟨k, old⟩ := entry
    rw [put]
    cases hk : k == key with
    | true => simp [keys, hk]
    | false =>
      rw [if_neg Bool.false_ne_true, keys_cons, ih, keys_cons, List.any_cons, hk, Bool.false_or]
      exact apply_ite (k :: ·) _ _ _

theorem forall_keys_put {S : κ → Prop} {key : κ} {table : OrderedTable κ ν} (hkey : S key)
    (htable : ∀ k ∈ keys table, S k) (v : ν) : ∀ k ∈ keys (put key v table), S k := by
  rw [keys_put]
  split
  · exact htable
  · exact List.forall_mem_append.2 ⟨htable, List.forall_mem_singleton.2 hkey⟩

/-- no two keys are equal -/
def Distinct (table : OrderedTable κ ν) : Prop := (keys table).Pairwise fun a b => (a == b) = false

theorem distinct_nil : Distinct ([] : OrderedTable κ ν) := .nil

theorem distinct_put {table : OrderedTable κ ν} (h : Distinct table) (key : κ) (v : ν) :
    Distinct (put key v table) := by
  rw [Distinct, keys_put]
  split
  · exact h
  · rename_i hnew
    refine List.pairwise_append.2 ⟨h, List.pairwise_singleton _ _, fun k hk l hl => ?_⟩
    rw [List.mem_singleton.1 hl]
    exact Bool.eq_false_iff.2 fun heq => hnew (List.any_eq_true.2 ⟨k, hk, heq⟩)

theorem distinct_putAll {table : OrderedTable κ ν} (h : Distinct table) (entries : List (κ × ν)) :
    Distinct (putAll table entries) := by
  induction entries generalizing table with
  | nil => exact h
  | cons entry rest ih => exact ih (distinct_put h _ _)

theorem put_of_forall {key : κ} {table : OrderedTable κ ν} (h : ∀ k ∈ keys table, (k == key) = false) (v : ν) :
    put key v table = table ++ [(key, v)] := by
  induction table with
  | nil => rfl
  | cons entry rest ih =>
    obtain ⟨hfirst, hrest⟩ := List.forall_mem_cons.1 h
    rw [put, hfirst, if_neg Bool.false_ne_true, ih hrest, List.cons_append]

/-- entries under keys that are all different stand as they came -/
theorem putAll_of_distinct {table entries : OrderedTable κ ν} (h : Distinct (table ++ entries)) :
    putAll table entries = table ++ entries := by
  induction entries generalizing table with
  | nil => exact (List.append_nil table).symm
  | cons entry rest ih =>
    have hnew : ∀ k ∈ keys table, (k == entry.1) = false := by
      intro k hk
      rw [Distinct, keys, List.map_append] at h
      exact (List.pairwise_append.1 h).2.2 k hk entry.1 List.mem_cons_self
    have hput : put entry.1 entry.2 table = table ++ [entry] := put_of_forall hnew entry.2
    calc putAll table (entry :: rest) = putAll (table ++ [entry]) rest := by rw [putAll_cons, hput]
      _ = table ++ entry :: rest := by rw [ih (by simpa using h), List.append_assoc, List.singleton_append]

/-- of two values under one key, the later one counts, in the place of the earlier one -/
theorem put_put [LawfulBEq κ] (key : κ) (v w : ν) (table : OrderedTable κ ν) :
    put key w (put key v table) = put key w table := by
  induction table with
  | nil => simp [put]
  | cons entry rest ih =>
    obtain ⟨k, old⟩ := entry
    by_cases hk : k = key
    · subst hk
      simp [put]
    · simp [put, hk, ih]

/-- entries under keys that are there leave the keys as they are -/
theorem keys_putAll_of_subset [LawfulBEq κ] {table : OrderedTable κ ν} {entries : List (κ × ν)}
    (h : keys entries ⊆ keys table) : keys (putAll table entries) = keys table := by
  induction entries generalizing table with
  | nil => rfl
  | cons entry rest ih =>
    obtain ⟨hentry, hrest⟩ := List.cons_subset.1 h
    have hput : keys (put entry.1 entry.2 table) = keys table := by
      have hthere : (keys table).any (· == entry.1) = true := List.any_eq_true.2 ⟨_, hentry, beq_self_eq_true _⟩
      rw [keys_put, if_pos hthere]
    rw [← hput]
    exact ih (hput ▸ hrest)

/-! ## Keys that stand for something -/

/-- the keys in `S` are equal if they stand for the same -/
def ComparedBy {ρ : Type} (S : κ → Prop) (meaning : κ → ρ) : Prop :=
  ∀ a b, S a → S b → ((a == b) = true ↔ meaning a = meaning b)

namespace ComparedBy

variable {ρ : Type} {S : κ → Prop} {meaning : κ → ρ}

theorem symm (h : ComparedBy S meaning) {a b : κ} (ha : S a) (hb : S b) : (a == b) = (b == a) := by
  rw [Bool.eq_iff_iff, h a b ha hb, h b a hb ha, eq_comm]

theorem congr (h : ComparedBy S meaning) {a b c : κ} (ha : S a) (hb : S b) (hc : S c) (hab : (a == b) = true) :
    (a == c) = (b == c) := by
  rw [Bool.eq_iff_iff, h a c ha hc, h b c hb hc, (h a b ha hb).1 hab]

/-- a value is found under its key, and all others are found as before -/
theorem get?_put (h : ComparedBy S meaning) {key k : κ} {table : OrderedTable κ ν} (hkey : S key) (hk : S k)
    (htable : ∀ l ∈ keys table, S l) (v : ν) :
    get? key (put k v table) = if k == key then some v else get? key table := by
  induction table with
  | nil => rw [put, get?_cons]
  | cons entry rest ih =>
    obtain ⟨l, old⟩ := entry
    obtain ⟨hl, hrest⟩ := List.forall_mem_cons.1 htable
    rw [put]
    by_cases hput : (l == k) = true
    · rw [if_pos hput, get?_cons, get?_cons, h.congr hl hk hkey hput]
      split <;> rfl
    · rw [if_neg hput, get?_cons, get?_cons, ih hrest]
      by_cases hfound : (l == key) = true
      · -- the key asked for is another one than the key put
        have hother : ¬ (k == key) = true := by
          rw [h.symm hk hkey, ← h.congr hl hkey hk hfound]
          exact hput
        rw [if_pos hfound, if_neg hother, if_pos hfound]
      · rw [if_neg hfound, if_neg hfound]

/-- what is found after some entries were put is the last of them under the key, or else what was there -/
theorem get?_putAll (h : ComparedBy S meaning) {key : κ} {table : OrderedTable κ ν} {entries : List (κ × ν)}
    (hkey : S key) (htable : ∀ k ∈ keys table, S k) (hentries : ∀ k ∈ keys entries, S k) :
    get? key (putAll table entries) = (get? key entries.reverse).or (get? key table) := by
  induction entries generalizing table with
  | nil => rfl
  | cons entry rest ih =>
    obtain ⟨hentry, hrest⟩ := List.forall_mem_cons.1 hentries
    have hlater := ih (forall_keys_put hentry htable entry.2) hrest
    rw [h.get?_put hkey hentry htable] at hlater
    rw [putAll_cons, hlater, List.reverse_cons, get?_append, get?_cons, Option.or_assoc]
    congr 1
    split <;> rfl

/-- the keys that are there come first, and new ones in the order in which they first come -/
theorem keys_putAll (h : ComparedBy S meaning) {table : OrderedTable κ ν} {entries : List (κ × ν)}
    (htable : ∀ k ∈ keys table, S k) (hentries : ∀ k ∈ keys entries, S k) :
    keys (putAll table entries) = List.eraseDupsBy.loop (· == ·) (keys entries) (keys table).reverse := by
  -- the loop holds the keys that it has met, last first: so does the table, in order
  induction entries generalizing table with
  | nil => exact (List.reverse_reverse _).symm
  | cons entry rest ih =>
    obtain ⟨hentry, hrest⟩ := List.forall_mem_cons.1 hentries
    have hthere : (keys table).reverse.any (entry.1 == ·) = (keys table).any (· == entry.1) := by
      rw [List.any_reverse, Bool.eq_iff_iff, List.any_eq_true, List.any_eq_true]
      refine exists_congr fun k => and_congr_right fun hk => ?_
      rw [h.symm hentry (htable k hk)]
    have hlater := ih (forall_keys_put hentry htable entry.2) hrest
    rw [keys_put] at hlater
    rw [putAll_cons, hlater, keys_cons, List.eraseDupsBy.loop, hthere]
    cases (keys table).any (· == entry.1) with
    | true => rfl
    | false => simp

/-- a table made of entries has their keys, each once, in the order in which they first came -/
theorem keys_putAll_nil (h : ComparedBy S meaning) {entries : List (κ × ν)} (hentries : ∀ k ∈ keys entries, S k) :
    keys (putAll [] entries) = (keys entries).eraseDups :=
  h.keys_putAll (fun _ hk => absurd hk List.not_mem_nil) hentries

end ComparedBy

/-! ## Keys that stand for themselves -/

variable [LawfulBEq κ]

theorem comparedBy_id : ComparedBy (fun _ : κ => True) id := fun _ _ _ _ => beq_iff_eq

theorem distinct_iff_nodup {table : OrderedTable κ ν} : Distinct table ↔ (keys table).Nodup :=
  ⟨fun h => h.imp beq_eq_false_iff_ne.1, fun h => h.imp beq_eq_false_iff_ne.2⟩

/-- a value is found under its key, and all others are found as before -/
theorem get?_put (key k : κ) (v : ν) (table : OrderedTable κ ν) :
    get? key (put k v table) = if k == key then some v else get? key table :=
  comparedBy_id.get?_put trivial trivial (fun _ _ => trivial) v

theorem get?_putAll_eq_or (key : κ) (table : OrderedTable κ ν) (entries : List (κ × ν)) :
    get? key (putAll table entries) = (get? key entries.reverse).or (get? key table) :=
  comparedBy_id.get?_putAll trivial (fun _ _ => trivial) (fun _ _ => trivial)

theorem mem_of_get? {key : κ} {v : ν} {table : OrderedTable κ ν} (h : get? key table = some v) : (key, v) ∈ table := by
  obtain ⟨entry, hfind, rfl⟩ := Option.map_eq_some_iff.1 h
  have hkey : entry.1 = key := by simpa using List.find?_some hfind
  exact hkey ▸ List.mem_of_find?_eq_some hfind

theorem get?_eq_none {key : κ} {table : OrderedTable κ ν} (h : key ∉ keys table) : get? key table = none := by
  refine Option.map_eq_none_iff.2 (List.find?_eq_none.2 fun entry hentry hkey => h ?_)
  exact beq_iff_eq.1 hkey ▸ List.mem_map_of_mem hentry

/-- under keys that are all different, it makes no difference from which end one looks -/
theorem get?_reverse_of_distinct {table : OrderedTable κ ν} (h : Distinct table) (key : κ) :
    get? key table.reverse = get? key table := by
  have hput : putAll [] table = table := putAll_of_distinct h
  have hget : get? key (putAll [] table) = (get? key table.reverse).or none := get?_putAll_eq_or key [] table
  rw [hput, Option.or_none] at hget
  exact hget.symm

end Unmark.OrderedTable
