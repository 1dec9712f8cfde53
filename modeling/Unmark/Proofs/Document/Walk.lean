import Unmark.Proofs.Render.BuiltIn
/-!
The walk over a document and what rendering reaches. A part of a node is in the walk over the node, with all that the
walk over the part visits. Rows of a table are the exception: their cells are visited, they themselves are not.
-/
namespace Unmark

namespace Node

theorem mem_walk_self (n : Node) : n ∈ n.walk := by
  cases n with
  | element head children items header rows => rw [walk]; exact List.mem_cons_self
  | cells entries => exact List.mem_singleton_self _
  | stray value => exact List.mem_singleton_self _

theorem mem_walkAll {x : Node} {nodes : List Node} : x ∈ walkAll nodes ↔ ∃ n ∈ nodes, x ∈ n.walk := by
  induction nodes with
  | nil => simp [walkAll]
  | cons n rest ih => simp [walkAll, ih]

/-- the walk over a node that is no table visits the node, and then what its kids lead to -/
theorem mem_walk_kids {n x : Node} (htable : n.hasKind .table = false) :
    x ∈ n.walk ↔ x = n ∨ ∃ kid ∈ n.kids, x ∈ kid.walk := by
  cases n with
  | element head children items header rows =>
    have hkind : head.kind ≠ .table := by simpa [hasKind] using htable
    rw [walk, kids, List.mem_cons]
    split
    · cases items with
      | none => simp [walkSome]
      | some given => rw [walkSome, mem_walkAll]; rfl
    · exact absurd ‹_› hkind
    · rw [mem_walkAll]
  | cells entries => simp [walk, kids]
  | stray value => simp [walk, kids]

/-- kids of a node that is no table are parts of it -/
theorem isPart_of_mem_kids {n kid : Node} (htable : n.hasKind .table = false) (h : kid ∈ n.kids) : IsPart kid n := by
  cases n with
  | element head children items header rows =>
    have hkind : head.kind ≠ .table := by simpa [hasKind] using htable
    by_cases hlist : head.kind = .list
    · cases items with
      | none => simp [kids, hlist] at h
      | some given =>
        simp only [kids, hlist, Option.getD_some] at h
        exact .item hlist h
    · rw [kids] at h
      split at h
      · exact absurd ‹_› hlist
      · exact absurd ‹_› hkind
      · exact .child hlist hkind h
  | cells entries => cases h
  | stray value => cases h

theorem mem_walkRowList {x : Node} {rows : List Node} : x ∈ walkRowList rows ↔ ∃ row ∈ rows, x ∈ walkRow row := by
  induction rows with
  | nil => simp [walkRowList]
  | cons row rest ih => simp [walkRowList, ih]

/-- the walk over the node of a row visits that node and then what the walk over the row visits -/
theorem mem_walk_rowNode {row n x : Node} (h : Treatment.rowNode row = .ok n) (hx : x ∈ n.walk) :
    n.hasKind .tableRow = true ∧ (x = n ∨ x ∈ walkRow row) := by
  cases row with
  | element head children items header rows =>
    simp only [Treatment.rowNode] at h
    split at h
    · rename_i hk
      cases h
      simp only [walk, hk, List.mem_cons] at hx
      exact ⟨by simp [hasKind, hk], hx⟩
    · cases h
  | cells entries =>
    cases h
    simp only [branch, walk, List.mem_cons] at hx
    exact ⟨rfl, hx⟩
  | stray value => cases h

/-- what is visited below a part is visited below the node, the node that stands for a row of a table apart -/
theorem mem_walk_of_isPart_cases {n m x : Node} (h : IsPart n m) (hx : x ∈ n.walk) :
    x ∈ m.walk ∨ m.hasKind .table = true ∧ (∃ row ∈ m.rows.getD [], Treatment.rowNode row = .ok n) ∧
      n.hasKind .tableRow = true ∧ x = n := by
  cases h with
  | child notList notTable mem =>
    left
    have hbelow := mem_walkAll.2 ⟨n, mem, hx⟩
    rw [walk]
    split <;> simp_all
  | item isList mem =>
    left
    simp only [walk, isList, walkSome, List.mem_cons]
    exact .inr (mem_walkAll.2 ⟨n, mem, hx⟩)
  | entry isTable mem =>
    left
    simp only [walk, isTable, walkSome, List.mem_cons, List.mem_append]
    exact .inr (.inl (mem_walkAll.2 ⟨n, mem, hx⟩))
  | row isTable mem asNode =>
    obtain ⟨hrow, hx⟩ := mem_walk_rowNode asNode hx
    rcases hx with rfl | hcells
    · exact .inr ⟨by simp [hasKind, isTable], ⟨_, mem, asNode⟩, hrow, rfl⟩
    · left
      simp only [walk, isTable, walkRows, List.mem_cons, List.mem_append]
      exact .inr (.inr (mem_walkRowList.2 ⟨_, mem, hcells⟩))

theorem mem_walk_of_isPart {n m x : Node} (h : IsPart n m) (hx : x ∈ n.walk) :
    x ∈ m.walk ∨ m.hasKind .table = true ∧ n.hasKind .tableRow = true ∧ x = n := by
  rcases mem_walk_of_isPart_cases h hx with hbelow | ⟨htable, -, hrow, hself⟩
  · exact .inl hbelow
  · exact .inr ⟨htable, hrow, hself⟩

/-- only the rows of tables are parts that are not visited -/
theorem walk_subset_of_isPart {n m : Node} (htable : m.hasKind .table = false) (h : IsPart n m) : n.walk ⊆ m.walk := by
  intro x hx
  rcases mem_walk_of_isPart h hx with hbelow | ⟨hintable, -, -⟩
  · exact hbelow
  · rw [htable] at hintable
    cases hintable

/-- what holds of all that is visited below a node, rows apart, holds so below its parts -/
theorem forall_walk_of_isPart {p : Node → Prop} {n m : Node} (h : IsPart n m)
    (hm : ∀ x ∈ m.walk, x.hasKind .tableRow = true ∨ p x) : ∀ x ∈ n.walk, x.hasKind .tableRow = true ∨ p x := by
  intro x hx
  rcases mem_walk_of_isPart h hx with hbelow | ⟨-, hrow, rfl⟩
  · exact hm x hbelow
  · exact .inl hrow

/-- the walk over a node without tables holds the walks over all that it visits -/
theorem walk_subset {n m : Node} (htable : ∀ x ∈ n.walk, x.hasKind .table = false) (hm : m ∈ n.walk) :
    m.walk ⊆ n.walk := by
  induction n using induction_isPart with
  | element head children items header rows ih =>
    have hself := htable _ (mem_walk_self _)
    rcases (mem_walk_kids hself).1 hm with rfl | ⟨kid, hkid, hm⟩
    · exact List.Subset.refl _
    · have hpart := isPart_of_mem_kids hself hkid
      have hbelow := walk_subset_of_isPart hself hpart
      exact List.Subset.trans (ih kid hpart (fun x hx => htable x (hbelow hx)) hm) hbelow
  | cells entries => rw [List.mem_singleton.1 hm]; exact List.Subset.refl _
  | stray value => rw [List.mem_singleton.1 hm]; exact List.Subset.refl _

end Node

end Unmark
