import CatalogSearch.Proofs.Executor.Order

/-! # Windows of one listing

The rows that satisfy the conditions of a query have one listing: by their values in the sort column, with rows of
equal values as they stand in the collection whatever the direction is, and rows without a value last. What an
executor answers is the window of the query in this listing. There are no such rows if there is one of which it cannot
be said whether it satisfies the conditions.
-/

namespace CatalogSearch.Sort

variable {α : Type} {le : α → α → Bool}

private theorem Ranks.level_eq (ranks : Ranks le) {left right : α} (same : level le left right = true) :
    level le left = level le right := by
  obtain ⟨forth, back⟩ := level_eq_true_iff.mp same
  funext row
  apply Bool.eq_iff_iff.mpr
  rw [level_eq_true_iff, level_eq_true_iff]
  constructor
  · rintro ⟨first, second⟩
    exact ⟨ranks.trans back first, ranks.trans second forth⟩
  · rintro ⟨first, second⟩
    exact ⟨ranks.trans forth first, ranks.trans second back⟩

/-- Only the levels of the rows themselves have to be looked at. -/
theorem arranged_of_mem (ranks : Ranks le) {rows sorted : List α} (inside : sorted ⊆ rows)
    (ordered : sorted.Pairwise fun earlier later => le earlier later = true)
    (kept : ∀ row ∈ rows, sorted.filter (level le row) = rows.filter (level le row)) : Arranged le rows sorted := by
  refine ⟨ordered, fun row => ?_⟩
  by_cases present : ∃ other ∈ rows, level le row other = true
  · obtain ⟨other, member, same⟩ := present
    rw [ranks.level_eq same]
    exact kept other member
  · have none : ∀ other ∈ rows, ¬level le row other = true := by
      intro other member same
      exact present ⟨other, member, same⟩
    rw [List.filter_eq_nil_iff.mpr none, List.filter_eq_nil_iff.mpr fun other member => none other (inside member)]

end CatalogSearch.Sort

namespace CatalogSearch

namespace Value

/-- Texts are of one level exactly if they are equal. -/
theorem level_atMost_of_isText {left right : Value} (first : left.isText = true) (second : right.isText = true) :
    Sort.level atMost left right = left.same right := by
  cases left with
  | string left =>
    cases right with
    | string right =>
      apply Bool.eq_iff_iff.mpr
      simp only [Sort.level_eq_true_iff, atMost, asText?, same, decide_eq_true_eq, beq_iff_eq]
      constructor
      · rintro ⟨forth, back⟩
        exact String.le_antisymm forth back
      · rintro rfl
        exact ⟨String.le_refl _, String.le_refl _⟩
    | null | bool | int | float | list | object => cases second
  | null | bool | int | float | list | object => cases first

/-- Whole numbers and truth values are of one level exactly if they are equal. -/
theorem level_atMost_of_isWhole {left right : Value} (first : left.isWhole = true) (second : right.isWhole = true) :
    Sort.level atMost left right = left.same right := by
  have equal : left.same right = decide (left.whole = right.whole) := by
    cases left with
    | bool | int =>
      cases right with
      | bool | int => rfl
      | null | string | float | list | object => cases second
    | null | string | float | list | object => cases first
  have level : Sort.level atMost left right =
      (decide (left.whole ≤ right.whole) && decide (right.whole ≤ left.whole)) := by
    cases left with
    | bool | int =>
      cases right with
      | bool | int => rfl
      | null | string | float | list | object => cases second
    | null | string | float | list | object => cases first
  rw [equal, level, ← Bool.decide_and]
  apply decide_eq_decide.mpr
  omega

end Value

namespace Query

def sameKey (query : Query) (left right : Table) : Bool :=
  (left.column query.sort.column).same (right.column query.sort.column)

/-- The listing of the rows that satisfy the conditions of a query. -/
structure Lists (query : Query) (matching listed : List Table) : Prop where
  /-- Every row is listed as often as it is there, and no other row is. -/
  rows : listed.Perm matching
  /-- Rows without a value in the sort column are last, as they stand in the collection. -/
  missing : listed = listed.filter query.hasKey ++ matching.filter (!query.hasKey ·)
  /-- The other rows are ordered by their values, in the direction of the query. -/
  ordered : (listed.filter query.hasKey).Pairwise fun earlier later => query.inOrder earlier later = true
  /-- Rows of equal values are listed as they stand in the collection, in both directions. -/
  ties : ∀ row ∈ matching, query.hasKey row = true →
    listed.filter (query.sameKey row) = matching.filter (query.sameKey row)

variable {query : Query} {matching listed : List Table}

theorem Sortable.level_inOrder (sortable : query.Sortable matching) {left right : Table} (first : left ∈ matching)
    (second : right ∈ matching) (given : query.hasKey left = true) (there : query.hasKey right = true) :
    Sort.level query.inOrder left right = query.sameKey left right := by
  have level : Sort.level Value.atMost (left.column query.sort.column) (right.column query.sort.column) =
      query.sameKey left right := by
    rcases sortable with texts | numbers
    · exact Value.level_atMost_of_isText (texts left first given) (texts right second there)
    · exact Value.level_atMost_of_isWhole (numbers left first given) (numbers right second there)
  rw [← level]
  unfold inOrder
  cases query.sort.direction with
  | ascending => rfl
  | descending => exact Bool.and_comm _ _

/-- A listing is the stable arrangement of the rows in the order of the query. -/
theorem Lists.eq_mergeSort (lists : query.Lists matching listed) (sortable : query.Sortable matching) :
    listed = matching.mergeSort query.precedes := by
  have inside : listed.filter query.hasKey ⊆ matching.filter query.hasKey := by
    intro row member
    obtain ⟨here, given⟩ := List.mem_filter.mp member
    exact List.mem_filter.mpr ⟨lists.rows.mem_iff.mp here, given⟩
  have arranged : Sort.Arranged query.inOrder (matching.filter query.hasKey) (listed.filter query.hasKey) := by
    apply Sort.arranged_of_mem query.ranks_inOrder inside lists.ordered
    intro row member
    obtain ⟨here, given⟩ := List.mem_filter.mp member
    have ties := congrArg (List.filter query.hasKey) (lists.ties row here given)
    have level : ∀ other ∈ matching.filter query.hasKey,
        Sort.level query.inOrder row other = query.sameKey row other := by
      intro other present
      obtain ⟨there, also⟩ := List.mem_filter.mp present
      exact sortable.level_inOrder here there given also
    rw [List.filter_congr level, List.filter_congr fun other present => level other (inside present)]
    simpa only [List.filter_filter, Bool.and_comm] using ties
  rw [lists.missing]
  exact (arranged_append arranged).eq_mergeSort query.ranks_precedes

end Query

namespace Executor

end Executor

end CatalogSearch
