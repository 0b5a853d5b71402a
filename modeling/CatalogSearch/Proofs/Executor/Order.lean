import CatalogSearch.Proofs.Executor.Selection
import CatalogSearch.Proofs.Executor.Stable

/-! # The order of selected rows

Where the sort column holds texts only, or whole numbers and truth values only, a query selects the rows that
satisfy its conditions in one order: by their values in the direction of the query, and rows without a value
last. Rows that this leaves open stay as they are in the collection, in both directions.
-/

namespace CatalogSearch

namespace Value

/-- The text that a value is. -/
def asText? : Value → Option String
  | .string text => some text
  | _ => none

def isText (value : Value) : Bool :=
  value.asText?.isSome

/-- Whether a value is a whole number or counts as one. -/
def isWhole : Value → Bool
  | .bool _ | .int _ => true
  | _ => false

/-- The whole number that a value counts as, zero for all other values. -/
def whole : Value → Int
  | .bool b => if b then 1 else 0
  | .int n => n
  | _ => 0

/-- Whether a value stands at or before another one of its kind: texts by their characters, whole numbers by
size. Texts stand behind all other values. -/
def atMost (left right : Value) : Bool :=
  match left.asText?, right.asText? with
  | some left, some right => left ≤ right
  | some _, none => false
  | none, some _ => true
  | none, none => left.whole ≤ right.whole

theorem ranks_atMost : Sort.Ranks atMost where
  total left right := by
    unfold atMost
    cases left.asText? <;> cases right.asText? <;> simp only [decide_eq_true_eq]
    · omega
    · exact .inl trivial
    · exact .inr trivial
    · exact String.le_total _ _
  trans {left middle right} first second := by
    unfold atMost at first second ⊢
    generalize left.asText? = leftText at first ⊢
    generalize middle.asText? = middleText at first second
    generalize right.asText? = rightText at second ⊢
    cases leftText <;> cases middleText <;> cases rightText <;>
      simp only [decide_eq_true_eq, Bool.false_eq_true] at first second ⊢
    · omega
    · exact String.le_trans first second

theorem less?_of_isText {left right : Value} (first : left.isText = true) (second : right.isText = true) :
    left.less? right = some (!right.atMost left) := by
  cases left with
  | string left =>
    cases right with
    | string right => simp only [less?, atMost, asText?, ← String.not_le, decide_not]
    | null | bool | int | float | list | object => cases second
  | null | bool | int | float | list | object => cases first

theorem less?_of_isWhole {left right : Value} (first : left.isWhole = true) (second : right.isWhole = true) :
    left.less? right = some (!right.atMost left) := by
  have counted : left.less? right = some (decide (left.whole < right.whole)) := by
    cases left with
    | bool | int =>
      cases right with
      | bool | int => rfl
      | null | string | float | list | object => cases second
    | null | string | float | list | object => cases first
  have noText {value : Value} (counts : value.isWhole = true) : value.asText? = none := by
    cases value with
    | string => cases counts
    | null | bool | int | float | list | object => rfl
  simp only [counted, atMost, noText first, noText second, ← Int.not_le, decide_not]

end Value

namespace Query

/-- The order of two rows by their values in the sort column, in the direction of a query. -/
def inOrder (query : Query) (left right : Table) : Bool :=
  match query.sort.direction with
  | .ascending => (left.column query.sort.column).atMost (right.column query.sort.column)
  | .descending => (right.column query.sort.column).atMost (left.column query.sort.column)

/-- Whether a row may stand before another one under a query. Rows without a value in the sort column are last. -/
def precedes (query : Query) (left right : Table) : Bool :=
  if query.hasKey left && query.hasKey right then query.inOrder left right
  else query.hasKey left || !query.hasKey right

/-- The rows that satisfy the conditions of a query, stably sorted in its order. -/
def ordered (query : Query) (rows : List Table) : List Table :=
  (rows.filter query.predicate.accepts).mergeSort query.precedes

/-- The values of some rows in the sort column are all texts, or are all whole numbers and truth values. -/
def Sortable (query : Query) (rows : List Table) : Prop :=
  (∀ row ∈ rows, query.hasKey row = true → (row.column query.sort.column).isText = true) ∨
    ∀ row ∈ rows, query.hasKey row = true → (row.column query.sort.column).isWhole = true

theorem ranks_column (query : Query) :
    Sort.Ranks fun left right : Table =>
      (left.column query.sort.column).atMost (right.column query.sort.column) where
  total _ _ := Value.ranks_atMost.total _ _
  trans first second := Value.ranks_atMost.trans first second

theorem ranks_inOrder (query : Query) : Sort.Ranks query.inOrder := by
  have ranks := query.ranks_column
  unfold inOrder
  cases query.sort.direction with
  | ascending => exact ranks
  | descending => exact ranks.swap

theorem precedes_of_hasKey {query : Query} {left right : Table} (first : query.hasKey left = true)
    (second : query.hasKey right = true) : query.precedes left right = query.inOrder left right := by
  simp only [precedes, first, second, Bool.and_self, if_true]

theorem precedes_of_not {query : Query} {left right : Table} (missing : query.hasKey right = false) :
    query.precedes left right = true := by
  simp only [precedes, missing, Bool.and_false, Bool.false_eq_true, if_false, Bool.not_false, Bool.or_true]

theorem precedes_eq_false {query : Query} {left right : Table} (missing : query.hasKey left = false)
    (given : query.hasKey right = true) : query.precedes left right = false := by
  simp only [precedes, missing, given, Bool.false_and, Bool.false_eq_true, if_false, Bool.not_true, Bool.or_false]

theorem ranks_precedes (query : Query) : Sort.Ranks query.precedes where
  total left right := by
    cases first : query.hasKey left with
    | false => exact .inr (precedes_of_not first)
    | true =>
      cases second : query.hasKey right with
      | false => exact .inl (precedes_of_not second)
      | true =>
        rw [precedes_of_hasKey first second, precedes_of_hasKey second first]
        exact query.ranks_inOrder.total left right
  trans {left middle right} first second := by
    cases last : query.hasKey right with
    | false => exact precedes_of_not last
    | true =>
      -- Nothing without a value stands before a row with one.
      have given {row other : Table} (before : query.precedes row other = true)
          (there : query.hasKey other = true) : query.hasKey row = true := by
        rw [← Bool.not_eq_false]
        exact fun missing => Bool.false_ne_true ((precedes_eq_false missing there).symm.trans before)
      have between := given second last
      have start := given first between
      rw [precedes_of_hasKey start between] at first
      rw [precedes_of_hasKey between last] at second
      rw [precedes_of_hasKey start last]
      exact query.ranks_inOrder.trans first second

theorem level_precedes_of_hasKey {query : Query} {row other : Table} (given : query.hasKey row = true) :
    Sort.level query.precedes row other = (query.hasKey other && Sort.level query.inOrder row other) := by
  cases there : query.hasKey other with
  | false => rw [Sort.level, precedes_eq_false there given, Bool.and_false, Bool.false_and]
  | true => rw [Sort.level, precedes_of_hasKey given there, precedes_of_hasKey there given, Sort.level, Bool.true_and]

private theorem level_precedes_of_not {query : Query} {row other : Table} (missing : query.hasKey row = false) :
    Sort.level query.precedes row other = !query.hasKey other := by
  cases there : query.hasKey other with
  | false => rw [Sort.level, precedes_of_not missing, precedes_of_not there, Bool.true_and, Bool.not_false]
  | true => rw [Sort.level, precedes_eq_false missing there, Bool.false_and, Bool.not_true]

/-- Rows with a value that are arranged by it, and the others behind them, are arranged as the query says. -/
theorem arranged_append {query : Query} {rows sorted : List Table}
    (arranged : Sort.Arranged query.inOrder (rows.filter query.hasKey) sorted) :
    Sort.Arranged query.precedes rows (sorted ++ rows.filter (!query.hasKey ·)) := by
  have given : ∀ row ∈ sorted, query.hasKey row = true := by
    intro row member
    exact (List.mem_filter.mp ((arranged.mem_iff query.ranks_inOrder).mp member)).2
  have missing : ∀ row ∈ rows.filter (!query.hasKey ·), query.hasKey row = false := by
    intro row member
    exact Bool.not_eq_true' _ ▸ (List.mem_filter.mp member).2
  constructor
  · refine List.pairwise_append.mpr ⟨?_, ?_, fun earlier _ later there => precedes_of_not (missing later there)⟩
    · refine arranged.ordered.imp_of_mem fun {earlier later} here there ordered => ?_
      rw [precedes_of_hasKey (given earlier here) (given later there)]
      exact ordered
    · exact List.pairwise_of_forall_mem_list fun _ _ later there => precedes_of_not (missing later there)
  · intro row
    rw [List.filter_append]
    cases here : query.hasKey row with
    | true =>
      have same : Sort.level query.precedes row =
          fun other => query.hasKey other && Sort.level query.inOrder row other :=
        funext fun _ => level_precedes_of_hasKey here
      have none : (rows.filter (!query.hasKey ·)).filter (Sort.level query.precedes row) = [] := by
        refine List.filter_eq_nil_iff.mpr fun other member => ?_
        rw [level_precedes_of_hasKey here, missing other member, Bool.false_and]
        exact Bool.false_ne_true
      rw [none, List.append_nil, same, ← List.filter_filter, arranged.kept row, List.filter_filter,
        List.filter_filter]
      exact List.filter_congr fun other _ => by cases query.hasKey other <;> simp
    | false =>
      have same : Sort.level query.precedes row = (!query.hasKey ·) := funext fun _ => level_precedes_of_not here
      have none : sorted.filter (!query.hasKey ·) = [] := by
        refine List.filter_eq_nil_iff.mpr fun other member => ?_
        rw [given other member, Bool.not_true]
        exact Bool.false_ne_true
      rw [same, none, List.nil_append, List.filter_filter]
      simp only [Bool.and_self]

/-- Under a query that can sort them, the rows come in the one order that the query stands for. -/
theorem sortRows?_eq {query : Query} {rows : List Table} (sortable : query.Sortable rows) :
    query.sortRows? rows = some (rows.mergeSort query.precedes) := by
  have decides : Sort.Decides query.rowLess?
      (fun left right => (left.column query.sort.column).atMost (right.column query.sort.column))
      (rows.filter query.hasKey) := by
    intro left here right there
    obtain ⟨here, first⟩ := List.mem_filter.mp here
    obtain ⟨there, second⟩ := List.mem_filter.mp there
    rcases sortable with texts | numbers
    · exact Value.less?_of_isText (texts left here first) (texts right there second)
    · exact Value.less?_of_isWhole (numbers left here first) (numbers right there second)
  have keyed : (match query.sort.direction with
      | .ascending => Sort.ascending? query.rowLess? (rows.filter query.hasKey)
      | .descending => Sort.descending? query.rowLess? (rows.filter query.hasKey)) =
      some ((rows.filter query.hasKey).mergeSort query.inOrder) := by
    unfold inOrder
    cases query.sort.direction with
    | ascending => exact Sort.ascending?_eq query.ranks_column decides
    | descending => exact Sort.descending?_eq query.ranks_column decides
  have arranged := arranged_append (Sort.arranged_mergeSort query.ranks_inOrder (rows.filter query.hasKey))
  rw [← arranged.eq_mergeSort query.ranks_precedes]
  exact congrArg (Option.map (· ++ rows.filter (!query.hasKey ·))) keyed

/-- What a query selects, where its conditions have answers and it can sort the rows that satisfy them. -/
theorem select_eq {query : Query} {rows : List Table} (decided : query.Decides rows)
    (sortable : query.Sortable (rows.filter query.predicate.accepts)) :
    query.select rows = .ok (query.ordered rows) := by
  rw [select_of_decides decided, sortRows?_eq sortable, ordered]

/-- As many rows are selected as satisfy the conditions. -/
theorem length_ordered (query : Query) (rows : List Table) :
    (query.ordered rows).length = rows.countP query.predicate.accepts := by
  rw [ordered, List.length_mergeSort, List.countP_eq_length_filter]

end Query

end CatalogSearch
