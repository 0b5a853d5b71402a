import CatalogSearch.Proofs.Executor.Order
import Mathlib.Data.List.Pairwise

/-! # Queries that are refused

A sort that gets through knows the order of any two of its rows. Where the comparison says nothing about texts beside
numbers, it gets through on no rows that hold both: it would have to give the same rows under a ranking with texts in
front and under one with texts behind. So a query is refused for the rows that satisfy its conditions and for nothing
else.
-/

namespace CatalogSearch.Sort

variable {α : Type} {less? more? : α → α → Option Bool} {le ge : α → α → Bool}

/-! ## Comparisons that decide more -/

/-- What one comparison decides, another one decides the same way. -/
def Refines (less? more? : α → α → Option Bool) : Prop :=
  ∀ {left right : α} {less : Bool}, less? left right = some less → more? left right = some less

theorem Refines.insert? (refines : Refines less? more?) {row : α} {sorted inserted : List α}
    (done : insert? less? row sorted = some inserted) : Sort.insert? more? row sorted = some inserted := by
  induction sorted using insert?.induct generalizing inserted
  case case1 sorted cut =>
    rw [insert?_of_drop_eq_nil cut] at done ⊢
    exact done
  case case2 sorted middle right cut left insertLeft insertRight =>
    rw [insert?_of_drop_eq_cons cut] at done ⊢
    obtain ⟨less, asked, done⟩ := Option.bind_eq_some_iff.mp done
    rw [refines asked, Option.bind_some]
    cases less with
    | true =>
      obtain ⟨front, found, rfl⟩ := Option.map_eq_some_iff.mp done
      exact Option.map_eq_some_iff.mpr ⟨front, insertLeft found, rfl⟩
    | false =>
      obtain ⟨back, found, rfl⟩ := Option.map_eq_some_iff.mp done
      exact Option.map_eq_some_iff.mpr ⟨back, insertRight found, rfl⟩

theorem Refines.insertAll? (refines : Refines less? more?) {rows sorted inserted : List α}
    (done : insertAll? less? sorted rows = some inserted) : Sort.insertAll? more? sorted rows = some inserted := by
  induction rows generalizing sorted with
  | nil => exact done
  | cons row rest ih =>
    obtain ⟨next, found, done⟩ := Option.bind_eq_some_iff.mp done
    exact Option.bind_eq_some_iff.mpr ⟨next, refines.insert? found, ih done⟩

theorem Refines.runFrom? (refines : Refines less? more?) {wanted : Bool} {last : α} {rows : List α}
    {parts : List α × List α} (done : runFrom? less? wanted last rows = some parts) :
    Sort.runFrom? more? wanted last rows = some parts := by
  induction rows generalizing last parts with
  | nil => exact done
  | cons row rows ih =>
    obtain ⟨less, asked, done⟩ := Option.bind_eq_some_iff.mp done
    refine Option.bind_eq_some_iff.mpr ⟨less, refines asked, ?_⟩
    split at done
    · next goes =>
      obtain ⟨further, found, done⟩ := Option.bind_eq_some_iff.mp done
      rw [if_pos goes]
      exact Option.bind_eq_some_iff.mpr ⟨further, ih found, done⟩
    · next turns =>
      rw [if_neg turns]
      exact done

/-- A sort that gets through never meets what a better comparison would add. -/
theorem Refines.ascending? (refines : Refines less? more?) {rows sorted : List α}
    (done : ascending? less? rows = some sorted) : Sort.ascending? more? rows = some sorted := by
  unfold Sort.ascending? at done ⊢
  split at done
  · next first second rest =>
    obtain ⟨falling, asked, done⟩ := Option.bind_eq_some_iff.mp done
    obtain ⟨⟨run, behind⟩, found, done⟩ := Option.bind_eq_some_iff.mp done
    refine Option.bind_eq_some_iff.mpr ⟨falling, refines asked, ?_⟩
    exact Option.bind_eq_some_iff.mpr ⟨(run, behind), refines.runFrom? found, refines.insertAll? done⟩
  · exact done

/-! ## Rankings that a comparison leaves open -/

/-- On some rows, a comparison says nothing against a ranking. -/
def Agrees (less? : α → α → Option Bool) (le : α → α → Bool) (rows : List α) : Prop :=
  ∀ left ∈ rows, ∀ right ∈ rows, ∀ less, less? left right = some less → less = !le right left

/-- A sort that gets through gives the rows in the order of every ranking that its comparison agrees with. -/
theorem eq_mergeSort_of_ascending? (ranks : Ranks le) {rows sorted : List α} (agrees : Agrees less? le rows)
    (done : ascending? less? rows = some sorted) : sorted = rows.mergeSort le := by
  -- The comparison is completed by the ranking, so that it decides all rows.
  let completed (left right : α) : Option Bool := (less? left right).or (some !le right left)
  have refines : Refines less? completed := fun decided => by simp only [completed, decided, Option.some_or]
  have decides : Decides completed le rows := by
    intro left here right there
    cases decided : less? left right with
    | none => simp only [completed, decided, Option.none_or]
    | some less => simp only [completed, decided, Option.some_or, agrees left here right there less decided]
  exact Option.some.inj ((refines.ascending? done).symm.trans (ascending?_eq ranks decides))

/-- Of two rows in a list that is in order under two rankings, one stands before the other under both. -/
theorem ordered_of_pairwise (first : Ranks le) (second : Ranks ge) {sorted : List α}
    (risesFirst : sorted.Pairwise fun earlier later => le earlier later = true)
    (risesSecond : sorted.Pairwise fun earlier later => ge earlier later = true) {left right : α}
    (here : left ∈ sorted) (there : right ∈ sorted) :
    (le left right = true ∧ ge left right = true) ∨ le right left = true ∧ ge right left = true := by
  let ordered (left right : α) : Prop := le left right = true ∧ ge left right = true
  have symmetric : Std.Symm fun left right => ordered left right ∨ ordered right left := ⟨fun _ _ => Or.symm⟩
  have rises : sorted.Pairwise fun left right => ordered left right ∨ ordered right left :=
    (risesFirst.and risesSecond).imp .inl
  refine List.Pairwise.forall_of_forall (fun row _ => .inl ⟨?_, ?_⟩) rises here there
  · exact (level_eq_true_iff.mp (first.level_self row)).1
  · exact (level_eq_true_iff.mp (second.level_self row)).1

/-- A sort does not get through if two rankings that its comparison agrees with put two rows in opposite orders. -/
theorem ascending?_eq_none (first : Ranks le) (second : Ranks ge) {rows : List α} (agreesFirst : Agrees less? le rows)
    (agreesSecond : Agrees less? ge rows) {left right : α} (here : left ∈ rows) (there : right ∈ rows)
    (before : le right left = false) (behind : ge left right = false) : ascending? less? rows = none := by
  apply Option.eq_none_iff_forall_ne_some.mpr
  intro sorted done
  have risesFirst := (arranged_mergeSort first rows).ordered
  have risesSecond := (arranged_mergeSort second rows).ordered
  rw [← eq_mergeSort_of_ascending? first agreesFirst done] at risesFirst
  rw [← eq_mergeSort_of_ascending? second agreesSecond done] at risesSecond
  have same := perm_ascending? done
  rcases ordered_of_pairwise first second risesFirst risesSecond (same.mem_iff.mpr here) (same.mem_iff.mpr there) with
    ⟨_, other⟩ | ⟨other, _⟩
  · exact Bool.false_ne_true (behind.symm.trans other)
  · exact Bool.false_ne_true (before.symm.trans other)

private theorem descending?_eq_none (first : Ranks le) (second : Ranks ge) {rows : List α}
    (agreesFirst : Agrees less? le rows)
    (agreesSecond : Agrees less? ge rows) {left right : α} (here : left ∈ rows) (there : right ∈ rows)
    (before : le right left = false) (behind : ge left right = false) : descending? less? rows = none := by
  have turned {le : α → α → Bool} (agrees : Agrees less? le rows) : Agrees less? le rows.reverse := by
    intro left here right there
    exact agrees left (List.mem_reverse.mp here) right (List.mem_reverse.mp there)
  rw [descending?, ascending?_eq_none first second (turned agreesFirst) (turned agreesSecond)
    (List.mem_reverse.mpr here) (List.mem_reverse.mpr there) before behind, Option.map_none]

end CatalogSearch.Sort

namespace CatalogSearch

namespace Value

/-! ## Texts beside whole numbers -/

/-- Whether a value stands at or before another one where texts stand in front of all other values. -/
def atMostTextsFirst (left right : Value) : Bool :=
  if left.isText = right.isText then left.atMost right else left.isText

theorem ranks_atMostTextsFirst : Sort.Ranks atMostTextsFirst where
  total left right := by
    unfold atMostTextsFirst
    cases left.isText <;> cases right.isText <;>
      simp only [Bool.false_eq_true, Bool.true_eq_false, if_true, if_false, or_true, true_or]
    · exact ranks_atMost.total left right
    · exact ranks_atMost.total left right
  trans {left middle right} first second := by
    unfold atMostTextsFirst at first second ⊢
    generalize left.isText = leftText at first ⊢
    generalize middle.isText = middleText at first second
    generalize right.isText = rightText at second ⊢
    cases leftText <;> cases middleText <;> cases rightText <;>
      simp only [Bool.false_eq_true, Bool.true_eq_false, if_true, if_false] at first second ⊢
    · exact ranks_atMost.trans first second
    · exact ranks_atMost.trans first second

theorem isText_eq_false {value : Value} (whole : value.isWhole = true) : value.isText = false := by
  cases value with
  | bool | int => rfl
  | null | string | float | list | object => cases whole

/-- A text and a whole number have no order. -/
theorem less?_of_mixed {left right : Value} (text : left.isText = true) (whole : right.isWhole = true) :
    left.less? right = none ∧ right.less? left = none := by
  cases left with
  | string =>
    cases right with
    | bool | int => exact ⟨rfl, rfl⟩
    | null | string | float | list | object => cases whole
  | null | bool | int | float | list | object => cases text

private theorem atMost_of_mixed {left right : Value} (text : left.isText = true) (whole : right.isWhole = true) :
    left.atMost right = false ∧ right.atMostTextsFirst left = false := by
  cases left with
  | string =>
    cases right with
    | bool | int => exact ⟨rfl, rfl⟩
    | null | string | float | list | object => cases whole
  | null | bool | int | float | list | object => cases text

/-- Whether a value is a text, a whole number or a truth value. -/
def isPlain (value : Value) : Bool :=
  value.isText || value.isWhole

/-- What two such values say about their order holds wherever the texts stand. -/
theorem less?_of_isPlain {left right : Value} (first : left.isPlain = true) (second : right.isPlain = true)
    {less : Bool} (decided : left.less? right = some less) :
    less = (!right.atMost left) ∧ less = !right.atMostTextsFirst left := by
  rcases Bool.or_eq_true_iff.mp first with leftText | leftWhole <;>
    rcases Bool.or_eq_true_iff.mp second with rightText | rightWhole
  · cases decided.symm.trans (less?_of_isText leftText rightText)
    rw [atMostTextsFirst, leftText, rightText, if_pos rfl]
    exact ⟨rfl, rfl⟩
  · cases decided.symm.trans (less?_of_mixed leftText rightWhole).1
  · cases decided.symm.trans (less?_of_mixed rightText leftWhole).2
  · cases decided.symm.trans (less?_of_isWhole leftWhole rightWhole)
    rw [atMostTextsFirst, isText_eq_false leftWhole, isText_eq_false rightWhole, if_pos rfl]
    exact ⟨rfl, rfl⟩

end Value

namespace Query

/-- Each value of some rows in the sort column is a text, a whole number or a truth value. -/
def Plain (query : Query) (rows : List Table) : Prop :=
  ∀ row ∈ rows, query.hasKey row = true → (row.column query.sort.column).isPlain = true

/-- Among some rows there is one with a text in the sort column and one with a whole number or a truth value. -/
def Mixed (query : Query) (rows : List Table) : Prop :=
  (∃ row ∈ rows, (row.column query.sort.column).isText = true) ∧
    ∃ row ∈ rows, (row.column query.sort.column).isWhole = true

variable {query : Query} {rows : List Table}

theorem ranks_textsFirst (query : Query) :
    Sort.Ranks fun left right : Table =>
      (left.column query.sort.column).atMostTextsFirst (right.column query.sort.column) where
  total _ _ := Value.ranks_atMostTextsFirst.total _ _
  trans first second := Value.ranks_atMostTextsFirst.trans first second

private theorem hasKey_of_isPlain {row : Table} (plain : (row.column query.sort.column).isPlain = true) :
    query.hasKey row = true := by
  unfold hasKey
  cases value : row.column query.sort.column with
  | null => rw [value] at plain; cases plain
  | bool | int | float | string | list | object => rfl

/-- Rows whose values are not mixed can be sorted. -/
theorem Plain.sortable (plain : query.Plain rows) (pure : ¬query.Mixed rows) : query.Sortable rows := by
  by_cases text : ∃ row ∈ rows, (row.column query.sort.column).isText = true
  · left
    intro row member given
    rcases Bool.or_eq_true_iff.mp (plain row member given) with here | whole
    · exact here
    · exact absurd ⟨text, row, member, whole⟩ pure
  · right
    intro row member given
    rcases Bool.or_eq_true_iff.mp (plain row member given) with here | whole
    · exact absurd ⟨row, member, here⟩ text
    · exact whole

/-- No order of the rows lets mixed values get through. -/
theorem Plain.sortRows?_eq_none (plain : query.Plain rows) (mixed : query.Mixed rows) :
    query.sortRows? rows = none := by
  obtain ⟨⟨left, here, text⟩, right, there, whole⟩ := mixed
  have keyed {row : Table} (member : row ∈ rows) (given : (row.column query.sort.column).isPlain = true) :
      row ∈ rows.filter query.hasKey := List.mem_filter.mpr ⟨member, hasKey_of_isPlain given⟩
  have textHere := keyed here (Bool.or_eq_true_iff.mpr (.inl text))
  have wholeThere := keyed there (Bool.or_eq_true_iff.mpr (.inr whole))
  have agrees {row other : Table} (member : row ∈ rows.filter query.hasKey)
      (present : other ∈ rows.filter query.hasKey) {less : Bool} (decided : query.rowLess? row other = some less) :=
    Value.less?_of_isPlain (plain row (List.mem_filter.mp member).1 (List.mem_filter.mp member).2)
      (plain other (List.mem_filter.mp present).1 (List.mem_filter.mp present).2) decided
  have behind : Sort.Agrees query.rowLess?
      (fun left right => (left.column query.sort.column).atMost (right.column query.sort.column))
      (rows.filter query.hasKey) := fun _ member _ present _ decided => (agrees member present decided).1
  have inFront : Sort.Agrees query.rowLess?
      (fun left right => (left.column query.sort.column).atMostTextsFirst (right.column query.sort.column))
      (rows.filter query.hasKey) := fun _ member _ present _ decided => (agrees member present decided).2
  obtain ⟨notBehind, notInFront⟩ := Value.atMost_of_mixed text whole
  refine Option.map_eq_none_iff.mpr ?_
  split
  · exact Sort.ascending?_eq_none query.ranks_column query.ranks_textsFirst behind inFront wholeThere textHere
      notBehind notInFront
  · exact Sort.descending?_eq_none query.ranks_column query.ranks_textsFirst behind inFront wholeThere textHere
      notBehind notInFront

/-- A query is refused for an unknown collection and for mixed values of rows that satisfy its conditions. -/
theorem run_eq_error_iff {collections : Collections} {name : String} {failure : QueryFailure}
    (decided : ∀ rows, collections.lookup name = some rows → query.Decides rows)
    (plain : ∀ rows, collections.lookup name = some rows → query.Plain (rows.filter query.predicate.accepts)) :
    query.run collections name = .error failure ↔
      (collections.lookup name = none ∧ failure = .refused (.unknownCollection name)) ∨
        ∃ rows, collections.lookup name = some rows ∧ query.Mixed (rows.filter query.predicate.accepts) ∧
          failure = .refused (.unsortable query.sort.column) := by
  unfold run
  cases found : collections.lookup name with
  | none => simp [eq_comm]
  | some rows =>
    by_cases mixed : query.Mixed (rows.filter query.predicate.accepts)
    · have refused := (plain rows found).sortRows?_eq_none mixed
      simp [select_of_decides (decided rows found), refused, mixed, Except.map, eq_comm]
    · have answered := select_eq (decided rows found) ((plain rows found).sortable mixed)
      simp [answered, mixed, Except.map]

/-- Rows that do not satisfy the conditions of a query do not matter. -/
theorem select_congr {rows others : List Table} (first : query.Decides rows) (second : query.Decides others)
    (same : rows.filter query.predicate.accepts = others.filter query.predicate.accepts) :
    query.select rows = query.select others := by
  rw [select_of_decides first, select_of_decides second, same]

end Query

namespace Executor

/-- Where the conditions of a query have an answer on every row, and the values of the rows that satisfy them are texts,
whole numbers and truth values in the sort column, the query is refused exactly if there is no such collection, or if
one of these rows has a text and another one a number, and it has rows in all other cases. Neither the window nor the
other rows matter, and the query counts as a call in every case. -/
theorem execute_refuses_iff (executor : Executor) (name : String) (query : Query)
    (decided : ∀ rows, executor.collections.lookup name = some rows →
      ∀ row ∈ rows, ∃ answer, query.predicate.holdsIn row = .ok answer)
    (plain : ∀ rows, executor.collections.lookup name = some rows →
      query.Plain (rows.filter query.predicate.accepts)) :
    (∀ failure, (executor.execute name query).2 = .error failure ↔
      (executor.collections.lookup name = none ∧ failure = .refused (.unknownCollection name)) ∨
        ∃ rows, executor.collections.lookup name = some rows ∧
          query.Mixed (rows.filter query.predicate.accepts) ∧ failure = .refused (.unsortable query.sort.column)) ∧
    (∀ (offset limit : Int) (failure : QueryFailure),
      (executor.execute name { query with offset, limit }).2 = .error failure ↔
        (executor.execute name query).2 = .error failure) ∧
    (∀ rows others, (∀ row ∈ rows ++ others, ∃ answer, query.predicate.holdsIn row = .ok answer) →
      rows.filter query.predicate.accepts = others.filter query.predicate.accepts →
      ((executor.add name rows).execute name query).2 = ((executor.add name others).execute name query).2) ∧
    (executor.execute name query).1 = { executor with calls := executor.calls + 1 } := by
  refine ⟨fun failure => Query.run_eq_error_iff decided plain, fun offset limit failure => ?_,
    fun rows others answered same => ?_, rfl⟩
  · have moved : ∀ rows, executor.collections.lookup name = some rows →
        Query.Plain { query with offset, limit } (rows.filter query.predicate.accepts) := plain
    have still : ∀ rows, executor.collections.lookup name = some rows →
        Query.Decides { query with offset, limit } rows := decided
    exact (Query.run_eq_error_iff still moved).trans (Query.run_eq_error_iff decided plain).symm
  · obtain ⟨first, second⟩ := List.forall_mem_append.mp answered
    simp only [execute, add, Query.run, Collections.put, List.lookup_cons_self, Query.select_congr first second same]

/-- A title on a shelf with the number of its copies. -/
def shelvedTitle (title shelf : String) (copies : Value) : Table :=
  [("title", .string title), ("shelf", .string shelf), ("copies", copies)]

/-- On one shelf, the number of copies is written out for one title and counted for another one. On the last shelf, it
is neither. -/
def shelvedTitles : List Table :=
  [shelvedTitle "Dune" "upper" (.string "two"), shelvedTitle "Emma" "upper" (.int 3),
    shelvedTitle "Ulysses" "middle" (.int 2), shelvedTitle "Walden" "upper" .null,
    shelvedTitle "Kim" "lower" (.list [])]

/-- The titles on a shelf by the number of their copies. -/
def shelfQuery (shelf : String) (offset : Int) : Query where
  conditions := [.eq "shelf" (.string shelf)]
  sort := ⟨"copies", .ascending⟩
  offset := offset
  limit := 10

/-- The upper shelf cannot be sorted, not even for a window behind its end. The titles there and on the lower shelf do
not stand in the way of a query for the middle one. -/
theorem execute_refuses_iff_shelf :
    let executor : Executor := { collections := [("books", shelvedTitles)] }
    (∀ rows, executor.collections.lookup "books" = some rows → ∀ shelf offset, (shelfQuery shelf offset).Decides rows) ∧
    (∀ rows, executor.collections.lookup "books" = some rows →
      (shelfQuery "upper" 40).Plain (rows.filter (shelfQuery "upper" 40).predicate.accepts)) ∧
    (executor.execute "books" (shelfQuery "upper" 40)).2 = .error (.refused (.unsortable "copies")) ∧
    (∀ rows, executor.collections.lookup "books" = some rows →
      (shelfQuery "middle" 0).Plain (rows.filter (shelfQuery "middle" 0).predicate.accepts)) ∧
    ∀ failure, (executor.execute "books" (shelfQuery "middle" 0)).2 ≠ .error failure := by
  intro executor
  have only {rows : List Table} (found : executor.collections.lookup "books" = some rows) : shelvedTitles = rows :=
    Option.some.inj found
  have decided (shelf : String) (offset : Int) : ∀ rows, executor.collections.lookup "books" = some rows →
      (shelfQuery shelf offset).Decides rows := fun _ _ => Query.decides_of_writable fun _ _ => nofun
  have upper : ∀ rows, executor.collections.lookup "books" = some rows →
      (shelfQuery "upper" 40).Plain (rows.filter (shelfQuery "upper" 40).predicate.accepts) := by
    intro rows found
    rw [← only found]
    change ∀ row ∈ [shelvedTitle "Dune" "upper" (.string "two"), shelvedTitle "Emma" "upper" (.int 3),
      shelvedTitle "Walden" "upper" .null], _
    simp only [List.forall_mem_cons]
    exact ⟨fun _ => rfl, fun _ => rfl, nofun, nofun⟩
  have middle : ∀ rows, executor.collections.lookup "books" = some rows →
      (shelfQuery "middle" 0).Plain (rows.filter (shelfQuery "middle" 0).predicate.accepts) := by
    intro rows found
    rw [← only found]
    change ∀ row ∈ [shelvedTitle "Ulysses" "middle" (.int 2)], _
    simp only [List.forall_mem_cons]
    exact ⟨fun _ => rfl, nofun⟩
  refine ⟨fun rows found shelf offset => decided shelf offset rows found, upper, ?_, middle, fun failure refused => ?_⟩
  · refine ((execute_refuses_iff executor "books" _ (decided "upper" 40) upper).1 _).mpr
      (.inr ⟨shelvedTitles, rfl, ?_, rfl⟩)
    refine ⟨⟨shelvedTitle "Dune" "upper" (.string "two"), ?_, rfl⟩, shelvedTitle "Emma" "upper" (.int 3), ?_, rfl⟩
    · exact List.mem_cons_self
    · exact List.mem_cons_of_mem _ List.mem_cons_self
  · rcases ((execute_refuses_iff executor "books" _ (decided "middle" 0) middle).1 failure).mp refused with
      ⟨unknown, _⟩ | ⟨rows, found, mixed, _⟩
    · cases unknown
    · obtain ⟨⟨row, member, text⟩, _⟩ := mixed
      rw [← only found] at member
      obtain rfl := List.mem_singleton.mp member
      cases text

end Executor

end CatalogSearch
