import CatalogSearch.Executor.Basic
import CatalogSearch.Proofs.Executor.Sort
import CatalogSearch.Proofs.Predicate.Outcome

/-! # What a query selects

The rows that a query selects are those that satisfy its conditions, in some order, provided that the conditions have
an answer on every row; else there is no selection, whatever the row would be to it. Where windows follow each other,
they cut the selected rows into pages.
-/

namespace CatalogSearch

namespace Query

private theorem perm_sortRows? {query : Query} {rows sorted : List Table} (done : query.sortRows? rows = some sorted) :
    sorted.Perm rows := by
  obtain ⟨keyed, found, rfl⟩ := Option.map_eq_some_iff.mp done
  have perm : keyed.Perm (rows.filter query.hasKey) := by
    split at found
    · exact Sort.perm_ascending? found
    · exact Sort.perm_descending? found
  exact (perm.append_right _).trans (List.filter_append_perm query.hasKey rows)

/-- The conditions of a query have an answer on every row. -/
def Decides (query : Query) (rows : List Table) : Prop :=
  ∀ row ∈ rows, ∃ answer, query.predicate.holdsIn row = .ok answer

theorem matching_eq_ok_iff {query : Query} {rows found : List Table} :
    query.matching rows = .ok found ↔ query.Decides rows ∧ rows.filter query.predicate.accepts = found := by
  induction rows generalizing found with
  | nil => simp [matching, Decides, eq_comm]
  | cons row rest ih =>
    have split {answer : Bool} (decided : query.predicate.holdsIn row = .ok answer) :
        (row :: rest).filter query.predicate.accepts =
          if answer then row :: rest.filter query.predicate.accepts else rest.filter query.predicate.accepts := by
      rw [List.filter_cons, Predicate.accepts, decided]
      cases answer <;> rfl
    rw [matching, bind_eq_ok_iff, Decides, List.forall_mem_cons]
    constructor
    · rintro ⟨answer, decided, later⟩
      obtain ⟨others, selected, whole⟩ := bind_eq_ok_iff.mp later
      obtain ⟨rest, rfl⟩ := ih.mp selected
      exact ⟨⟨⟨answer, decided⟩, rest⟩, (split decided).trans (Except.ok.inj whole)⟩
    · rintro ⟨⟨⟨answer, decided⟩, rest⟩, rfl⟩
      exact ⟨answer, decided, bind_eq_ok_iff.mpr ⟨_, ih.mpr ⟨rest, rfl⟩, congrArg Except.ok (split decided).symm⟩⟩

/-- The conditions have an answer where no column that they search for a text holds a whole number of too many
digits. -/
theorem decides_of_writable {query : Query} {rows : List Table}
    (texts : ∀ row ∈ rows, ∀ name ∈ query.predicate.searchedNames, (row.column name).Writable) :
    query.Decides rows :=
  fun row member => query.predicate.exists_holds (texts row member)

theorem select_of_decides {query : Query} {rows : List Table} (decided : query.Decides rows) :
    query.select rows = match query.sortRows? (rows.filter query.predicate.accepts) with
      | some sorted => .ok sorted
      | none => .error (.refused (.unsortable query.sort.column)) := by
  rw [select, matching_eq_ok_iff.mpr ⟨decided, rfl⟩]
  rfl

/-- A query selects every row that satisfies its conditions as often as it is there, and no other row. -/
theorem perm_of_select {query : Query} {rows selected : List Table} (done : query.select rows = .ok selected) :
    query.Decides rows ∧ selected.Perm (rows.filter query.predicate.accepts) := by
  cases looked : query.matching rows with
  | error error =>
    rw [select, looked] at done
    cases done
  | ok found =>
    have decided := (matching_eq_ok_iff.mp looked).1
    rw [select_of_decides decided] at done
    split at done
    · next sorted arranged =>
      cases done
      exact ⟨decided, perm_sortRows? arranged⟩
    · cases done

/-- The window has no part in what is selected. -/
theorem select_withOffset (query : Query) (offset : Int) (rows : List Table) :
    ({ query with offset } : Query).select rows = query.select rows := by
  have same : ({ query with offset } : Query).matching rows = query.matching rows := by
    induction rows with
    | nil => rfl
    | cons row rest ih =>
      rw [matching, matching, ih]
      rfl
  rw [select, select, same]
  rfl

theorem position_natCast (length index : Nat) : position length index = min index length := by
  rw [position, if_neg (by omega)]
  rfl

/-- A window that counts from the start: the rows from the offset on, up to the limit. -/
theorem window_eq {α : Type} {query : Query} {start size : Nat} (offset : query.offset = start)
    (limit : query.limit = size) (rows : List α) : query.window rows = (rows.drop start).take size := by
  have stop : query.offset + query.limit = ((start + size : Nat) : Int) := by omega
  rw [window, stop, offset, position_natCast, position_natCast, ← List.take_eq_take_min, List.drop_take]
  by_cases inside : start ≤ rows.length
  · rw [Nat.min_eq_left inside, Nat.add_sub_cancel_left]
  · have outside : rows.length ≤ start := by omega
    rw [Nat.min_eq_right outside, List.drop_length, List.drop_of_length_le outside, List.take_nil, List.take_nil]

theorem run_eq_ok_iff {query : Query} {collections : Collections} {name : String} {page : List Table} :
    query.run collections name = .ok page ↔
      ∃ rows selected, collections.lookup name = some rows ∧ query.select rows = .ok selected ∧
        query.window selected = page := by
  unfold run
  cases collections.lookup name with
  | none => simp
  | some rows => cases found : query.select rows <;> simp [Except.map, found]

end Query

end CatalogSearch
