import CatalogSearch.Predicate.Basic
import CatalogSearch.Proofs.Value.Text

/-! # How an evaluation comes out

A condition holds of a row, does not hold of it, or fails on it, and it fails only where a column that is searched for
a text has none. All clauses of a group hold of a row exactly if the group does; where the group does not hold, and is
looked at to the first clause that does not, one of them does not hold. Alternatives are the other way round.
-/

namespace CatalogSearch.Predicate

variable {columns : String → Value} {clauses : List Predicate}

theorem holdsAll_cons_of_ok {clause : Predicate} {rest : List Predicate} {answer : Bool}
    (decided : clause.holds columns = .ok answer) :
    holdsAll columns (clause :: rest) = if answer then holdsAll columns rest else .ok false := by
  rw [holdsAll, decided]
  rfl

theorem holdsAny_cons_of_ok {clause : Predicate} {rest : List Predicate} {answer : Bool}
    (decided : clause.holds columns = .ok answer) :
    holdsAny columns (clause :: rest) = if answer then .ok true else holdsAny columns rest := by
  rw [holdsAny, decided]
  rfl

theorem holdsAll_eq_true_iff :
    holdsAll columns clauses = .ok true ↔ ∀ clause ∈ clauses, clause.holds columns = .ok true := by
  induction clauses with
  | nil => exact iff_of_true rfl nofun
  | cons clause rest ih =>
    rw [List.forall_mem_cons, ← ih]
    cases decided : clause.holds columns with
    | error error => simp [holdsAll, decided, bind, Except.bind]
    | ok answer => cases answer <;> simp [holdsAll_cons_of_ok decided]

theorem holdsAny_eq_false_iff :
    holdsAny columns clauses = .ok false ↔ ∀ clause ∈ clauses, clause.holds columns = .ok false := by
  induction clauses with
  | nil => exact iff_of_true rfl nofun
  | cons clause rest ih =>
    rw [List.forall_mem_cons, ← ih]
    cases decided : clause.holds columns with
    | error error => simp [holdsAny, decided, bind, Except.bind]
    | ok answer => cases answer <;> simp [holdsAny_cons_of_ok decided]

/-- A group that does not hold has a clause that does not. -/
theorem exists_of_holdsAll_eq_false (refuted : holdsAll columns clauses = .ok false) :
    ∃ clause ∈ clauses, clause.holds columns = .ok false := by
  induction clauses with
  | nil => cases refuted
  | cons clause rest ih =>
    obtain ⟨answer, decided, later⟩ := bind_eq_ok_iff.mp refuted
    cases answer with
    | true =>
      obtain ⟨other, member, fails⟩ := ih later
      exact ⟨other, List.mem_cons_of_mem clause member, fails⟩
    | false => exact ⟨clause, List.mem_cons_self, decided⟩

/-- Alternatives that hold have a clause that does. -/
theorem exists_of_holdsAny_eq_true (satisfied : holdsAny columns clauses = .ok true) :
    ∃ clause ∈ clauses, clause.holds columns = .ok true := by
  induction clauses with
  | nil => cases satisfied
  | cons clause rest ih =>
    obtain ⟨answer, decided, later⟩ := bind_eq_ok_iff.mp satisfied
    cases answer with
    | true => exact ⟨clause, List.mem_cons_self, decided⟩
    | false =>
      obtain ⟨other, member, holds⟩ := ih later
      exact ⟨other, List.mem_cons_of_mem clause member, holds⟩

/-- Where no alternative fails, they hold exactly if one of them does. -/
theorem holdsAny_eq_true_iff (decided : ∀ clause ∈ clauses, ∃ answer, clause.holds columns = .ok answer) :
    holdsAny columns clauses = .ok true ↔ ∃ clause ∈ clauses, clause.holds columns = .ok true := by
  refine ⟨exists_of_holdsAny_eq_true, ?_⟩
  rintro ⟨clause, member, holds⟩
  induction clauses with
  | nil => cases member
  | cons first rest ih =>
    obtain ⟨⟨answer, here⟩, later⟩ := List.forall_mem_cons.mp decided
    rw [holdsAny_cons_of_ok here]
    cases answer with
    | true => rfl
    | false =>
      rcases List.mem_cons.mp member with rfl | member
      · cases here.symm.trans holds
      · exact ih later member

/-! ## Where an evaluation fails -/

mutual

/-- The columns that a condition searches for a text. -/
def searchedNames : Predicate → List String
  | .like column _ => [column]
  | .eq .. | .range .. | .contains .. => []
  | .anyOf clauses | .allOf clauses => searchedNamesAll clauses

/-- The columns that conditions search for a text. -/
def searchedNamesAll : List Predicate → List String
  | [] => []
  | clause :: rest => searchedNames clause ++ searchedNamesAll rest

end

theorem searchedNamesAll_eq_flatMap (clauses : List Predicate) :
    searchedNamesAll clauses = clauses.flatMap searchedNames := by
  induction clauses with
  | nil => rfl
  | cons clause rest ih => rw [searchedNamesAll, List.flatMap_cons, ih]

theorem exists_likeHolds {actual : Value} (writable : actual.Writable) (text : String) :
    ∃ answer, likeHolds text actual = .ok answer := by
  obtain ⟨whole, shown⟩ := Value.exists_text_iff.mpr writable
  cases actual with
  | null => exact ⟨false, rfl⟩
  | bool | int | float | string | list | object => exact ⟨_, bind_eq_ok_iff.mpr ⟨whole, shown, rfl⟩⟩

mutual

/-- A condition has an answer where every column that it searches has a text. -/
theorem exists_holds (predicate : Predicate) (texts : ∀ name ∈ predicate.searchedNames, (columns name).Writable) :
    ∃ answer, predicate.holds columns = .ok answer := by
  cases predicate with
  | eq | range | contains => exact ⟨_, rfl⟩
  | like column text => exact exists_likeHolds (texts column (List.mem_singleton_self column)) text
  | anyOf clauses => exact exists_holdsAny clauses texts
  | allOf clauses => exact exists_holdsAll clauses texts

theorem exists_holdsAny (clauses : List Predicate)
    (texts : ∀ name ∈ searchedNamesAll clauses, (columns name).Writable) :
    ∃ answer, holdsAny columns clauses = .ok answer := by
  cases clauses with
  | nil => exact ⟨false, rfl⟩
  | cons clause rest =>
    obtain ⟨first, others⟩ := List.forall_mem_append.mp texts
    obtain ⟨answer, decided⟩ := exists_holds clause first
    rw [holdsAny_cons_of_ok decided]
    split
    · exact ⟨true, rfl⟩
    · exact exists_holdsAny rest others

theorem exists_holdsAll (clauses : List Predicate)
    (texts : ∀ name ∈ searchedNamesAll clauses, (columns name).Writable) :
    ∃ answer, holdsAll columns clauses = .ok answer := by
  cases clauses with
  | nil => exact ⟨true, rfl⟩
  | cons clause rest =>
    obtain ⟨first, others⟩ := List.forall_mem_append.mp texts
    obtain ⟨answer, decided⟩ := exists_holds clause first
    rw [holdsAll_cons_of_ok decided]
    split
    · exact exists_holdsAll rest others
    · exact ⟨false, rfl⟩

end

/-- Whether a condition has an answer on a table of columns, and holds of it. -/
def accepts (predicate : Predicate) (row : Table) : Bool :=
  decide (predicate.holdsIn row = .ok true)

end CatalogSearch.Predicate
