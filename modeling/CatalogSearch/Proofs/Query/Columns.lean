import CatalogSearch.Proofs.Book.Columns
import CatalogSearch.Proofs.Query.Narrowing

/-! # The columns that queries name

A condition looks at nothing but the columns that it names, and a compiled query names columns of books only. A book
that is asked as an object and the table of the book give the same answer under these names, while under any other name
the object may answer with a member that all books have, such as a method, where the table has a further entry or
nothing. So a compiled query cannot tell a book from its table. Nor does it search the one column of books that holds a
number for a text, so that it has an answer on every book.
-/

namespace CatalogSearch

namespace Predicate

mutual

/-- The columns that a condition names. -/
def columnNames : Predicate → List String
  | .eq column _ | .like column _ | .range column _ _ | .contains column _ => [column]
  | .anyOf clauses | .allOf clauses => columnNamesAll clauses

/-- The columns that conditions name. -/
def columnNamesAll : List Predicate → List String
  | [] => []
  | clause :: rest => columnNames clause ++ columnNamesAll rest

end

theorem columnNamesAll_eq_flatMap (clauses : List Predicate) :
    columnNamesAll clauses = clauses.flatMap columnNames := by
  induction clauses with
  | nil => rfl
  | cons clause rest ih => rw [columnNamesAll, List.flatMap_cons, ih]

mutual

/-- The columns that are searched for a text are named. -/
theorem searchedNames_subset (predicate : Predicate) : predicate.searchedNames ⊆ predicate.columnNames := by
  cases predicate with
  | like => exact List.Subset.refl _
  | eq | range | contains => exact List.nil_subset _
  | anyOf clauses | allOf clauses => exact searchedNamesAll_subset clauses

theorem searchedNamesAll_subset (clauses : List Predicate) : searchedNamesAll clauses ⊆ columnNamesAll clauses := by
  cases clauses with
  | nil => exact List.Subset.refl _
  | cons clause rest =>
    apply List.append_subset.mpr
    constructor
    · exact List.subset_append_of_subset_left _ (searchedNames_subset clause)
    · exact List.subset_append_of_subset_right _ (searchedNamesAll_subset rest)

end

/-! ## Conditions read what they name -/

section

variable {left right : String → Value}

mutual

/-- Rows that agree on the columns that a condition names satisfy it alike. -/
theorem holds_congr (predicate : Predicate) (agree : ∀ name ∈ predicate.columnNames, left name = right name) :
    predicate.holds left = predicate.holds right := by
  cases predicate with
  | eq column | like column | range column | contains column =>
    have same := agree column (List.mem_singleton_self column)
    simp only [holds, same]
  | anyOf clauses => exact holdsAny_congr clauses agree
  | allOf clauses => exact holdsAll_congr clauses agree

theorem holdsAny_congr (clauses : List Predicate) (agree : ∀ name ∈ columnNamesAll clauses, left name = right name) :
    holdsAny left clauses = holdsAny right clauses := by
  cases clauses with
  | nil => rfl
  | cons clause rest =>
    obtain ⟨first, others⟩ := List.forall_mem_append.mp agree
    rw [holdsAny, holdsAny, holds_congr clause first, holdsAny_congr rest others]

theorem holdsAll_congr (clauses : List Predicate) (agree : ∀ name ∈ columnNamesAll clauses, left name = right name) :
    holdsAll left clauses = holdsAll right clauses := by
  cases clauses with
  | nil => rfl
  | cons clause rest =>
    obtain ⟨first, others⟩ := List.forall_mem_append.mp agree
    rw [holdsAll, holdsAll, holds_congr clause first, holdsAll_congr rest others]

end

end

/-- A condition names no columns but those that every book has, and searches none but those that are no numbers. -/
structure OfBooks (predicate : Predicate) : Prop where
  named : predicate.columnNames ⊆ Book.columnNames
  searched : predicate.searchedNames ⊆ Book.textColumns

theorem ofBooks_of_subset {predicate : Predicate} (texts : predicate.columnNames ⊆ Book.textColumns) :
    predicate.OfBooks where
  named := List.Subset.trans texts (by decide)
  searched := List.Subset.trans predicate.searchedNames_subset texts

theorem ofBooks_of_columnNames_eq {predicate : Predicate} {column : String} (names : predicate.columnNames = [column])
    (declared : column ∈ Book.textColumns) : predicate.OfBooks := by
  apply ofBooks_of_subset
  rw [names]
  exact List.cons_subset.mpr ⟨declared, List.nil_subset _⟩

private theorem ofBooks_allOf {clauses : List Predicate} (each : ∀ clause ∈ clauses, clause.OfBooks) :
    (allOf clauses).OfBooks := by
  constructor
  · intro name member
    rw [columnNames, columnNamesAll_eq_flatMap, List.mem_flatMap] at member
    obtain ⟨clause, member, named⟩ := member
    exact (each clause member).named named
  · intro name member
    rw [searchedNames, searchedNamesAll_eq_flatMap, List.mem_flatMap] at member
    obtain ⟨clause, member, named⟩ := member
    exact (each clause member).searched named

/-- Such a condition has an answer on the table of every book. -/
theorem OfBooks.exists_holdsIn {predicate : Predicate} (ofBooks : predicate.OfBooks) (book : Book) :
    ∃ answer, predicate.holdsIn book.toTable = .ok answer := by
  refine predicate.exists_holds fun name member => ?_
  rw [Book.column_toTable]
  exact Book.writable_column (ofBooks.searched member) book

end Predicate

/-! ## Compiled conditions name columns of books -/

namespace Field

open Predicate

theorem ofBooks_freeText (exact : Bool) (text : String) : (freeText exact text).OfBooks := by
  have names : (freeText exact text).columnNames = searchColumns := by cases exact <;> rfl
  apply ofBooks_of_subset
  rw [names]
  decide

theorem ofBooks_formatClause (text : String) : (formatClause text).OfBooks := by
  apply ofBooks_of_subset
  change formatColumns ⊆ Book.textColumns
  decide

theorem ofBooks_genreClause (text : String) : (genreClause text).OfBooks := by
  apply ofBooks_of_subset
  change ["genre", "categories"] ⊆ Book.textColumns
  decide

/-- The fields that look at one column look at one that books have. -/
theorem column_of_mem_all : ∀ field ∈ all, ∀ column ∈ field.rule.column?, column ∈ Book.textColumns := by
  decide

private theorem ofBooks_ruleClause {rule : FieldRule} (declared : ∀ column ∈ rule.column?, column ∈ Book.textColumns)
    {value : String} {clause : Predicate} (made : ruleClause rule value = .ok (some clause)) : clause.OfBooks := by
  cases rule with
  | substring column | exact column =>
    cases made
    exact ofBooks_of_columnNames_eq rfl (declared column rfl)
  | year column =>
    cases read : Value.yearOfText? value with
    | error error => simp [ruleClause, read, Except.map] at made
    | ok year =>
      simp only [ruleClause, read, Except.map, Except.ok.injEq, Option.map_eq_some_iff] at made
      obtain ⟨year, _, rfl⟩ := made
      exact ofBooks_of_columnNames_eq rfl (declared column rfl)
  | format =>
    cases made
    exact ofBooks_formatClause value
  | genre =>
    cases made
    exact ofBooks_genreClause value

/-- Whatever field is looked up, known or unknown. -/
theorem ofBooks_clause {name value : String} {made : Predicate} (found : clause name value = .ok (some made)) :
    made.OfBooks := by
  rw [clause] at found
  split at found
  · next field known =>
    have member : field ∈ all := List.mem_of_find?_eq_some known
    exact ofBooks_ruleClause (column_of_mem_all field member) found
  · cases found
    exact ofBooks_freeText false value

end Field

namespace Criteria

open Predicate

variable {criteria : Criteria} {lookup : Option Lookup} {categories : List Value} {page pageSize : Int}

private theorem ofBooks_primaryClause {clause : Predicate}
    (driven : criteria.primaryClause lookup = .ok (some clause)) : clause.OfBooks := by
  cases lookup with
  | some lookup => exact Field.ofBooks_clause driven
  | none =>
    obtain ⟨text, searched, _⟩ := bind_eq_ok_iff.mp driven
    rw [primaryClause, textClause_of_searchText searched] at driven
    split at driven
    · exact Field.ofBooks_clause driven
    · split at driven
      · cases driven
      · cases driven
        exact Field.ofBooks_freeText _ _

private theorem ofBooks_yearClause {clause : Predicate} (bounded : criteria.yearClause = .ok (some clause)) :
    clause.OfBooks := by
  obtain ⟨lower, upper, _, _, made⟩ := yearClause_eq_ok_iff.mp bounded
  split at made
  · cases made
  · cases made
    exact ⟨List.cons_subset.mpr ⟨by decide, List.nil_subset _⟩, List.nil_subset _⟩

private theorem ofBooks_filterClause {filter : Filter} {clause : Predicate}
    (made : criteria.filterClause filter = .ok (some clause)) : clause.OfBooks := by
  obtain ⟨text, _, made⟩ := filterClause_eq_some_iff.mp made
  cases filter with
  | language | publisher =>
    cases made
    exact ofBooks_of_columnNames_eq rfl (by decide)
  | fileType =>
    cases made
    exact Field.ofBooks_formatClause text
  | genre =>
    cases made
    exact Field.ofBooks_genreClause text
  | bookType | fictionType =>
    rw [Filter.textClause] at made
    split at made
    · cases made
    · cases made
      exact ofBooks_of_columnNames_eq rfl (by decide)
  | query | yearFrom | yearTo | exactMatch | sortBy => cases made

private theorem ofBooks_categoryClause {clause : Predicate} (made : categoryClause categories = .ok (some clause)) :
    clause.OfBooks := by
  obtain ⟨labels, _, chosen⟩ := bind_eq_ok_iff.mp made
  replace chosen : anyCategory labels.reduceOption = some clause := Except.ok.inj chosen
  unfold anyCategory at chosen
  split at chosen
  · cases chosen
  · cases chosen
    apply ofBooks_of_subset
    intro name member
    rw [columnNames, columnNamesAll_eq_flatMap, List.flatMap_map, List.mem_flatMap] at member
    obtain ⟨label, _, here⟩ := member
    rw [List.mem_singleton.mp here]
    decide

theorem ofBooks_of_compile {query : Query} (compiled : criteria.compile lookup categories page pageSize = .ok query) :
    query.predicate.OfBooks := by
  obtain ⟨primary, years, texts, chosen, driven, bounded, filtered, categorized, conditions⟩ :=
    exists_clauses_of_compile compiled
  refine ofBooks_allOf fun clause member => ?_
  rcases (conditions clause).mp member with rfl | rfl | listed | rfl
  · exact ofBooks_primaryClause driven
  · exact ofBooks_yearClause bounded
  · obtain ⟨filter, made⟩ := (mem_textClauses_iff filtered).mp listed
    exact ofBooks_filterClause made
  · exact ofBooks_categoryClause categorized

/-- A compiled query has an answer on every book. -/
theorem decides_of_compile {query : Query} (compiled : criteria.compile lookup categories page pageSize = .ok query)
    (books : List Book) : query.Decides (books.map Book.toTable) := by
  intro row member
  obtain ⟨book, _, rfl⟩ := List.mem_map.mp member
  exact (ofBooks_of_compile compiled).exists_holdsIn book

end Criteria

/-! ## Books as objects -/

namespace Book

/-- What a book answers when it is asked, as an object, for a name: its columns come first, then the members that every
book has besides, such as its methods, and then its further entries. -/
def answer (members : String → Option Value) (book : Book) (name : String) : Value :=
  if columnNames.contains name then book.column name else (members name).getD (book.extra.column name)

private theorem answer_of_mem {name : String} (declared : name ∈ columnNames) (members : String → Option Value)
    (book : Book) : book.answer members name = book.column name := by
  rw [answer, if_pos (List.contains_iff_mem.mpr declared)]

end Book

/-- A compiled query names and sorts by columns of books alone. So it gives the same answer on a book as an object,
whatever members objects have besides, as on the table of the book, and both have the same place in its order. -/
theorem Criteria.holds_answer_eq_holdsIn {criteria : Criteria} {lookup : Option Lookup} {categories : List Value}
    {page pageSize : Int} {query : Query} (compiled : criteria.compile lookup categories page pageSize = .ok query) :
    (∀ name ∈ query.predicate.columnNames, name ∈ Book.columnNames) ∧ query.sort.column ∈ Book.columnNames ∧
      ∀ (book : Book) (members : String → Option Value),
        query.predicate.holds (book.answer members) = query.predicate.holdsIn book.toTable ∧
          book.answer members query.sort.column = book.toTable.column query.sort.column := by
  have named : query.predicate.OfBooks := ofBooks_of_compile compiled
  have sorted : query.sort.column ∈ Book.columnNames := by
    obtain ⟨conditions, _, rfl⟩ := compile_eq_ok_iff.mp compiled
    rcases SortOrder.column_ofKey criteria.sortBy with title | date | creation
    · exact title ▸ by decide
    · exact date ▸ by decide
    · exact creation ▸ by decide
  have same (book : Book) (members : String → Option Value) :
      ∀ name ∈ Book.columnNames, book.answer members name = book.toTable.column name := by
    intro name declared
    rw [Book.answer_of_mem declared, Book.column_toTable]
  refine ⟨fun name member => named.named member, sorted, fun book members => ⟨?_, same book members _ sorted⟩⟩
  apply Predicate.holds_congr
  intro name member
  exact same book members name (named.named member)

/-- A book with a further entry whose key is the name of a method. -/
def reissue : Book :=
  { id := "7", title := "Dune", genre := some "Novel", categories := ["Classics"], publishedDate := some "1965-08-01",
    publishedYear := some 1965, extra := [("copy", .string "second")] }

/-- The members of objects, as far as the method is concerned. -/
def copyMember (name : String) : Option Value :=
  if name = "copy" then some (.string "method") else none

/-- The query for the novels of a year among the classics. -/
def classicsQuery : Query where
  conditions := [.range "published_date" (.string "1965-01-01") (.string "1965-12-31"), Field.genreClause "novel",
    .anyOf [.contains "categories" "Classics"]]
  sort := ⟨"title", .ascending⟩
  offset := 20
  limit := 20

/-- The book is found as an object and as a table, in the same place. -/
theorem Criteria.holds_answer_eq_holdsIn_reissue :
    ({ genre := .string "novel", sortBy := .string "title_asc" } : Criteria).compile (some ⟨"Year", "1965"⟩)
        [.string "Classics"] 2 20 = .ok classicsQuery ∧
      classicsQuery.predicate.holds (reissue.answer copyMember) = .ok true ∧
      classicsQuery.predicate.holdsIn reissue.toTable = .ok true ∧
      reissue.answer copyMember classicsQuery.sort.column = reissue.toTable.column classicsQuery.sort.column := by
  have compiled : ({ genre := .string "novel", sortBy := .string "title_asc" } : Criteria).compile
      (some ⟨"Year", "1965"⟩) [.string "Classics"] 2 20 = .ok classicsQuery := rfl
  obtain ⟨_, _, alike⟩ := holds_answer_eq_holdsIn compiled
  obtain ⟨same, place⟩ := alike reissue copyMember
  have found : classicsQuery.predicate.holdsIn reissue.toTable = .ok true := by decide +kernel
  exact ⟨compiled, same.trans found, found, place⟩

/-- Under a name that is no column, the object answers with its method and the table with the entry. -/
example : (Predicate.like "copy" "second").holds (reissue.answer copyMember) = .ok false ∧
    (Predicate.like "copy" "second").holdsIn reissue.toTable = .ok true := by
  decide +kernel

end CatalogSearch
