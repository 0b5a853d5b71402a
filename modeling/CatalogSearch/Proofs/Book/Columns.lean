import CatalogSearch.Book.Basic
import CatalogSearch.Proofs.Executor.Order
import CatalogSearch.Proofs.Query.Compile

/-! # The columns of books

The table of a book holds what the book holds, column by column. The columns that queries sort by are texts in
every book that has them, so that books can always be sorted.
-/

namespace CatalogSearch

namespace Book

/-- A column of the table of a book is that column of the book. -/
theorem column_toTable (book : Book) (key : String) : book.toTable.column key = book.column key := by
  unfold column
  split
  case h_20 =>
    -- The key is none of those of a book, so that the entries behind them decide.
    rw [toTable, Table.column, Table.get?, List.lookup_append, List.lookup_eq_none_iff.mpr, Option.none_or]
    · rfl
    · simp only [List.mem_cons, List.not_mem_nil, or_false, forall_eq_or_imp, forall_eq, bne_iff_ne]
      and_intros <;> assumption
  all_goals rfl

/-- The columns that are no numbers. -/
def textColumns : List String :=
  ["id", "title", "author", "publisher", "description", "isbn", "external_id", "narrator", "language", "genre",
    "categories", "type", "fiction_type", "ebook_format", "audio_format", "file_size", "published_date", "created_at"]

/-- In every book these columns have a text. -/
theorem writable_column {name : String} (declared : name ∈ textColumns) (book : Book) :
    (book.column name).Writable := by
  have labels : (Value.list (book.categories.map .string)).Writable := by
    refine .list fun item member => ?_
    obtain ⟨label, _, rfl⟩ := List.mem_map.mp member
    exact .string label
  have texts : ∀ name ∈ textColumns, (book.column name).Writable := by
    simp only [textColumns, List.forall_mem_cons]
    and_intros
    all_goals first
      | exact .string _
      | exact Value.writable_ofText? _
      | exact labels
      | exact List.forall_mem_nil _
  exact texts name declared

theorem isText_ofText? {text : Option String} (given : (Value.ofText? text).isNull = false) :
    (Value.ofText? text).isText = true := by
  cases text with
  | none => cases given
  | some text => rfl

end Book

theorem SortOrder.column_ofKey (key : Value) :
    (ofKey key).column = "title" ∨ (ofKey key).column = "published_date" ∨ (ofKey key).column = "created_at" := by
  unfold ofKey
  split
  · exact .inl rfl
  · exact .inl rfl
  · exact .inr (.inl rfl)
  · exact .inr (.inr rfl)

/-- Whatever the sort key, a book that has the sort column has a text there. -/
theorem Book.isText_sortColumn (book : Book) (key : Value)
    (given : (book.toTable.column (SortOrder.ofKey key).column).isNull = false) :
    (book.toTable.column (SortOrder.ofKey key).column).isText = true := by
  rw [column_toTable] at given ⊢
  rcases SortOrder.column_ofKey key with title | date | creation
  · rw [title]
    rfl
  · rw [date] at given ⊢
    exact isText_ofText? given
  · rw [creation] at given ⊢
    exact isText_ofText? given

/-- Books can be sorted under every query for a page of results. -/
theorem Criteria.sortable_of_compile {criteria : Criteria} {lookup : Option Lookup} {categories : List Value}
    {page pageSize : Int} {query : Query} (compiled : criteria.compile lookup categories page pageSize = .ok query)
    (books : List Book) : query.Sortable ((books.map Book.toTable).filter query.predicate.accepts) := by
  obtain ⟨conditions, _, rfl⟩ := compile_eq_ok_iff.mp compiled
  refine .inl fun row member given => ?_
  obtain ⟨book, _, rfl⟩ := List.mem_map.mp (List.mem_filter.mp member).1
  apply book.isText_sortColumn criteria.sortBy
  simpa only [Query.hasKey, Bool.not_eq_true'] using given

end CatalogSearch
