import CatalogSearch.Text.Quoted
import CatalogSearch.Value.Basic

/-! # Filter criteria

The state of the search box and the filter panel. A filter takes any value as it was entered; what makes no
sense is left out when a query is compiled. Every filter has a name and a second spelling of it in camel
case, and both address the same filter.
-/

namespace CatalogSearch

/-- The filters. -/
inductive Filter where
  | query
  | yearFrom
  | yearTo
  | language
  | fileType
  | publisher
  | genre
  | bookType
  | fictionType
  | exactMatch
  | sortBy
  deriving DecidableEq, Repr

namespace Filter

def all : List Filter :=
  [.query, .yearFrom, .yearTo, .language, .fileType, .publisher, .genre, .bookType, .fictionType, .exactMatch,
    .sortBy]

def name : Filter → String
  | .query => "query"
  | .yearFrom => "year_from"
  | .yearTo => "year_to"
  | .language => "language"
  | .fileType => "file_type"
  | .publisher => "publisher"
  | .genre => "genre"
  | .bookType => "book_type"
  | .fictionType => "fiction_type"
  | .exactMatch => "exact_match"
  | .sortBy => "sort_by"

def camelName : Filter → String
  | .yearFrom => "yearFrom"
  | .yearTo => "yearTo"
  | .fileType => "fileType"
  | .bookType => "bookType"
  | .fictionType => "fictionType"
  | .exactMatch => "exactMatch"
  | .sortBy => "sortBy"
  | other => other.name

/-- The filter that a key addresses, by either of its names. -/
def ofKey? (key : String) : Option Filter :=
  all.find? fun filter => filter.name == key || filter.camelName == key

theorem mem_all (filter : Filter) : filter ∈ all := by
  cases filter <;> decide

theorem ofKey?_name (filter : Filter) : ofKey? filter.name = some filter := by
  cases filter <;> decide

theorem ofKey?_camelName (filter : Filter) : ofKey? filter.camelName = some filter := by
  cases filter <;> decide

end Filter

/-- The values of all filters. -/
structure Criteria where
  query : Value := .string ""
  yearFrom : Value := .null
  yearTo : Value := .null
  language : Value := .null
  fileType : Value := .null
  publisher : Value := .null
  genre : Value := .null
  bookType : Value := .string "all"
  fictionType : Value := .null
  exactMatch : Value := .bool false
  sortBy : Value := .string "popularity"
  deriving Repr, Inhabited

namespace Criteria

def get (criteria : Criteria) : Filter → Value
  | .query => criteria.query
  | .yearFrom => criteria.yearFrom
  | .yearTo => criteria.yearTo
  | .language => criteria.language
  | .fileType => criteria.fileType
  | .publisher => criteria.publisher
  | .genre => criteria.genre
  | .bookType => criteria.bookType
  | .fictionType => criteria.fictionType
  | .exactMatch => criteria.exactMatch
  | .sortBy => criteria.sortBy

def set (criteria : Criteria) (filter : Filter) (value : Value) : Criteria :=
  match filter with
  | .query => { criteria with query := value }
  | .yearFrom => { criteria with yearFrom := value }
  | .yearTo => { criteria with yearTo := value }
  | .language => { criteria with language := value }
  | .fileType => { criteria with fileType := value }
  | .publisher => { criteria with publisher := value }
  | .genre => { criteria with genre := value }
  | .bookType => { criteria with bookType := value }
  | .fictionType => { criteria with fictionType := value }
  | .exactMatch => { criteria with exactMatch := value }
  | .sortBy => { criteria with sortBy := value }

@[simp]
theorem get_set_self (criteria : Criteria) (filter : Filter) (value : Value) :
    (criteria.set filter value).get filter = value := by
  cases filter <;> rfl

theorem get_set_of_ne (criteria : Criteria) {filter other : Filter} (value : Value) (different : other ≠ filter) :
    (criteria.set filter value).get other = criteria.get other := by
  cases filter <;> cases other <;> first | rfl | exact absurd rfl different

def setAll (criteria : Criteria) (changes : List (Filter × Value)) : Criteria :=
  changes.foldl (fun current (filter, value) => current.set filter value) criteria

end Criteria

end CatalogSearch
