import CatalogSearch.Filter.Criteria
import CatalogSearch.Validation.Checked

/-! # Checking filter criteria

Criteria from outside may use either name of a filter; where both occur, the camel case one counts.
-/

namespace CatalogSearch.Criteria

def bookTypes : List String := ["all", "ebook", "audiobook"]

def sortKeys : List String :=
  ["popularity", "latest", "title_asc", "title_desc", "year", "size_asc", "size_desc"]

def checkFilter : Filter → Value → Checked Value
  | .query, value => .string <$> value.checkText
  | .yearFrom, value | .yearTo, value => .ofInt? <$> Value.checkOptional Value.checkInt value
  | .language, value | .fileType, value | .publisher, value | .genre, value | .fictionType, value =>
    .ofText? <$> Value.checkOptional Value.checkText value
  | .bookType, value => .string <$> Value.checkChoice bookTypes value
  | .exactMatch, value => .bool <$> value.checkBool
  | .sortBy, value => .string <$> Value.checkChoice sortKeys value

/-- Check the filter in a table, or take its default. -/
def checkIn (table : Table) (filter : Filter) : Checked Value :=
  let key := if (table.get? filter.camelName).isSome then filter.camelName else filter.name
  table.optional key (Criteria.get {} filter) (checkFilter filter)

def check : Value → Checked Criteria :=
  Value.checkTable "FilterCriteria" fun table =>
    Criteria.mk <$> checkIn table .query <*> checkIn table .yearFrom <*> checkIn table .yearTo
      <*> checkIn table .language <*> checkIn table .fileType <*> checkIn table .publisher
      <*> checkIn table .genre <*> checkIn table .bookType <*> checkIn table .fictionType
      <*> checkIn table .exactMatch <*> checkIn table .sortBy

end CatalogSearch.Criteria
