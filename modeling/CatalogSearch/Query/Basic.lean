import CatalogSearch.Predicate.Shown

/-! # Queries

A query selects the rows that satisfy all of its conditions, orders them by one column and takes a window of
them.
-/

namespace CatalogSearch

/-- The direction of an order. -/
inductive Direction where
  | ascending
  | descending
  deriving DecidableEq, Repr

/-- The column that orders the rows, and the direction. -/
structure SortOrder where
  column : String
  direction : Direction
  deriving DecidableEq, Repr

/-- What is asked of a collection of rows. -/
structure Query where
  conditions : List Predicate
  sort : SortOrder
  offset : Int
  limit : Int
  deriving Repr

/-- A field and a value that a link or a search names. -/
structure Lookup where
  field : String
  value : String
  deriving DecidableEq, Repr

namespace Direction

def name : Direction → String
  | .ascending => "asc"
  | .descending => "desc"

end Direction

namespace Query

def predicate (query : Query) : Predicate :=
  .allOf query.conditions

def shown (query : Query) : Except Number.IntegerError String := do
  let direction := match query.sort.direction with
    | .ascending => "ASC"
    | .descending => "DESC"
  let condition ← query.predicate.shown
  let offset ← Number.written query.offset
  let limit ← Number.written query.limit
  return "WHERE " ++ condition ++ " ORDER BY " ++ query.sort.column ++ " " ++ direction ++
    " OFFSET " ++ offset ++ " LIMIT " ++ limit

end Query

def Lookup.searchText (lookup : Lookup) : String :=
  lookup.field ++ ":\"" ++ lookup.value ++ "\""

end CatalogSearch
