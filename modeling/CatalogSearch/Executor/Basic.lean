import CatalogSearch.Executor.Sort
import CatalogSearch.Query.Basic

/-! # Running queries

Queries are run over named collections of rows: the rows that satisfy the conditions, in the order of the
sort column with rows without a value last, cut down to the window. A window that starts or ends at a
negative position counts from the end. The conditions are put to every row of the collection before anything is
sorted, and the first row that they fail on ends the run.
-/

namespace CatalogSearch

/-- Rows under the name of their collection. -/
abbrev Collections := List (String × List Table)

/-- Why a query is refused. -/
inductive ExecutorError where
  | unknownCollection (name : String)
  | unsortable (column : String)
  deriving DecidableEq, Repr

def ExecutorError.message : ExecutorError → String
  | .unknownCollection name => "Unknown collection: " ++ name
  | .unsortable column => "Cannot sort on column " ++ Text.quoted column

/-- Why a query has no rows: it is refused, or the conditions fail on a row. -/
inductive QueryFailure where
  | refused (error : ExecutorError)
  | number (error : Number.IntegerError)
  deriving DecidableEq, Repr

namespace Collections

def put (collections : Collections) (name : String) (rows : List Table) : Collections :=
  (name, rows) :: collections.filter (·.1 != name)

end Collections

namespace Query

/-- A position in a list of some length; a negative one counts from the end. -/
def position (length : Nat) (index : Int) : Nat :=
  if index < 0 then (index + length).toNat else min index.toNat length

/-- The window of a query: the rows from the offset on, up to the limit. -/
def window {α : Type} (query : Query) (rows : List α) : List α :=
  (rows.take (position rows.length (query.offset + query.limit))).drop (position rows.length query.offset)

def rowLess? (query : Query) (left right : Table) : Option Bool :=
  (left.column query.sort.column).less? (right.column query.sort.column)

def hasKey (query : Query) (row : Table) : Bool :=
  !(row.column query.sort.column).isNull

/-- Rows in the order of a query, those without a value in the sort column last. -/
def sortRows? (query : Query) (rows : List Table) : Option (List Table) :=
  let keyed := rows.filter query.hasKey
  let sorted := match query.sort.direction with
    | .ascending => Sort.ascending? query.rowLess? keyed
    | .descending => Sort.descending? query.rowLess? keyed
  sorted.map (· ++ rows.filter (!query.hasKey ·))

/-- The rows that satisfy the conditions of a query, as they stand in the collection. -/
def matching (query : Query) : List Table → Except Number.IntegerError (List Table)
  | [] => .ok []
  | row :: rest => do
    let holds ← query.predicate.holdsIn row
    let others ← query.matching rest
    return if holds then row :: others else others

/-- The rows that a query selects, in order and without its window. -/
def select (query : Query) (rows : List Table) : Except QueryFailure (List Table) := do
  let matching ← (query.matching rows).mapError .number
  match query.sortRows? matching with
  | some sorted => return sorted
  | none => throw (.refused (.unsortable query.sort.column))

def run (query : Query) (collections : Collections) (name : String) : Except QueryFailure (List Table) :=
  match collections.lookup name with
  | none => .error (.refused (.unknownCollection name))
  | some rows => (query.select rows).map query.window

end Query

/-- Collections to put queries to, and how many queries were put to them. -/
structure Executor where
  collections : Collections := []
  calls : Nat := 0
  deriving Repr

namespace Executor

def add (executor : Executor) (name : String) (rows : List Table) : Executor :=
  { executor with collections := executor.collections.put name rows }

/-- Answer a query, which counts as a call whether it can be run or not. -/
def execute (executor : Executor) (name : String) (query : Query) :
    Executor × Except QueryFailure (List Table) :=
  ({ executor with calls := executor.calls + 1 }, query.run executor.collections name)

end Executor

end CatalogSearch
