import CatalogSearch.Query.Basic
import CatalogSearch.Validation.Checked

/-! # Reading queries

Predicates and queries as tables, in both directions. A predicate is a table whose `kind` tells which of the
others keys it has.
-/

namespace CatalogSearch

namespace Predicate

def kinds : List String := ["eq", "ilike", "range", "contains", "or", "and"]

mutual

def toValue : Predicate → Value
  | .eq column value => .object [("kind", .string "eq"), ("column", .string column), ("value", value)]
  | .like column text => .object [("kind", .string "ilike"), ("column", .string column), ("value", .string text)]
  | .range column lower upper =>
    .object [("kind", .string "range"), ("column", .string column), ("gte", lower), ("lte", upper)]
  | .contains column label =>
    .object [("kind", .string "contains"), ("column", .string column), ("value", .string label)]
  | .anyOf clauses => .object [("kind", .string "or"), ("clauses", .list (toValues clauses))]
  | .allOf clauses => .object [("kind", .string "and"), ("clauses", .list (toValues clauses))]

def toValues : List Predicate → List Value
  | [] => []
  | clause :: rest => toValue clause :: toValues rest

end

/-- The tag of a predicate as it is reported; a value without a text is reported by its type. -/
def tagText (tag : Value) : String :=
  match tag.text, tag with
  | .ok text, _ => text
  | .error _, .list _ => "<unprintable list object>"
  | .error _, .object _ => "<unprintable dict object>"
  | .error _, _ => "<unprintable int object>"

def checkLeaf (kind : Value) (table : Table) : Checked Predicate :=
  match kind with
  | .string "eq" =>
    (eq <$> table.required "column" Value.checkText <*> table.required "value" .valid).under (.key "eq")
  | .string "ilike" =>
    (like <$> table.required "column" Value.checkText <*> table.required "value" Value.checkText).under
      (.key "ilike")
  | .string "range" =>
    (range <$> table.required "column" Value.checkText <*> table.optional "gte" .null .valid
      <*> table.optional "lte" .null .valid).under (.key "range")
  | .string "contains" =>
    (contains <$> table.required "column" Value.checkText <*> table.required "value" Value.checkText).under
      (.key "contains")
  | other => .complain (.unknownTag "kind" (tagText other) kinds)

mutual

def check : Value → Checked Predicate
  | .object entries => match Table.get? entries "kind" with
    | none => .complain (.noTag "kind")
    | some (.string "or") => (anyOf <$> clausesIn entries).under (.key "or")
    | some (.string "and") => (allOf <$> clausesIn entries).under (.key "and")
    | some kind => checkLeaf kind entries
  | _ => .complain .notTagged

def clausesIn : List (String × Value) → Checked (List Predicate)
  | [] => .valid []
  | (key, value) :: rest =>
    if key = "clauses" then (checkClauses value).under (.key "clauses") else clausesIn rest

def checkClauses : Value → Checked (List Predicate)
  | .list items => checkFrom 0 items
  | _ => .complain .notTuple

/-- Check predicates in order, counting from `position`. -/
def checkFrom (position : Nat) : List Value → Checked (List Predicate)
  | [] => .valid []
  | item :: rest => List.cons <$> (check item).under (.index position) <*> checkFrom (position + 1) rest

end

/-- Check the conditions of a query: a group of which all clauses hold. -/
def checkConditions : Value → Checked (List Predicate) :=
  Value.checkTable "AllOf" fun table =>
    (fun _ clauses => clauses) <$> table.optional "kind" "and" (Value.checkChoice ["and"]) <*> clausesIn table

end Predicate

namespace Query

def checkDirection (value : Value) : Checked Direction :=
  (Value.checkChoice ["asc", "desc"] value).andThen fun name =>
    .valid (if name = "asc" then .ascending else .descending)

/-- Check a sort order; the default direction is the descending one. -/
def checkSort : Value → Checked SortOrder :=
  Value.checkTable "SortClause" fun table =>
    SortOrder.mk <$> table.required "column" Value.checkText
      <*> table.optional "direction" .descending checkDirection

def check : Value → Checked Query :=
  Value.checkTable "CompiledQuery" fun table =>
    Query.mk <$> table.optional "predicate" [] Predicate.checkConditions <*> table.required "sort" checkSort
      <*> table.optional "offset" 0 Value.checkInt <*> table.optional "limit" 20 Value.checkInt

def toValue (query : Query) : Value :=
  .object [("predicate", query.predicate.toValue),
    ("sort", .object [("column", .string query.sort.column), ("direction", .string query.sort.direction.name)]),
    ("offset", .int query.offset), ("limit", .int query.limit)]

end Query

end CatalogSearch
