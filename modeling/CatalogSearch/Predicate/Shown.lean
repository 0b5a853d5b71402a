import CatalogSearch.Predicate.Basic

/-! # Predicates as text -/

namespace CatalogSearch.Predicate

open Number (IntegerError)

/-- One bound of a range; an open one has no text. -/
def shownBound (column sign : String) (bound : Value) : Except IntegerError (List String) :=
  if bound.isNull then .ok []
  else do
    let shown ← bound.shown
    return [column ++ sign ++ shown]

/-- The text of a range, which drops open bounds. -/
def shownRange (column : String) (lower upper : Value) : Except IntegerError String := do
  let above ← shownBound column " >= " lower
  let below ← shownBound column " <= " upper
  return match above ++ below with
    | [] => "TRUE"
    | parts => Value.joined " AND " parts

mutual

/-- The text of a condition. -/
def shown : Predicate → Except IntegerError String
  | .eq column value => do
    let shown ← value.shown
    return column ++ " = " ++ shown
  | .like column text => .ok (column ++ " ILIKE '%" ++ text ++ "%'")
  | .range column lower upper => shownRange column lower upper
  | .contains column label => .ok (column ++ " @> \x7b" ++ Text.quoted label ++ "\x7d")
  | .anyOf clauses => do
    let parts ← shownEach clauses
    return "(" ++ Value.joined " OR " parts ++ ")"
  | .allOf [] => .ok "TRUE"
  | .allOf clauses => do
    let parts ← shownEach clauses
    return Value.joined " AND " parts

/-- The texts of several conditions. -/
def shownEach : List Predicate → Except IntegerError (List String)
  | [] => .ok []
  | clause :: rest => do
    let first ← shown clause
    let others ← shownEach rest
    return first :: others

end

end CatalogSearch.Predicate
