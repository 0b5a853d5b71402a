import CatalogSearch.Text.Case
import CatalogSearch.Text.Substring
import CatalogSearch.Value.Shown

/-! # Predicates

The conditions that a query puts on the columns of a row, and their evaluation. A missing column is null:
null equals null, and satisfies none of the other conditions on a column. Clauses are looked at in order and no
further than needed. The evaluation fails where it comes to a column that is searched for a text and has none.
-/

namespace CatalogSearch

/-- A condition on the columns of a row. A null bound of a range is open. -/
inductive Predicate where
  | eq (column : String) (value : Value)
  | like (column text : String)
  | range (column : String) (lower upper : Value)
  | contains (column label : String)
  | anyOf (clauses : List Predicate)
  | allOf (clauses : List Predicate)
  deriving Repr, Inhabited

namespace Predicate

open Number (IntegerError)

/-- A text occurs in another one, whatever the letter case. -/
def occursFolded (needle text : String) : Bool :=
  Text.occursIn (Text.lower needle).toList (Text.lower text).toList

/-- A column value contains a text, whatever the letter case. -/
def likeHolds (text : String) : Value → Except IntegerError Bool
  | .null => .ok false
  | actual => do
    let whole ← actual.text
    return occursFolded text whole

/-- A column value lies between two bounds and has an order with them. -/
def rangeHolds (lower upper actual : Value) : Bool :=
  !actual.isNull && (lower.isNull || actual.less? lower == some false) &&
    (upper.isNull || upper.less? actual == some false)

/-- A column value is a list that holds a label. -/
def containsHolds (label : String) : Value → Bool
  | .list items => items.any fun item => item.same (.string label)
  | _ => false

mutual

/-- Whether a row, given by its columns, satisfies the condition. -/
def holds (columns : String → Value) : Predicate → Except IntegerError Bool
  | .eq column value => .ok ((columns column).same value)
  | .like column text => likeHolds text (columns column)
  | .range column lower upper => .ok (rangeHolds lower upper (columns column))
  | .contains column label => .ok (containsHolds label (columns column))
  | .anyOf clauses => holdsAny columns clauses
  | .allOf clauses => holdsAll columns clauses

/-- Whether a row satisfies one of the conditions. -/
def holdsAny (columns : String → Value) : List Predicate → Except IntegerError Bool
  | [] => .ok false
  | clause :: rest => do if ← holds columns clause then return true else holdsAny columns rest

/-- Whether a row satisfies all of the conditions. -/
def holdsAll (columns : String → Value) : List Predicate → Except IntegerError Bool
  | [] => .ok true
  | clause :: rest => do if ← holds columns clause then holdsAll columns rest else return false

end

def holdsIn (predicate : Predicate) (row : Table) : Except IntegerError Bool :=
  predicate.holds row.column

end Predicate

end CatalogSearch
