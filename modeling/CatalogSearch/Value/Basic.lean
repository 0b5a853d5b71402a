import CatalogSearch.Number.Double

/-! # Values

The values that books, filters and settings hold. A table keeps its keys in the order in which they were
first written, and holds each key once.
-/

namespace CatalogSearch

open Number (Double)

/-- A value of a book column, a filter or a setting. -/
inductive Value where
  | null
  | bool (b : Bool)
  | int (n : Int)
  | float (x : Double)
  | string (s : String)
  | list (items : List Value)
  | object (entries : List (String × Value))
  deriving Repr, Inhabited

/-- Named values in order. -/
abbrev Table := List (String × Value)

namespace Value

mutual

/-- Whether two values are the same in every part. -/
def decEq : (left right : Value) → Decidable (left = right)
  | .null, right => match right with
    | .null => .isTrue rfl
    | .bool _ | .int _ | .float _ | .string _ | .list _ | .object _ => .isFalse nofun
  | .bool left, right => match right with
    | .bool right => decidable_of_iff (left = right) ⟨congrArg _, Value.bool.inj⟩
    | .null | .int _ | .float _ | .string _ | .list _ | .object _ => .isFalse nofun
  | .int left, right => match right with
    | .int right => decidable_of_iff (left = right) ⟨congrArg _, Value.int.inj⟩
    | .null | .bool _ | .float _ | .string _ | .list _ | .object _ => .isFalse nofun
  | .float left, right => match right with
    | .float right => decidable_of_iff (left = right) ⟨congrArg _, Value.float.inj⟩
    | .null | .bool _ | .int _ | .string _ | .list _ | .object _ => .isFalse nofun
  | .string left, right => match right with
    | .string right => decidable_of_iff (left = right) ⟨congrArg _, Value.string.inj⟩
    | .null | .bool _ | .int _ | .float _ | .list _ | .object _ => .isFalse nofun
  | .list left, right => match right with
    | .list right => @decidable_of_iff _ (left = right) ⟨congrArg _, Value.list.inj⟩ (decEqItems left right)
    | .null | .bool _ | .int _ | .float _ | .string _ | .object _ => .isFalse nofun
  | .object left, right => match right with
    | .object right => @decidable_of_iff _ (left = right) ⟨congrArg _, Value.object.inj⟩ (decEqEntries left right)
    | .null | .bool _ | .int _ | .float _ | .string _ | .list _ => .isFalse nofun

def decEqItems : (left right : List Value) → Decidable (left = right)
  | [], [] => .isTrue rfl
  | [], _ :: _ | _ :: _, [] => .isFalse nofun
  | first :: rest, other :: others => match decEq first other, decEqItems rest others with
    | .isTrue here, .isTrue there => .isTrue (by rw [here, there])
    | .isFalse differ, _ => .isFalse fun same => differ (List.cons.inj same).1
    | _, .isFalse differ => .isFalse fun same => differ (List.cons.inj same).2

def decEqEntries : (left right : List (String × Value)) → Decidable (left = right)
  | [], [] => .isTrue rfl
  | [], _ :: _ | _ :: _, [] => .isFalse nofun
  | (key, value) :: rest, (name, other) :: others =>
    match decEq value other, decEqEntries rest others with
    | .isTrue here, .isTrue there =>
      if named : key = name then .isTrue (by rw [named, here, there])
      else .isFalse fun same => named (Prod.mk.inj (List.cons.inj same).1).1
    | .isFalse differ, _ => .isFalse fun same => differ (Prod.mk.inj (List.cons.inj same).1).2
    | _, .isFalse differ => .isFalse fun same => differ (List.cons.inj same).2

end

instance : DecidableEq Value :=
  decEq

end Value

namespace Table

def get? (table : Table) (key : String) : Option Value :=
  table.lookup key

/-- The value under a key, null where there is none. -/
def column (table : Table) (key : String) : Value :=
  (table.get? key).getD .null

/-- Put a value under a key: in place of the old one, or at the end. -/
def set : Table → String → Value → Table
  | [], key, value => [(key, value)]
  | (k, v) :: rest, key, value =>
    if k = key then (k, value) :: rest else (k, v) :: set rest key value

/-- The table that results from writing entries one after the other. -/
def ofEntries (entries : List (String × Value)) : Table :=
  entries.foldl (fun table (key, value) => table.set key value) []

def keys (table : Table) : List String :=
  table.map Prod.fst

end Table

namespace Value

/-- The numbers among the values; a truth value counts as one or zero. -/
inductive Quantity where
  | whole (n : Int)
  | real (x : Double)
  deriving DecidableEq, Repr

namespace Quantity

/-- Equal as numbers. -/
def same : Quantity → Quantity → Bool
  | .whole m, .whole n => m == n
  | .whole n, .real x | .real x, .whole n => x.toInt? == some n
  | .real x, .real y => x.same y

/-- Strictly smaller as numbers. -/
def less : Quantity → Quantity → Bool
  | .whole m, .whole n => m < n
  | .whole n, .real x => x.greaterInt n
  | .real x, .whole n => x.lessInt n
  | .real x, .real y => x.less y

end Quantity

/-- The number that a value counts as. -/
def quantity? : Value → Option Quantity
  | .bool b => some (.whole (if b then 1 else 0))
  | .int n => some (.whole n)
  | .float x => some (.real x)
  | _ => none

def isNull : Value → Bool
  | .null => true
  | _ => false

/-- Whether a value counts as true: it is not null, zero or empty. -/
def truthy : Value → Bool
  | .null => false
  | .bool b => b
  | .int n => n != 0
  | .float (.finite _ significand _) => significand != 0
  | .float _ => true
  | .string s => s != ""
  | .list items => !items.isEmpty
  | .object entries => !entries.isEmpty

def ofText? : Option String → Value
  | some text => .string text
  | none => .null

def ofInt? : Option Int → Value
  | some n => .int n
  | none => .null

mutual

/-- Equal values: numbers by size, lists in order, tables by key. -/
def same : Value → Value → Bool
  | .null, .null => true
  | .string a, .string b => a == b
  | .list xs, .list ys => sameItems xs ys
  | .object xs, .object ys => xs.length == ys.length && sameEntries xs ys
  | x, y => match x.quantity?, y.quantity? with
    | some a, some b => a.same b
    | _, _ => false

def sameItems : List Value → List Value → Bool
  | [], [] => true
  | x :: xs, y :: ys => same x y && sameItems xs ys
  | _, _ => false

/-- Every entry has an equal one under its key in the other table. -/
def sameEntries : List (String × Value) → List (String × Value) → Bool
  | [], _ => true
  | (key, x) :: xs, ys =>
    (match ys.lookup key with
      | some y => same x y
      | none => false) && sameEntries xs ys

end

mutual

/-- Whether the first value is strictly smaller; `none` where the two have no order. Lists are ordered by
their first difference. -/
def less? : Value → Value → Option Bool
  | .string a, .string b => some (a < b)
  | .list xs, .list ys => lessItems? xs ys
  | x, y => match x.quantity?, y.quantity? with
    | some a, some b => some (a.less b)
    | _, _ => none

def lessItems? : List Value → List Value → Option Bool
  | [], ys => some !ys.isEmpty
  | _ :: _, [] => some false
  | x :: xs, y :: ys => if same x y then lessItems? xs ys else less? x y

end

end Value

end CatalogSearch
