import CatalogSearch.Number.Integer
import CatalogSearch.Value.Basic

/-! # Years

A year is a whole number or a text that consists of digits, minus signs in front and blanks around it. Some
such texts are still no number, and are refused instead of being left out.
-/

namespace CatalogSearch.Value

open Number

/-- Whether a text looks like a number: minus signs and then digits of any kind. -/
def looksNumeric (text : List Char) : Bool :=
  match text.dropWhile (· == '-') with
  | [] => false
  | digits => digits.all Text.isAnyDigit

/-- The year written in a text; `none` where the text does not look like a number. -/
def yearOfText? (text : String) : Except IntegerError (Option Int) :=
  let body := Text.strip text.toList
  if looksNumeric body then (readInteger body).map some else .ok none

/-- The year that a filter value stands for; values that are no year are left out. -/
def year? : Value → Except IntegerError (Option Int)
  | .int n => .ok (some n)
  | .string s => yearOfText? s
  | _ => .ok none

end CatalogSearch.Value
