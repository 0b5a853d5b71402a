/-! # Binary floating-point numbers

Numbers with 53 significant bits, kept as exact integers: a finite number is `significand * 2 ^ exponent`.
Rounding, comparison and decimal text are computed in whole numbers, so nothing depends on a machine.
-/

namespace CatalogSearch.Number

/-- A floating-point number. A finite one has a significand below `2 ^ 53` and an exponent of at least -1074. -/
inductive Double where
  | nan
  | infinite (negative : Bool)
  | finite (negative : Bool) (significand : Nat) (exponent : Int)
  deriving DecidableEq, Repr, Inhabited

/-- The whole number nearest to `num / den`, the even one of two. -/
def roundHalfEven (num den : Nat) : Nat :=
  let q := num / den
  let r := num % den
  if 2 * r < den then q else if den < 2 * r then q + 1 else q + q % 2

/-- The fraction `num / den * 2 ^ (-exponent)`. -/
def scaled (num den : Nat) (exponent : Int) : Nat × Nat :=
  if 0 ≤ exponent then (num, den * Nat.pow 2 exponent.toNat) else (num * Nat.pow 2 (-exponent).toNat, den)

namespace Double

def zero (negative : Bool) : Double :=
  .finite negative 0 (-1074)

/-- The exponent at which `num / den` has a significand of 53 bits, no smaller than the least exponent. -/
def exponentFor (num den : Nat) : Int :=
  let guess : Int := (num.log2 : Int) - den.log2 - 52
  let (n, d) := scaled num den guess
  let exponent := if n / d < Nat.pow 2 52 then guess - 1 else guess
  max exponent (-1074)

/-- The floating-point number nearest to a fraction, the even one of two. -/
def ofRatio (negative : Bool) (num den : Nat) : Double :=
  if num = 0 then zero negative
  else
    let exponent := exponentFor num den
    let (n, d) := scaled num den exponent
    let significand := roundHalfEven n d
    let (significand, exponent) :=
      if significand = Nat.pow 2 53 then (Nat.pow 2 52, exponent + 1) else (significand, exponent)
    if 971 < exponent then .infinite negative else .finite negative significand exponent

/-- The floating-point number nearest to `digits * 10 ^ power`. -/
def ofDecimal (negative : Bool) (digits : Nat) (power : Int) : Double :=
  if digits = 0 then zero negative
  else
    let size : Int := (Nat.toDigits 10 digits).length
    if 400 < size + power then .infinite negative
    else if size + power < -400 then zero negative
    else if 0 ≤ power then ofRatio negative (digits * Nat.pow 10 power.toNat) 1
    else ofRatio negative digits (Nat.pow 10 (-power).toNat)

/-- The exact value as a fraction; `none` for what is not finite. -/
def toRatio? : Double → Option (Int × Nat)
  | .finite negative significand exponent =>
    let (num, den) := scaled significand 1 (-exponent)
    some (if negative then -(num : Int) else num, den)
  | _ => none

/-- The nearest floating-point number of a whole number; `none` beyond the greatest finite one. -/
def ofInt? (n : Int) : Option Double :=
  match ofRatio (n < 0) n.natAbs 1 with
  | .infinite _ => none
  | x => some x

/-- The whole number that equals a floating-point number. -/
def toInt? (x : Double) : Option Int :=
  match x.toRatio? with
  | some (num, den) => if num % den = 0 then some (num / den) else none
  | none => none

/-- Strictly smaller, as numbers; nothing is smaller or greater than what is not a number. -/
def less : Double → Double → Bool
  | .nan, _ | _, .nan => false
  | .infinite a, .infinite b => a && !b
  | .infinite a, .finite .. => a
  | .finite .., .infinite b => !b
  | x@(.finite ..), y@(.finite ..) =>
    match x.toRatio?, y.toRatio? with
    | some (a, b), some (c, d) => a * d < c * b
    | _, _ => false

/-- Equal, as numbers: the two zeros are equal, and what is not a number equals nothing. -/
def same : Double → Double → Bool
  | .nan, _ | _, .nan => false
  | .infinite a, .infinite b => a == b
  | .infinite _, .finite .. | .finite .., .infinite _ => false
  | x@(.finite ..), y@(.finite ..) =>
    match x.toRatio?, y.toRatio? with
    | some (a, b), some (c, d) => a * d == c * b
    | _, _ => false

/-- Strictly smaller than a whole number. -/
def lessInt : Double → Int → Bool
  | .nan, _ => false
  | .infinite negative, _ => negative
  | x@(.finite ..), n => match x.toRatio? with
    | some (num, den) => num < n * den
    | none => false

/-- Strictly greater than a whole number. -/
def greaterInt : Double → Int → Bool
  | .nan, _ => false
  | .infinite negative, _ => !negative
  | x@(.finite ..), n => match x.toRatio? with
    | some (num, den) => n * den < num
    | none => false

end Double

end CatalogSearch.Number
