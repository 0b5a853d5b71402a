import CatalogSearch.Number.Double

/-! # Decimal text of floating-point numbers

The shortest text is the one with the fewest digits that reads back to the same number, the nearest of
several. It is positional from four zeros behind the point to sixteen digits before it. Text with two
places behind the point rounds the exact value.
-/

namespace CatalogSearch.Number.Double

/-- The decimal exponent `k` with `10 ^ (k - 1) ≤ num / den < 10 ^ k`. -/
def decimalExponent (num den : Nat) : Int :=
  if den ≤ num then ((Nat.toDigits 10 (num / den)).length : Int)
  else
    let zeros := (Nat.toDigits 10 (den / num)).length
    if den ≤ num * Nat.pow 10 (zeros - 1) then 2 - (zeros : Int) else 1 - (zeros : Int)

/-- The decimals of `count` digits just below and just above `num / den < 10 ^ exponent`, as digits of that
scale, the nearer one first. -/
def neighbours (num den : Nat) (exponent : Int) (count : Nat) : List Nat :=
  let shift := (count : Int) - exponent
  let (n, d) := if 0 ≤ shift then (num * Nat.pow 10 shift.toNat, den) else (num, den * Nat.pow 10 (-shift).toNat)
  let low := n / d
  if 2 * (n % d) < d || (2 * (n % d) == d && low % 2 == 0) then [low, low + 1] else [low + 1, low]

/-- Search from `count` digits on, with `fuel` attempts left, for digits that read back. -/
def shortestFrom (x : Double) (num den : Nat) (exponent : Int) (count : Nat) : Nat → Nat × Int
  | 0 => (0, exponent)
  | fuel + 1 =>
    let power := exponent - count
    match (neighbours num den exponent count).find? fun digits => ofDecimal false digits power == x with
    | some digits => (digits, power)
    | none => shortestFrom x num den exponent (count + 1) fuel

/-- Digits and power of ten of the shortest decimal that reads back to a positive number. -/
def shortestDecimal (significand : Nat) (exponent : Int) : Nat × Int :=
  let (num, den) := scaled significand 1 (-exponent)
  shortestFrom (.finite false significand exponent) num den (decimalExponent num den) 1 18

/-- The text of `digits * 10 ^ power`, without zeros at the end of the digits. -/
def layout (digits : Nat) (power : Int) : String :=
  let text := Nat.toDigits 10 digits
  let kept := (text.reverse.dropWhile (· == '0')).reverse
  let point : Int := (text.length : Int) + power
  if point < -3 || 16 < point then
    let exponent := point - 1
    let mark := if exponent < 0 then "e-" else "e+"
    let size := toString exponent.natAbs
    let size := if size.length < 2 then "0" ++ size else size
    match kept with
    | [] => "0.0"
    | [one] => String.ofList [one] ++ mark ++ size
    | first :: others => String.ofList (first :: '.' :: others) ++ mark ++ size
  else if point ≤ 0 then
    "0." ++ String.ofList (List.replicate (-point).toNat '0' ++ kept)
  else
    let whole := point.toNat
    if kept.length ≤ whole then
      String.ofList (kept ++ List.replicate (whole - kept.length) '0') ++ ".0"
    else String.ofList (kept.take whole ++ '.' :: kept.drop whole)

/-- The shortest text of a floating-point number. -/
def text : Double → String
  | .nan => "nan"
  | .infinite negative => if negative then "-inf" else "inf"
  | .finite negative significand exponent =>
    let sign := if negative then "-" else ""
    if significand = 0 then sign ++ "0.0"
    else
      let (digits, power) := shortestDecimal significand exponent
      sign ++ layout digits power

/-- The text with two places behind the point, a half going to the even neighbour. -/
def twoPlaces : Double → String
  | .nan => "nan"
  | .infinite negative => if negative then "-inf" else "inf"
  | .finite negative significand exponent =>
    let (num, den) := scaled significand 1 (-exponent)
    let hundredths := roundHalfEven (num * 100) den
    let cents := toString (hundredths % 100)
    let cents := if cents.length < 2 then "0" ++ cents else cents
    (if negative then "-" else "") ++ toString (hundredths / 100) ++ "." ++ cents

end CatalogSearch.Number.Double
