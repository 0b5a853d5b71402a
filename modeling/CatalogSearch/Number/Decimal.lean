import CatalogSearch.Number.Double
import CatalogSearch.Number.Integer

/-! # Decimal numbers in text

Reading numbers in the generous form, with blanks around it, underscores between digits and digits of any
script: floating-point numbers with point and exponent or words for what is not finite, and whole numbers.
-/

namespace CatalogSearch.Number

/-- ASCII digits at the start of a text, and what follows them. -/
def spanDigits (text : List Char) : List Char × List Char :=
  text.span Char.isDigit

def digitsValue (digits : List Char) : Nat :=
  ofDigits (digits.map fun c => c.toNat - '0'.toNat)

/-- The exponent part `e`, sign and digits at the start of a text, when it is complete. -/
def readExponent? (text : List Char) : Option (Int × List Char) :=
  match text with
  | mark :: rest =>
    if mark = 'e' || mark = 'E' then
      let (negative, body) := match rest with
        | '-' :: more => (true, more)
        | '+' :: more => (false, more)
        | _ => (false, rest)
      match spanDigits body with
      | ([], _) => none
      | (digits, tail) =>
        let size := digitsValue digits
        some (if negative then -(size : Int) else size, tail)
    else none
  | [] => none

/-- Digits with an optional point and exponent, the whole text, without a sign. -/
def readUnsigned? (negative : Bool) (text : List Char) : Option Double :=
  let (whole, rest) := spanDigits text
  let (places, rest) := match rest with
    | '.' :: more => spanDigits more
    | _ => ([], rest)
  if whole.isEmpty && places.isEmpty then none
  else
    let (exponent, rest) := (readExponent? rest).getD (0, rest)
    if rest.isEmpty then
      some (Double.ofDecimal negative (digitsValue (whole ++ places)) (exponent - places.length))
    else none

/-- The sign at the start of a text, and what follows it. -/
def readSign : List Char → Bool × List Char
  | '-' :: rest => (true, rest)
  | '+' :: rest => (false, rest)
  | text => (false, text)

/-- The words for what is not finite, in any letter case. -/
def readSpecial? (negative : Bool) (text : List Char) : Option Double :=
  let word := String.ofList (text.map Char.toLower)
  if word == "inf" || word == "infinity" then some (.infinite negative)
  else if word == "nan" then some .nan
  else none

/-- Remove underscores, each of which must stand between two digits. -/
def dropUnderscores? (before : Option Char) : List Char → Option (List Char)
  | [] => some []
  | '_' :: rest =>
    if before.any Char.isDigit && rest.head?.any Char.isDigit then dropUnderscores? (some '_') rest else none
  | c :: rest => (dropUnderscores? (some c) rest).map (c :: ·)

/-- Blanks that may stand around a number; the separators among the controls are none of them. -/
def isMargin (c : Char) : Bool :=
  Text.isBlank c && !(0x1C ≤ c.toNat && c.toNat ≤ 0x1F)

def trimMargins (text : List Char) : List Char :=
  ((text.dropWhile isMargin).reverse.dropWhile isMargin).reverse

/-- A text in the generous form, brought to the plain one: its sign, and the rest without blanks and
underscores and with ASCII digits. -/
def toPlain? (text : List Char) : Option (Bool × List Char) :=
  let plain := (trimMargins text).map fun c => match Text.decimalValue? c with
    | some digit => Char.ofNat ('0'.toNat + digit)
    | none => c
  (dropUnderscores? none plain).map readSign

/-- A floating-point number in the generous form. -/
def readDouble? (text : List Char) : Option Double :=
  match toPlain? text with
  | some (negative, rest) => (readSpecial? negative rest).or (readUnsigned? negative rest)
  | none => none

/-- A whole number in the generous form. -/
def readWhole? (text : List Char) : Option Int :=
  match toPlain? text with
  | some (negative, digits) =>
    if digits.isEmpty || !digits.all Char.isDigit || maxDigits < digits.length then none
    else some (if negative then -(digitsValue digits : Int) else digitsValue digits)
  | none => none

end CatalogSearch.Number
