import CatalogSearch.Text.Blank
import CatalogSearch.Text.Digit
import CatalogSearch.Text.Quoted

/-! # Whole numbers in text

Reading a whole number from text that may hold the digits of any script, and writing it as text. Two things can
go wrong when one is read: the text is no number, or it has more digits than a number may have. A number that
takes more digits than that cannot be written either.
-/

namespace CatalogSearch.Number

/-- The most digits a whole number may be written with. -/
def maxDigits : Nat := 4300

/-- Why a text is no usable whole number, or a whole number has no text. -/
inductive IntegerError where
  | notANumber (text : String)
  | tooManyDigits (count : Nat)
  | unwritable
  deriving DecidableEq, Repr

/-- The wording of the error; a long text is cut off after two hundred characters of its quoted form. -/
def IntegerError.message : IntegerError → String
  | .notANumber text =>
    "invalid literal for int() with base 10: " ++ String.ofList ((Text.quotedChars text.toList).take 200)
  | .tooManyDigits count =>
    "Exceeds the limit (" ++ toString maxDigits ++ " digits) for integer string conversion: value has " ++
      toString count ++ " digits; use sys.set_int_max_str_digits() to increase the limit"
  | .unwritable =>
    "Exceeds the limit (" ++ toString maxDigits ++
      " digits) for integer string conversion; use sys.set_int_max_str_digits() to increase the limit"

/-- The number written by decimal digits, most significant first. -/
def ofDigits (digits : List Nat) : Nat :=
  digits.foldl (fun total digit => 10 * total + digit) 0

/-- The values of the decimal digits at the start of a text, and what follows them. -/
def leadingDigits : List Char → List Nat × List Char
  | [] => ([], [])
  | c :: rest => match Text.decimalValue? c with
    | some digit => let (digits, tail) := leadingDigits rest; (digit :: digits, tail)
    | none => ([], c :: rest)

/-- A whole number written as decimal digits, with at most one minus sign in front. -/
def readInteger (text : List Char) : Except IntegerError Int :=
  let (negative, body) := match text with
    | '-' :: rest => (true, rest)
    | _ => (false, text)
  let (digits, tail) := leadingDigits body
  if maxDigits < digits.length then .error (.tooManyDigits digits.length)
  else if digits.isEmpty || !tail.isEmpty then .error (.notANumber (String.ofList text))
  else .ok (if negative then -(ofDigits digits : Int) else ofDigits digits)

/-- The text of a whole number, if it takes no more digits than a number may have. The sign is no digit. -/
def written (n : Int) : Except IntegerError String :=
  if maxDigits < (Nat.toDigits 10 n.natAbs).length then .error .unwritable else .ok (toString n)

/-- The text of a whole number, padded with zeros after the sign to `width` characters. -/
def padded (width : Nat) (n : Int) : String :=
  let digits := toString n.natAbs
  let sign := if n < 0 then "-" else ""
  sign ++ String.ofList (List.replicate (width - sign.length - digits.length) '0') ++ digits

end CatalogSearch.Number
