import CatalogSearch.Number.Decimal

/-! # Whole numbers as settings and columns write them

A plain whole number has no sign but a minus, no zeros in front and no more digits than allowed. A loose one
may also have blanks around it, a sign, zeros in front, single underscores and zero places, and is brought to
the plain form step by step. Each step looks only at what the one before has left, so a minus sign may stand
behind zeros as well as before them, and underscores among zeros in front may be doubled.
-/

namespace CatalogSearch.Number

/-- The minus sign at the start of a text, and what follows it. -/
def readMinus : List Char → Bool × List Char
  | '-' :: rest => (true, rest)
  | text => (false, text)

/-- Whether the plain number at the start of a text has too many digits, whatever comes after it. -/
def startsTooLong (text : List Char) : Bool :=
  let (digits, _) := spanDigits (readMinus text).2
  digits.head? != some '0' && maxDigits < digits.length

/-- A plain whole number. -/
def readPlain? (text : List Char) : Option Int :=
  let (negative, digits) := readMinus text
  if digits.isEmpty || !digits.all Char.isDigit || maxDigits < digits.length then none
  else if digits.head? == some '0' && digits != ['0'] then none
  else some (if negative then -(digitsValue digits : Int) else digitsValue digits)

/-- What is left behind zeros and underscores. The character before, `last`, is kept in front of a point and
where nothing else is left. -/
def afterZeros? (last : Char) : List Char → Option (List Char)
  | [] => some [last]
  | c :: rest =>
    if c = '0' || c = '_' then afterZeros? c rest
    else if c.isDigit || c = '-' then some (c :: rest)
    else if c = '.' then some (last :: c :: rest)
    else none

/-- Drop zeros in front. The text has to start with a digit. -/
def dropLeadingZeros? : List Char → Option (List Char)
  | [] => none
  | c :: rest => if c = '0' then afterZeros? c rest else if c.isDigit then some (c :: rest) else none

/-- Drop a point with one or more zeros and nothing else behind it. -/
def dropZeroPlaces (text : List Char) : List Char :=
  let whole := text.takeWhile (· != '.')
  match text.drop whole.length with
  | '.' :: '0' :: places => if places.all (· == '0') then whole else text
  | _ => text

/-- Whether every underscore stands alone between two other characters; `before` tells that one stands before
the text, as it does at the start. -/
def singleUnderscores (before : Bool) : List Char → Bool
  | [] => !before
  | c :: rest => if c = '_' then !before && singleUnderscores true rest else singleUnderscores false rest

/-- A loose whole number. -/
def readLoose? (text : List Char) : Option Int := do
  let (negative, body) := readSign (trimMargins text)
  let whole := dropZeroPlaces (← dropLeadingZeros? body)
  let digits := whole.filter (· != '_')
  if singleUnderscores true whole then readPlain? (if negative then '-' :: digits else digits) else none

end CatalogSearch.Number
