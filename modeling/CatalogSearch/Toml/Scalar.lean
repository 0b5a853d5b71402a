import CatalogSearch.Json.Parser
import CatalogSearch.Text.Hex
import CatalogSearch.Toml.Basic

/-! # Scalars of settings documents

Strings, numbers, truth values, dates and times. A date or a time is read as the list of its numbers, which
no setting accepts.
-/

namespace CatalogSearch.Toml

open Number (Double)

/-- Whether a character is a control other than the tab. -/
def isControl (c : Char) : Bool :=
  (c.toNat < 0x20 && c != '\t') || c.toNat == 0x7F

/-- Whether a character is a control that no text of several lines may hold. -/
def isBlockControl (c : Char) : Bool :=
  isControl c && c != '\n'

def isSpace (c : Char) : Bool :=
  c == ' ' || c == '\t'

def isSpaceOrLine (c : Char) : Bool :=
  isSpace c || c == '\n'

def skipSpace (text : List Char) : List Char :=
  text.dropWhile isSpace

/-- Refuse a stretch of text that holds a forbidden character, at that character. -/
def refuse (forbidden : Char → Bool) (stretch rest : List Char) : Except Stop Unit :=
  match stretch.dropWhile (!forbidden ·) with
  | [] => .ok ()
  | c :: left => .error (.fault (.invalidCharacter c) (c :: left ++ rest))

/-- The text up to a mark, and the text after the mark. -/
def splitAtMark? (mark : List Char) : List Char → Option (List Char × List Char)
  | [] => none
  | c :: rest =>
    if mark.isPrefixOf (c :: rest) then some ([], (c :: rest).drop mark.length)
    else (splitAtMark? mark rest).map fun (before, after) => (c :: before, after)

/-- A string that ends at a mark and has no escapes. -/
def literalUntil (mark : List Char) (forbidden : Char → Bool) (text : List Char) :
    Except Stop (List Char × List Char) :=
  match splitAtMark? mark text with
  | none => .error (.fault (.expectedEnd (String.ofList mark)) [])
  | some (content, rest) => do
    refuse forbidden content (mark ++ rest)
    return (content, rest)

def shortEscape? : Char → Option Char
  | 'b' => some (Char.ofNat 8)
  | 't' => some '\t'
  | 'n' => some '\n'
  | 'f' => some (Char.ofNat 12)
  | 'r' => some '\r'
  | 'e' => some (Char.ofNat 0x1B)
  | '"' => some '"'
  | '\\' => some '\\'
  | _ => none

/-- The number of hexadecimal digits after an escape that takes some. -/
def hexWidth? : Char → Option Nat
  | 'x' => some 2
  | 'u' => some 4
  | 'U' => some 8
  | _ => none

def hexChar (width : Nat) (text : List Char) : Except Stop (Char × List Char) :=
  let digits := text.take width
  match digits.mapM Text.hexValue? with
  | some values =>
    if digits.length < width then .error (.fault .badHex text)
    else
      let number := values.foldl (fun total digit => 16 * total + digit) 0
      if number.isValidChar then .ok (Char.ofNat number, text.drop width)
      else .error (.fault .notAScalar (text.drop width))
  | none => .error (.fault .badHex text)

/-- The text after a backslash at the end of a line, when only spaces come before the line's end. -/
def skipLineEnd (text : List Char) : Except Stop (List Char) :=
  match skipSpace text with
  | [] => .ok []
  | '\n' :: rest => .ok (rest.dropWhile isSpaceOrLine)
  | left => .error (.fault .badEscape left)

/-- What an escape after a backslash stands for, and the text after it. -/
def readEscape (several : Bool) (text : List Char) : Except Stop (List Char × List Char) :=
  match text with
  | [] => .error (.fault .badEscape [])
  | c :: rest =>
    if several && isSpaceOrLine c then (skipLineEnd (c :: rest)).map fun left => ([], left)
    else match hexWidth? c, shortEscape? c with
      | some width, _ => (hexChar width rest).map fun (decoded, left) => ([decoded], left)
      | none, some decoded => .ok ([decoded], rest)
      | none, none => .error (.fault .badEscape rest)

/-- The content of a string with escapes, up to its closing quotes. -/
def readBasic (several : Bool) : Nat → List Char → Except Stop (List Char × List Char)
  | 0, text => .error (.fault .unterminatedString text)
  | fuel + 1, text => match text with
    | [] => .error (.fault .unterminatedString [])
    | '"' :: rest =>
      if !several then .ok ([], rest)
      else match rest with
        | '"' :: '"' :: after => .ok ([], after)
        | _ => do
          let (content, left) ← readBasic several fuel rest
          return ('"' :: content, left)
    | '\\' :: rest => do
      let (decoded, rest) ← readEscape several rest
      let (content, left) ← readBasic several fuel rest
      return (decoded ++ content, left)
    | c :: rest =>
      if if several then isBlockControl c else isControl c then .error (.fault (.illegalCharacter c) text)
      else do
        let (content, left) ← readBasic several fuel rest
        return (c :: content, left)

/-- Up to two more quotes that belong to the end of a string of several lines. -/
def extraQuotes (quote : Char) : List Char → List Char × List Char
  | first :: second :: rest =>
    if first == quote then
      if second == quote then ([quote, quote], rest) else ([quote], second :: rest)
    else ([], first :: second :: rest)
  | [only] => if only == quote then ([quote], []) else ([], [only])
  | [] => ([], [])

/-- A line end right after the opening quotes is dropped. -/
def dropLineEnd : List Char → List Char
  | '\n' :: rest => rest
  | text => text

def readString? (text : List Char) : Option (Except Stop (List Char × List Char)) :=
  match text with
  | '"' :: '"' :: '"' :: rest => some do
    let (content, left) ← readBasic true (rest.length + 1) (dropLineEnd rest)
    let (extra, left) := extraQuotes '"' left
    return (content ++ extra, left)
  | '"' :: rest => some (readBasic false (rest.length + 1) rest)
  | '\'' :: '\'' :: '\'' :: rest => some do
    let (content, left) ← literalUntil ['\'', '\'', '\''] isBlockControl (dropLineEnd rest)
    let (extra, left) := extraQuotes '\'' left
    return (content ++ extra, left)
  | '\'' :: rest => some (literalUntil ['\''] isControl rest)
  | _ => none

/-- Digits of some kind with single underscores between them, without the underscores. -/
def spanUnderscored (isDigit : Char → Bool) : List Char → List Char × List Char
  | '_' :: c :: rest =>
    if isDigit c then
      let (digits, left) := spanUnderscored isDigit rest
      (c :: digits, left)
    else ([], '_' :: c :: rest)
  | c :: rest =>
    if isDigit c then
      let (digits, left) := spanUnderscored isDigit rest
      (c :: digits, left)
    else ([], c :: rest)
  | [] => ([], [])

/-- Digits that start with a digit. -/
def spanDigits (isDigit : Char → Bool) (text : List Char) : List Char × List Char :=
  if text.head?.any isDigit then spanUnderscored isDigit text else ([], text)

def readBased? (text : List Char) : Option (Value × List Char) :=
  match text with
  | '0' :: mark :: rest =>
    let base := if mark == 'x' then 16 else if mark == 'o' then 8 else if mark == 'b' then 2 else 0
    let fits (c : Char) : Bool := (Text.hexValue? c).any (· < base)
    match spanDigits fits rest with
    | ([], _) => none
    | (digits, left) =>
      let number := digits.foldl (fun total c => base * total + (Text.hexValue? c).getD 0) 0
      some (.int number, left)
  | _ => none

/-- The places behind a point, when there are any. -/
def spanPlaces (text : List Char) : List Char × List Char :=
  match text with
  | '.' :: rest => match spanDigits Char.isDigit rest with
    | ([], _) => ([], text)
    | found => found
  | _ => ([], text)

/-- The exponent part of a number, when it is complete. -/
def readExponent? (text : List Char) : Option (Int × List Char) :=
  match text with
  | mark :: rest =>
    if mark == 'e' || mark == 'E' then
      let (negative, body) := Number.readSign rest
      match spanDigits Char.isDigit body with
      | ([], _) => none
      | (digits, left) =>
        let size : Int := Number.digitsValue digits
        some (if negative then -size else size, left)
    else none
  | [] => none

def readDecimal? (text : List Char) : Option (Except Stop (Value × List Char)) :=
  let (negative, body) := Number.readSign text
  let (whole, rest) := match body with
    | '0' :: rest => (['0'], rest)
    | _ => spanDigits Char.isDigit body
  if whole.isEmpty then none
  else
    let (places, rest) := spanPlaces rest
    match readExponent? rest, places with
    | none, [] =>
      if Number.maxDigits < whole.length then some (.error (.number (.tooManyDigits whole.length)))
      else
        let size : Int := Number.digitsValue whole
        some (.ok (.int (if negative then -size else size), rest))
    | found, places =>
      let (exponent, left) := found.getD (0, rest)
      let digits := Number.digitsValue (whole ++ places)
      some (.ok (.float (Double.ofDecimal negative digits (exponent - places.length)), left))

/-- A number of exactly two digits between two bounds. -/
def readPair? (low high : Nat) : List Char → Option (Nat × List Char)
  | a :: b :: rest =>
    let number := Number.digitsValue [a, b]
    if a.isDigit && b.isDigit && low ≤ number && number ≤ high then some (number, rest) else none
  | _ => none

/-- A character that has to come next. -/
def expect? (c : Char) : List Char → Option (List Char)
  | head :: rest => if head == c then some rest else none
  | [] => none

/-- Seconds with an optional fraction; nothing where there are none. -/
def readSeconds (text : List Char) : List Nat × List Char :=
  match (expect? ':' text).bind (readPair? 0 59) with
  | none => ([], text)
  | some (seconds, rest) => match rest with
    | '.' :: more => match Number.spanDigits more with
      | ([], _) => ([seconds], rest)
      | (digits, left) => ([seconds, Number.digitsValue (digits.take 6)], left)
    | _ => ([seconds], rest)

def readTime? (text : List Char) : Option (List Nat × List Char) := do
  let (hours, rest) ← readPair? 0 23 text
  let (minutes, rest) ← readPair? 0 59 (← expect? ':' rest)
  let (seconds, left) := readSeconds rest
  return (hours :: minutes :: seconds, left)

/-- The offset after a time, when there is one. -/
def dropOffset (text : List Char) : List Char :=
  match text with
  | mark :: rest =>
    if mark == 'Z' || mark == 'z' then rest
    else if mark == '+' || mark == '-' then
      match readPair? 0 23 rest with
      | some (_, more) => ((expect? ':' more).bind (readPair? 0 59)).elim text (·.2)
      | none => text
    else text
  | [] => []

def daysIn (year month : Nat) : Nat :=
  if month == 2 then
    if year % 4 == 0 && (year % 100 != 0 || year % 400 == 0) then 29 else 28
  else if [4, 6, 9, 11].contains month then 30
  else 31

def readDate? (text : List Char) : Option ((Nat × Nat × Nat) × List Char) := do
  let year := text.take 4
  if year.length < 4 || !year.all Char.isDigit then none
  let (month, rest) ← readPair? 1 12 (← expect? '-' (text.drop 4))
  let (day, left) ← readPair? 1 31 (← expect? '-' rest)
  return ((Number.digitsValue year, month, day), left)

def readMoment? (text : List Char) : Option (Except Stop (Value × List Char)) :=
  let numbers (parts : List Nat) : Value := .list (parts.map fun (part : Nat) => .int part)
  match readDate? text with
  | some ((year, month, day), rest) =>
    if year == 0 || daysIn year month < day then some (.error (.fault .badDate text))
    else
      let time := match rest with
        | c :: more => if c == 'T' || c == 't' || c == ' ' then readTime? more else none
        | [] => none
      match time with
      | some (parts, left) => some (.ok (numbers (year :: month :: day :: parts), dropOffset left))
      | none => some (.ok (numbers [year, month, day], rest))
  | none => (readTime? text).map fun (parts, left) => .ok (numbers parts, left)

def readSpecial? (text : List Char) : Option (Value × List Char) :=
  let (negative, body) := Number.readSign text
  match body with
  | 'i' :: 'n' :: 'f' :: rest => some (.float (.infinite negative), rest)
  | 'n' :: 'a' :: 'n' :: rest => some (.float .nan, rest)
  | _ => none

/-- A value that is no string, array or table. -/
def readPlain (text : List Char) : Except Stop (Value × List Char) :=
  match text with
  | 't' :: 'r' :: 'u' :: 'e' :: rest => .ok (.bool true, rest)
  | 'f' :: 'a' :: 'l' :: 's' :: 'e' :: rest => .ok (.bool false, rest)
  | _ => match readMoment? text with
    | some outcome => outcome
    | none => match readBased? text with
      | some found => .ok found
      | none => match readDecimal? text with
        | some outcome => outcome
        | none => match readSpecial? text with
          | some found => .ok found
          | none => .error (.fault .invalidValue text)

end CatalogSearch.Toml
