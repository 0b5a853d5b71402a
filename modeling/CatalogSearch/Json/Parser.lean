import CatalogSearch.Number.Decimal
import CatalogSearch.Text.Hex
import CatalogSearch.Value.Basic

/-! # Reading JSON

A reader of one JSON document. Besides the standard it accepts names for what is not a finite number. A key
that is written again keeps its place and takes the later value. A fault carries the text that was left when
it was found, from which its line follows. Values may nest to any depth: that the recursion of a reader has a limit
is not modelled.
-/

namespace CatalogSearch.Json

open Number (Double IntegerError)

/-- What is wrong with a JSON text. -/
inductive Fault where
  | byteOrderMark
  | expectingValue
  | expectingName
  | expectingColon
  | expectingComma
  | unterminatedString
  | controlCharacter
  | badEscape
  | badUnicodeEscape
  | extraData
  deriving DecidableEq, Repr

def Fault.message : Fault → String
  | .byteOrderMark => "Unexpected UTF-8 BOM (decode using utf-8-sig)"
  | .expectingValue => "Expecting value"
  | .expectingName => "Expecting property name enclosed in double quotes"
  | .expectingColon => "Expecting ':' delimiter"
  | .expectingComma => "Expecting ',' delimiter"
  | .unterminatedString => "Unterminated string starting at"
  | .controlCharacter => "Invalid control character at"
  | .badEscape => "Invalid \\escape"
  | .badUnicodeEscape => "Invalid \\uXXXX escape"
  | .extraData => "Extra data"

/-- Why a text could not be read: a fault, with the text left at that point, or a number that is too long. -/
inductive ReadError where
  | malformed (fault : Fault) (left : List Char)
  | number (error : IntegerError)
  deriving DecidableEq, Repr

def isSpace (c : Char) : Bool :=
  c = ' ' || c = '\t' || c = '\n' || c = '\r'

def skipSpace (text : List Char) : List Char :=
  text.dropWhile isSpace

/-- The unit written by four hexadecimal digits, after which some text must be left. -/
def hexUnit? : List Char → Option (Nat × List Char)
  | a :: b :: c :: d :: next :: rest => do
    let a ← Text.hexValue? a
    let b ← Text.hexValue? b
    let c ← Text.hexValue? c
    let d ← Text.hexValue? d
    some (((a * 16 + b) * 16 + c) * 16 + d, next :: rest)
  | _ => none

def shortEscape? : Char → Option Char
  | '"' => some '"'
  | '\\' => some '\\'
  | '/' => some '/'
  | 'b' => some (Char.ofNat 8)
  | 'f' => some (Char.ofNat 12)
  | 'n' => some '\n'
  | 'r' => some '\r'
  | 't' => some '\t'
  | _ => none

/-- A UTF-16 unit that needs a second one behind it. -/
def isHighSurrogate (unit : Nat) : Bool :=
  0xD800 ≤ unit && unit < 0xDC00

/-- A UTF-16 unit that completes the one before it. -/
def isLowSurrogate (unit : Nat) : Bool :=
  0xDC00 ≤ unit && unit < 0xE000

/-- The character of a unit that stands alone; half a pair becomes the replacement character. -/
def unitChar (unit : Nat) : Char :=
  if isHighSurrogate unit || isLowSurrogate unit then Char.ofNat 0xFFFD else Char.ofNat unit

/-- One character of a string, with the escape for it decoded; `none` at the closing quote. -/
def readChar (start : List Char) : List Char → Except ReadError (Option Char × List Char)
  | [] => .error (.malformed .unterminatedString start)
  | '"' :: rest => .ok (none, rest)
  | ['\\'] => .error (.malformed .unterminatedString start)
  | '\\' :: 'u' :: body => match hexUnit? body with
    | none => .error (.malformed .badUnicodeEscape start)
    | some (unit, rest) =>
      if isHighSurrogate unit then
        match rest with
        | '\\' :: 'u' :: more => match hexUnit? more with
          | none => .error (.malformed .badUnicodeEscape start)
          | some (second, rest') =>
            if isLowSurrogate second then
              .ok (some (Char.ofNat (0x10000 + (unit - 0xD800) * 0x400 + (second - 0xDC00))), rest')
            else .ok (some (unitChar unit), rest)
        | _ => .ok (some (unitChar unit), rest)
      else .ok (some (unitChar unit), rest)
  | '\\' :: c :: rest => match shortEscape? c with
    | some decoded => .ok (some decoded, rest)
    | none => .error (.malformed .badEscape start)
  | c :: rest =>
    if c.toNat < 0x20 then .error (.malformed .controlCharacter start) else .ok (some c, rest)

/-- The characters of a string up to its closing quote; `start` is the text at its opening quote. -/
def readString (start : List Char) : Nat → List Char → Except ReadError (List Char × List Char)
  | 0, _ => .error (.malformed .unterminatedString start)
  | fuel + 1, text => do
    match ← readChar start text with
    | (none, rest) => return ([], rest)
    | (some c, rest) =>
      let (chars, rest) ← readString start fuel rest
      .ok (c :: chars, rest)

/-- The digits of a whole number: a zero, or digits that start with another one. -/
def spanWhole : List Char → List Char × List Char
  | '0' :: rest => (['0'], rest)
  | text => Number.spanDigits text

/-- The places behind a point, when there is at least one. -/
def spanPlaces : List Char → List Char × List Char
  | '.' :: rest => match Number.spanDigits rest with
    | ([], _) => ([], '.' :: rest)
    | found => found
  | text => ([], text)

def readNumber (text : List Char) : Except ReadError (Value × List Char) :=
  let (negative, body) := match text with
    | '-' :: rest => (true, rest)
    | _ => (false, text)
  match spanWhole body with
  | ([], _) => .error (.malformed .expectingValue text)
  | (whole, rest) =>
    let (places, rest) := spanPlaces rest
    match Number.readExponent? rest with
    | some (exponent, rest) =>
      .ok (.float (Double.ofDecimal negative (Number.digitsValue (whole ++ places)) (exponent - places.length)), rest)
    | none =>
      if places.isEmpty then
        if Number.maxDigits < whole.length then .error (.number (.tooManyDigits whole.length))
        else
          let size : Int := Number.digitsValue whole
          .ok (.int (if negative then -size else size), rest)
      else
        .ok (.float (Double.ofDecimal negative (Number.digitsValue (whole ++ places)) (-(places.length : Int))), rest)

def readScalar (text : List Char) : Except ReadError (Value × List Char) :=
  match text with
  | 'n' :: 'u' :: 'l' :: 'l' :: rest => .ok (.null, rest)
  | 't' :: 'r' :: 'u' :: 'e' :: rest => .ok (.bool true, rest)
  | 'f' :: 'a' :: 'l' :: 's' :: 'e' :: rest => .ok (.bool false, rest)
  | 'N' :: 'a' :: 'N' :: rest => .ok (.float .nan, rest)
  | 'I' :: 'n' :: 'f' :: 'i' :: 'n' :: 'i' :: 't' :: 'y' :: rest => .ok (.float (.infinite false), rest)
  | '-' :: 'I' :: 'n' :: 'f' :: 'i' :: 'n' :: 'i' :: 't' :: 'y' :: rest => .ok (.float (.infinite true), rest)
  | _ => readNumber text

mutual

def readValue : Nat → List Char → Except ReadError (Value × List Char)
  | 0, text => .error (.malformed .expectingValue text)
  | fuel + 1, text => match text with
    | '"' :: rest => do
      let (chars, rest) ← readString text fuel rest
      .ok (.string (String.ofList chars), rest)
    | '[' :: rest => match skipSpace rest with
      | ']' :: rest => .ok (.list [], rest)
      | rest => do
        let (items, rest) ← readItems fuel rest
        .ok (.list items, rest)
    | '{' :: rest => match skipSpace rest with
      | '}' :: rest => .ok (.object [], rest)
      | rest => do
        let (entries, rest) ← readEntries fuel rest
        .ok (.object (Table.ofEntries entries), rest)
    | _ => readScalar text

def readItems : Nat → List Char → Except ReadError (List Value × List Char)
  | 0, text => .error (.malformed .expectingValue text)
  | fuel + 1, text => do
    let (item, rest) ← readValue fuel text
    match skipSpace rest with
    | ']' :: rest => .ok ([item], rest)
    | ',' :: rest =>
      let (items, rest) ← readItems fuel (skipSpace rest)
      .ok (item :: items, rest)
    | rest => .error (.malformed .expectingComma rest)

/-- The entries of a table as written, up to its closing brace. -/
def readEntries : Nat → List Char → Except ReadError (List (String × Value) × List Char)
  | 0, text => .error (.malformed .expectingName text)
  | fuel + 1, text => match text with
    | '"' :: body => do
      let (chars, rest) ← readString text fuel body
      match skipSpace rest with
      | ':' :: rest =>
        let (value, rest) ← readValue fuel (skipSpace rest)
        match skipSpace rest with
        | '}' :: rest => .ok ([(String.ofList chars, value)], rest)
        | ',' :: rest =>
          let (entries, rest) ← readEntries fuel (skipSpace rest)
          .ok ((String.ofList chars, value) :: entries, rest)
        | rest => .error (.malformed .expectingComma rest)
      | rest => .error (.malformed .expectingColon rest)
    | _ => .error (.malformed .expectingName text)

end

/-- Read a whole document: one value, with nothing but whitespace around it. -/
def parseChars (text : List Char) : Except ReadError Value :=
  if text.head? = some (Char.ofNat 0xFEFF) then .error (.malformed .byteOrderMark text)
  else do
    let (value, rest) ← readValue (text.length + 1) (skipSpace text)
    match skipSpace rest with
    | [] => .ok value
    | rest => .error (.malformed .extraData rest)

def parse (text : String) : Except ReadError Value :=
  parseChars text.toList

/-- The line, counted from one, at which `left` is what is left of a text. -/
def lineAt (text left : List Char) : Nat :=
  text.count '\n' - left.count '\n' + 1

end CatalogSearch.Json
