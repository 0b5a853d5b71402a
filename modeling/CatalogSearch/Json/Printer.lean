import CatalogSearch.Number.Shortest
import CatalogSearch.Text.Quoted
import CatalogSearch.Value.Basic

/-! # Writing JSON

A value on one line of ASCII: `, ` between items, `: ` after keys, and every character outside the printable
ASCII range as an escape, in two surrogates where it needs them. Whole numbers are written whatever their size: a
value that was read holds none with more digits than a number may have.
-/

namespace CatalogSearch.Json

def unitEscape (unit : Nat) : List Char :=
  '\\' :: 'u' :: Text.hexPadded 4 unit

def stringChar (c : Char) : List Char :=
  if c = '"' then ['\\', '"']
  else if c = '\\' then ['\\', '\\']
  else if c = '\n' then ['\\', 'n']
  else if c = '\r' then ['\\', 'r']
  else if c = '\t' then ['\\', 't']
  else if c.toNat = 8 then ['\\', 'b']
  else if c.toNat = 12 then ['\\', 'f']
  else if 0x20 ≤ c.toNat && c.toNat < 0x7F then [c]
  else if c.toNat < 0x10000 then unitEscape c.toNat
  else
    let offset := c.toNat - 0x10000
    unitEscape (0xD800 + offset / 0x400) ++ unitEscape (0xDC00 + offset % 0x400)

def stringChars (text : String) : List Char :=
  '"' :: text.toList.flatMap stringChar ++ ['"']

/-- A floating-point number; what is not finite is written by name. -/
def doubleText : Number.Double → String
  | .nan => "NaN"
  | .infinite negative => if negative then "-Infinity" else "Infinity"
  | x => x.text

mutual

def printChars : Value → List Char
  | .null => ['n', 'u', 'l', 'l']
  | .bool true => ['t', 'r', 'u', 'e']
  | .bool false => ['f', 'a', 'l', 's', 'e']
  | .int n => (toString n).toList
  | .float x => (doubleText x).toList
  | .string s => stringChars s
  | .list items => '[' :: printItems items ++ [']']
  | .object entries => '{' :: printEntries entries ++ ['}']

def printItems : List Value → List Char
  | [] => []
  | [item] => printChars item
  | item :: rest => printChars item ++ ',' :: ' ' :: printItems rest

def printEntries : List (String × Value) → List Char
  | [] => []
  | [(key, value)] => stringChars key ++ ':' :: ' ' :: printChars value
  | (key, value) :: rest => stringChars key ++ ':' :: ' ' :: printChars value ++ ',' :: ' ' :: printEntries rest

end

def print (value : Value) : String :=
  String.ofList (printChars value)

end CatalogSearch.Json
