import CatalogSearch.Number.Integer
import CatalogSearch.Number.Shortest
import CatalogSearch.Value.Basic

/-! # Values as text

A value is shown in a predicate with its texts between quotes. As a search text it stands bare, so that a
filter holding a number is compared by the digits of that number. A value that holds a whole number of too many
digits, however deep inside, has no text.
-/

namespace CatalogSearch.Value

open Number (IntegerError)

def joined (separator : String) (parts : List String) : String :=
  separator.intercalate parts

mutual

/-- The value as it is shown inside a predicate or another value. -/
def shown : Value → Except IntegerError String
  | .null => .ok "None"
  | .bool b => .ok (if b then "True" else "False")
  | .int n => Number.written n
  | .float x => .ok x.text
  | .string s => .ok (Text.quoted s)
  | .list items => do
    let parts ← shownItems items
    return "[" ++ joined ", " parts ++ "]"
  | .object entries => do
    let parts ← shownEntries entries
    return "\x7b" ++ joined ", " parts ++ "\x7d"

def shownItems : List Value → Except IntegerError (List String)
  | [] => .ok []
  | item :: rest => do
    let first ← shown item
    let others ← shownItems rest
    return first :: others

def shownEntries : List (String × Value) → Except IntegerError (List String)
  | [] => .ok []
  | (key, value) :: rest => do
    let first ← shown value
    let others ← shownEntries rest
    return (Text.quoted key ++ ": " ++ first) :: others

end

/-- The value as a text of its own: a text is taken as it is. -/
def text : Value → Except IntegerError String
  | .string s => .ok s
  | value => value.shown

/-- The text to search for, when a filter holds one: null and the empty text set no filter. -/
def searchText? : Value → Except IntegerError (Option String)
  | .null => .ok none
  | value => do
    let text ← value.text
    return if text == "" then none else some text

end CatalogSearch.Value
