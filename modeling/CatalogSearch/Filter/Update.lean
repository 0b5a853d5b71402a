import CatalogSearch.Field.Basic
import CatalogSearch.Filter.Criteria
import CatalogSearch.Token.Basic

/-! # Changing filters

Changes come as values under filter names, or as tokens of the search box. A change under a name that no
filter has refuses the whole update.
-/

namespace CatalogSearch

/-- A key that addresses no filter. -/
structure UnknownFilter where
  key : String
  deriving DecidableEq, Repr

def UnknownFilter.message (error : UnknownFilter) : String :=
  "Unknown filter field: " ++ Text.quoted error.key

/-- The filters that the keys of a table address, with their new values; the first unknown key is refused. -/
def resolveUpdates (updates : Table) : Except UnknownFilter (List (Filter × Value)) :=
  updates.mapM fun (key, value) => match Filter.ofKey? key with
    | some filter => .ok (filter, value)
    | none => .error ⟨key⟩

def Criteria.update (criteria : Criteria) (updates : Table) : Except UnknownFilter Criteria :=
  (resolveUpdates updates).map criteria.setAll

/-- A search text with the tokens that were picked out of it. -/
structure ParsedText where
  tokens : List Token
  text : String
  deriving DecidableEq, Repr

namespace Token

/-- Pick the tokens out of a search text whose fields are looked for in free text. The text itself stays as it is. -/
def parse (text : String) : ParsedText where
  tokens := (scan text.toList).filter fun token => Field.inlineNames.contains token.field
  text

/-- The tokens of a search text whose fields are picked out of free text. -/
def ofText (text : String) : List Token :=
  (parse text).tokens

/-- The changes that a token makes to the filters. A year that is no number is set as it is written. -/
def changes (token : Token) : Except Number.IntegerError (List (Filter × Value)) :=
  match token.field with
  | "year" => (Value.yearOfText? token.value).map fun year =>
    let bound : Value := match year with
      | some n => .int n
      | none => .string token.value
    [(.yearFrom, bound), (.yearTo, bound)]
  | "language" => .ok [(.language, .string token.value)]
  | "format" => .ok [(.fileType, .string token.value)]
  | "genre" | "category" => .ok [(.genre, .string token.value)]
  | "publisher" => .ok [(.publisher, .string token.value)]
  | _ => .ok []

/-- The changes that tokens make one after the other. -/
def allChanges (tokens : List Token) : Except Number.IntegerError (List (Filter × Value)) :=
  (tokens.mapM changes).map List.flatten

/-- Changes as a table of filter names, in which a later change of a filter replaces an earlier one. -/
def changeTable (changes : List (Filter × Value)) : Table :=
  .ofEntries (changes.map fun (filter, value) => (filter.name, value))

end Token

end CatalogSearch
