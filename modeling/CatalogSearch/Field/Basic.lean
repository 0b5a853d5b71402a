import CatalogSearch.Query.Basic
import CatalogSearch.Value.Year

/-! # Metadata fields

The fields that a link or a token may name, and the condition that each makes of a value. Field names are
compared in small letters.
-/

namespace CatalogSearch

/-- How a field turns a value into a condition. -/
inductive FieldRule where
  | substring (column : String)
  | exact (column : String)
  | year (column : String)
  | format
  | genre
  deriving DecidableEq, Repr

/-- A field that can be looked up. -/
structure Field where
  name : String
  rule : FieldRule
  deriving DecidableEq, Repr

namespace FieldRule

def kind : FieldRule → String
  | .substring _ => "substring"
  | .exact _ => "exact"
  | .year _ => "year"
  | .format => "format"
  | .genre => "genre"

/-- The column of a rule that looks at one column. -/
def column? : FieldRule → Option String
  | .substring column | .exact column | .year column => some column
  | .format | .genre => none

end FieldRule

namespace Field

def all : List Field := [
  ⟨"publisher", .substring "publisher"⟩, ⟨"narrator", .substring "narrator"⟩,
  ⟨"author", .substring "author"⟩, ⟨"year", .year "published_date"⟩,
  ⟨"language", .exact "language"⟩, ⟨"format", .format⟩, ⟨"genre", .genre⟩, ⟨"category", .genre⟩,
  ⟨"categories", .genre⟩, ⟨"fictiontype", .exact "fiction_type"⟩, ⟨"isbn", .exact "isbn"⟩,
  ⟨"external_id", .exact "external_id"⟩]

def find? (name : String) : Option Field :=
  all.find? fun field => field.name == Text.lower name

def isKnown (name : String) : Bool :=
  (find? name).isSome

/-- The fields whose tokens are picked out of a search text. -/
def inlineNames : List String :=
  ["publisher", "year", "language", "format", "genre", "category", "narrator"]

def searchColumns : List String :=
  ["title", "author", "publisher", "description", "isbn", "external_id", "narrator"]

def formatColumns : List String :=
  ["ebook_format", "audio_format"]

/-- Free text occurs in one of the search columns, or equals one of them. -/
def freeText (exact : Bool) (text : String) : Predicate :=
  .anyOf (searchColumns.map fun column =>
    if exact then .eq column (.string text) else .like column text)

/-- A file format occurs in one of the format columns. -/
def formatClause (text : String) : Predicate :=
  .anyOf (formatColumns.map fun column => .like column text)

/-- A genre occurs in the genre column or is one of the categories. -/
def genreClause (text : String) : Predicate :=
  .anyOf [.like "genre" text, .contains "categories" text]

/-- The dates of a year, as texts from its first to its last day. -/
def yearClause (column : String) (year : Int) : Predicate :=
  .range column (.string (Number.padded 4 year ++ "-01-01")) (.string (Number.padded 4 year ++ "-12-31"))

/-- The condition that a rule makes of a value; none for a year that is not a number. -/
def ruleClause (rule : FieldRule) (value : String) : Except Number.IntegerError (Option Predicate) :=
  match rule with
  | .substring column => .ok (some (.like column value))
  | .exact column => .ok (some (.eq column (.string value)))
  | .year column => (Value.yearOfText? value).map fun year => year.map (yearClause column)
  | .format => .ok (some (formatClause value))
  | .genre => .ok (some (genreClause value))

/-- The condition of a field and a value. The value of an unknown field is searched as free text. -/
def clause (name value : String) : Except Number.IntegerError (Option Predicate) :=
  match find? name with
  | some field => ruleClause field.rule value
  | none => .ok (some (freeText false value))

end Field

end CatalogSearch
