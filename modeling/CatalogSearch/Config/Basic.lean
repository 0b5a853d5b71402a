import CatalogSearch.Filter.Check

/-! # Settings

The settings of the program: how catalogs are read, how a search starts, and how results are written. Keys
and tables that are none of these are ignored.
-/

namespace CatalogSearch

/-- How catalogs are read. -/
structure CatalogSettings where
  defaultPlugin : Option String := none
  collection : String := "books"
  deriving DecidableEq, Repr

/-- How a search starts. -/
structure SearchSettings where
  pageSize : Int := 20
  sortBy : String := "popularity"
  exactMatch : Bool := false
  deriving DecidableEq, Repr

/-- How results are written. -/
structure OutputSettings where
  color : Bool := true
  format : String := "table"
  deriving DecidableEq, Repr

/-- All settings. -/
structure Config where
  catalog : CatalogSettings := {}
  search : SearchSettings := {}
  output : OutputSettings := {}
  deriving DecidableEq, Repr

namespace Config

def formats : List String := ["table", "json", "count"]

def checkCatalog : Value → Checked CatalogSettings :=
  Value.checkTable "CatalogSettings" fun table =>
    CatalogSettings.mk <$> table.optional "default_plugin" none (Value.checkOptional Value.checkText)
      <*> table.optional "collection" "books" Value.checkText

def checkSearch : Value → Checked SearchSettings :=
  Value.checkTable "SearchSettings" fun table =>
    SearchSettings.mk <$> table.optional "page_size" 20 (Value.checkIntFrom 1)
      <*> table.optional "sort_by" "popularity" (Value.checkChoice Criteria.sortKeys)
      <*> table.optional "exact_match" false Value.checkBool

def checkOutput : Value → Checked OutputSettings :=
  Value.checkTable "OutputSettings" fun table =>
    OutputSettings.mk <$> table.optional "color" true Value.checkBool
      <*> table.optional "format" "table" (Value.checkChoice formats)

def check (table : Table) : Checked Config :=
  Config.mk <$> table.optional "catalog" {} checkCatalog <*> table.optional "search" {} checkSearch
    <*> table.optional "output" {} checkOutput

/-- The criteria that a search starts from and goes back to. -/
def defaultCriteria (config : Config) : Criteria where
  sortBy := .string config.search.sortBy
  exactMatch := .bool config.search.exactMatch

end Config

end CatalogSearch
