/-! # Accumulated results

The rows of a search so far. A first page replaces what was there, later pages are appended, and a page that
is not full ends the results.
-/

namespace CatalogSearch

/-- Rows gathered page by page; the page index is zero before the first page. -/
structure Results (α : Type) where
  items : List α := []
  pageIndex : Int := 0
  hasMore : Bool := true
  deriving Repr, DecidableEq

namespace Results

variable {α : Type}

def isLoaded (results : Results α) : Bool :=
  0 < results.pageIndex

/-- The results after a page of rows, where a full page has `pageSize` rows. -/
def addPage (results : Results α) (pageSize index : Int) (rows : List α) : Results α where
  items := if index ≤ 1 then rows else results.items ++ rows
  pageIndex := index
  hasMore := (rows.length : Int) == pageSize

/-- The page index that is shown, which is never less than one. -/
def shownIndex (results : Results α) : Int :=
  max results.pageIndex 1

end Results

end CatalogSearch
