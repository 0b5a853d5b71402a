import CatalogSearch.Json.Printer
import CatalogSearch.Text.Case
import CatalogSearch.Value.Shown

/-! # Reports

Search results as they are written: each item as a line of JSON, their number, or a table for the console. A
table is handed over as its cells, before it is drawn.
-/

namespace CatalogSearch

/-- A table for the console, before it is drawn. -/
structure Sheet where
  title : String
  caption : Option String := none
  columns : List String
  rows : List (List String)
  deriving DecidableEq, Repr

/-- What is handed to the console: the message of an error, a line, or a table. -/
inductive Display where
  | error (message : String)
  | line (text : String)
  | table (sheet : Sheet)
  deriving DecidableEq, Repr

/-- What is written: plain text, and what is handed to the console. -/
structure Written where
  text : String := ""
  displays : List Display := []
  deriving DecidableEq, Repr

/-- What is handed to the console as text, with its markup; tables have none. -/
def Display.markup? : Display → Option String
  | .error message => some ("[red]Error:[/red] " ++ message)
  | .line text => some text
  | .table _ => none

/-- A line of a table, its cells filled up to the widths of the columns. -/
def Sheet.drawRow (widths : List Nat) (cells : List String) : String :=
  "  ".intercalate <| (cells.zip widths).map fun (cell, width) =>
    cell ++ String.ofList (List.replicate (width - cell.length) ' ')

/-- The lines of a table without colours and frames. -/
def Sheet.draw (sheet : Sheet) : List String :=
  let all := sheet.columns :: sheet.rows
  let width (column : Nat) : Nat :=
    ((all.filterMap fun cells => cells[column]?.map String.length).max?).getD 0
  let widths := (List.range sheet.columns.length).map width
  sheet.title :: all.map (drawRow widths) ++ sheet.caption.toList

def Display.draw : Display → List String
  | .error message => ["Error: " ++ message]
  | .line text => [text]
  | .table sheet => sheet.draw

/-- Why items have no table: one of them has no columns, or a cell is no text or a year without a text. -/
inductive ReportError where
  | noColumns
  | notText
  | number (error : Number.IntegerError)
  deriving DecidableEq, Repr

/-- The ways to write results. -/
inductive Format where
  | table
  | json
  | count
  deriving DecidableEq, Repr

/-- The way that a name asks for, in any letter case; an unknown name asks for a table. -/
def Format.ofName (name : String) : Format :=
  match Text.lower name with
  | "json" => .json
  | "count" => .count
  | _ => .table

namespace Report

def jsonLines (items : List Value) : String :=
  String.join (items.map fun item => Json.print item ++ "\n")

def countLine (items : List Value) (hasMore : Bool) : String :=
  "total=" ++ toString items.length ++ " has_more=" ++ (if hasMore then "true" else "false") ++ "\n"

/-- The cell of a column; what counts as nothing leaves it empty. -/
def cell (row : Table) (column : String) : Except ReportError String :=
  match row.column column with
  | .string text => .ok text
  | value => if value.truthy then .error .notText else .ok ""

def yearCell (row : Table) : Except ReportError String :=
  let year := row.column "published_year"
  if year.isNull then .ok "" else year.text.mapError .number

/-- The cells of an item. The year is made a text before any cell is looked at. -/
def cells : Value → Except ReportError (List String)
  | .object row => do
    let year ← yearCell row
    let title ← cell row "title"
    let author ← cell row "author"
    let type ← cell row "type"
    let language ← cell row "language"
    let publisher ← cell row "publisher"
    return [title, author, year, type, language, publisher]
  | _ => .error .noColumns

/-- How many books are shown, and whether there are more. -/
def caption (items : List Value) (hasMore : Bool) : String :=
  toString items.length ++ (if items.length = 1 then " book" else " books") ++
    (if hasMore then " (more available)" else "")

def sheet (title : String) (items : List Value) (hasMore : Bool) : Except ReportError Sheet := do
  let rows ← items.mapM cells
  return {
    title
    caption := some (caption items hasMore)
    columns := ["Title", "Author", "Year", "Type", "Language", "Publisher"]
    rows }

def write (format : Format) (title : String) (items : List Value) (hasMore : Bool) :
    Except ReportError Written :=
  match format with
  | .json => .ok { text := jsonLines items }
  | .count => .ok { text := countLine items hasMore }
  | .table => (sheet title items hasMore).map fun sheet => { displays := [.table sheet] }

end Report

end CatalogSearch
