import CatalogSearch.CommandLine.Argument
import CatalogSearch.Config.Basic
import CatalogSearch.Files
import CatalogSearch.Number.Decimal
import CatalogSearch.Session.Search
import CatalogSearch.Text.Case

/-! # Options

What a command line asks for. Of an option that is given several times the last value counts, except that
categories add up. Choices may be written in any letter case.
-/

namespace CatalogSearch.CommandLine

/-- What a command line asks for. -/
structure Options where
  catalog : Option String := none
  query : Option String := none
  flags : List Flag := []
  plugin : Option String := none
  link : Option String := none
  field : Option String := none
  value : Option String := none
  yearFrom : Option String := none
  yearTo : Option String := none
  language : Option String := none
  fileType : Option String := none
  bookType : Option String := none
  fictionType : Option String := none
  genre : Option String := none
  categories : List String := []
  sortBy : Option String := none
  pages : Nat := 1
  output : Option String := none
  config : Option String := none
  deriving DecidableEq, Repr

namespace Options

def valuesOf (arguments : List Argument) (key : Key) : List String :=
  arguments.filterMap fun
    | .option other value => if other = key then some value else none
    | _ => none

def flagsOf (arguments : List Argument) : List Flag :=
  arguments.filterMap fun
    | .flag flag => some flag
    | _ => none

def positionalsOf (arguments : List Argument) : List String :=
  arguments.filterMap fun
    | .positional text => some text
    | _ => none

/-- The value that counts. -/
def textOf (arguments : List Argument) (key : Key) : Option String :=
  (valuesOf arguments key).getLast?

/-- The choice that the value of an option stands for. -/
def choiceOf (choices : List String) (arguments : List Argument) (key : Key) :
    Except UsageError (Option String) :=
  match textOf arguments key with
  | none => .ok none
  | some value => match choices.find? fun choice => Text.fold choice == Text.fold value with
    | some choice => .ok (some choice)
    | none => .error (.badValue key value)

/-- The number of pages, which is at least one. -/
def pagesOf (arguments : List Argument) : Except UsageError Nat :=
  match textOf arguments .pages with
  | none => .ok 1
  | some value => match Number.readWhole? value.toList with
    | some pages => if 1 ≤ pages then .ok pages.toNat else .error (.badValue .pages value)
    | none => .error (.badValue .pages value)

/-- The catalog, whose path has to lead somewhere, and the search text. -/
def placesOf (files : Files) (arguments : List Argument) :
    Except UsageError (Option String × Option String) :=
  match positionalsOf arguments with
  | [] => .ok (none, none)
  | catalog :: rest =>
    if !files.leadsSomewhere catalog then .error (.missingFile catalog)
    else match rest with
      | [] => .ok (some catalog, none)
      | [query] => .ok (some catalog, some query)
      | _ :: extra :: _ => .error (.extraArgument extra)

def ofArguments (files : Files) (arguments : List Argument) : Except UsageError Options := do
  let text := textOf arguments
  let (catalog, query) ← placesOf files arguments
  let bookType ← choiceOf Criteria.bookTypes arguments .bookType
  let sortBy ← choiceOf Criteria.sortKeys arguments .sortBy
  let output ← choiceOf Config.formats arguments .output
  let pages ← pagesOf arguments
  return {
    catalog, query, bookType, sortBy, output, pages
    flags := flagsOf arguments
    categories := valuesOf arguments .category
    plugin := text .plugin
    link := text .link
    field := text .field
    value := text .value
    yearFrom := text .yearFrom
    yearTo := text .yearTo
    language := text .language
    fileType := text .fileType
    fictionType := text .fictionType
    genre := text .genre
    config := text .config }

def updates (options : Options) : Table :=
  let given := [("year_from", options.yearFrom), ("year_to", options.yearTo), ("language", options.language),
    ("file_type", options.fileType), ("book_type", options.bookType), ("fiction_type", options.fictionType),
    ("genre", options.genre), ("sort_by", options.sortBy)].filterMap fun (key, value) =>
      value.map fun text => (key, Value.string text)
  given ++ if options.flags.contains .exact then [("exact_match", .bool true)] else []

def request (options : Options) : Except Link.LinkError Request :=
  Request.ofOptions options.query options.link options.field options.value

end Options

end CatalogSearch.CommandLine
