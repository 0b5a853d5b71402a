import CatalogSearch.Catalog.Registry
import CatalogSearch.CommandLine.Options
import CatalogSearch.Config.Load
import CatalogSearch.Report

/-! # Running a command line

From the words of a command line and the files that can be seen to what is written. Errors of settings,
catalogs and searches are reported on the console; any other failure is left to the caller.
-/

namespace CatalogSearch.CommandLine

/-- A failure that is not reported on the console. -/
inductive Failure where
  | usage (error : UsageError)
  | config (error : ConfigError)
  | load (error : LoadError)
  | call (error : CallError)
  | report (error : ReportError)
  deriving DecidableEq, Repr

def Failure.message (path : String) : Failure → String
  | .usage error => error.message
  | .config .isDirectory | .load (.catalog .isDirectory) => "Is a directory"
  | .config .notText | .load (.catalog .notText) => "Not a text in UTF-8"
  | .config error => error.message
  | .load error => error.message path
  | .call (.unknownFilter error) => error.message
  | .call (.number error) => error.message
  | .call (.link error) => error.message
  | .report (.number error) => error.message
  | .report _ => "Results that fit no table"

/-- What a command line leads to: the exit code, what is written, and for each console whether it goes without
colour, where that was decided. -/
structure Run where
  exitCode : Nat := 0
  written : Written := {}
  colorless : List (Option Bool) := []
  failure : Option Failure := none
  deriving DecidableEq, Repr

def version : String := "0.1.0"

def versionLine : String := "bookworm " ++ version ++ "\n"

def pluginSheet (registry : Registry) : Sheet where
  title := "Available Plugins"
  columns := ["Name", "Version", "Description"]
  rows := (registry.names.mergeSort (· ≤ ·)).filterMap fun name =>
    (registry.find? name).map fun plugin => [plugin.name, plugin.version, plugin.description]

/-- The settings: those of the file that is named, or of the files that are found. -/
def settings (files : Files) (path : Option String) : Except ConfigError Config :=
  match path.filter (· != "") with
  | some path => Config.load files (.ofText path)
  | none => Config.loadMerged files Location.work

def stop (colorless : Option Bool) (message : String) (further : List Display) : Run where
  exitCode := 1
  written := { displays := .error message :: further }
  colorless := [colorless]

/-- Stop with a failure that is left to the caller. -/
def fail (colorless : List (Option Bool)) (failure : Failure) : Run where
  exitCode := 1
  colorless
  failure := some failure

/-- What is shown after a catalog could not be loaded. -/
def pluginHints (registry : Registry) : List Display :=
  .line "\nInstalled plugins:" :: registry.names.map fun name => .line ("  - " ++ name)

/-- Search the books of a catalog. -/
def searchBooks (config : Config) (options : Options) (books : List Book) :
    Except Failure (Request × Session Table) := do
  let request ← options.request.mapError fun error => .call (.link error)
  let start : Session Table := .start {
    collection := config.catalog.collection
    pageSize := config.search.pageSize
    defaults := config.defaultCriteria }
  let collections := [(config.catalog.collection, books.map Book.toTable)]
  let search : Search := {
    request, updates := options.updates, categories := options.categories, pages := options.pages }
  let session ← (start.search collections search).mapError .call
  return (request, session)

/-- Search the books of a catalog and write what is found. -/
def report (config : Config) (options : Options) (books : List Book) : Run :=
  let colorless := some !config.output.color
  match searchBooks config options books with
  | .error failure => fail [colorless] failure
  | .ok (request, session) => match session.view.error with
    | some message => stop colorless message []
    | none =>
      let format := Format.ofName (options.output.getD config.output.format)
      let items := session.view.items.map Value.object
      match Report.write format request.title items session.view.hasMore with
      | .ok written => { written, colorless := [colorless] }
      | .error error => fail [colorless] (.report error)

def searchCatalog (files : Files) (config : Config) (options : Options) (catalog : String) : Run :=
  let colorless := some !config.output.color
  let plugin := (Request.nonempty options.plugin).or config.catalog.defaultPlugin
  let path := PathName.ofText catalog
  match Registry.standard.load files path plugin with
  | .ok books => report config options books
  | .error error => match error with
    | .catalog .isDirectory | .catalog .notText | .catalog (.number _) | .detection (.badScore _) =>
      fail [colorless] (.load error)
    | _ => stop colorless (error.message path.text) (pluginHints Registry.standard)

def help : String :=
  "Usage: bookworm [OPTIONS] [CATALOG] [QUERY]\n\nSearch a book catalog from the terminal.\n\nOptions:\n" ++
    String.join (flags.map fun (name, _) => "  --" ++ name ++ "\n") ++
    String.join (keys.map fun (name, _) => "  --" ++ name ++ " VALUE\n")

def carryOut (files : Files) (options : Options) : Run :=
  if options.flags.contains .version then { written := { text := versionLine } }
  else match settings files options.config with
    | .error error => match error with
      | .isDirectory | .notText | .number _ => fail [] (.config error)
      | _ => stop none error.message []
    | .ok config =>
      let colorless := some !config.output.color
      if options.flags.contains .listPlugins then
        { written := { displays := [.table (pluginSheet Registry.standard)] }, colorless := [colorless] }
      else match options.catalog with
        | none => stop colorless "Missing CATALOG argument." []
        | some catalog => searchCatalog files config options catalog

def run (files : Files) (words : List String) : Run :=
  let misuse (error : UsageError) : Run := { exitCode := 2, failure := some (.usage error) }
  match Argument.ofWords words with
  | .error error => misuse error
  | .ok arguments =>
    if arguments.contains (.flag .help) then { written := { text := help } }
    else match Options.ofArguments files arguments with
      | .error error => misuse error
      | .ok options => carryOut files options

end CatalogSearch.CommandLine
