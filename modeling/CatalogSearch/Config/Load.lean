import CatalogSearch.Config.Basic
import CatalogSearch.Config.Merge
import CatalogSearch.Files
import CatalogSearch.Toml.Parser

/-! # Loading settings

Settings come from one file, or from the user's file and the one of the working directory, laid over each
other. The check of the merged settings names the file that was read last. The tables of a file are assumed to
nest no deeper than reading and merging them by recursion may go.
-/

namespace CatalogSearch

/-- Why settings cannot be loaded. -/
inductive ConfigError where
  | missing (path : String)
  | isDirectory
  | notText
  | number (error : Number.IntegerError)
  | malformed (path : String) (line : Option Nat) (message : String)
  | invalid (path : Option String) (problems : List Problem)
  deriving DecidableEq, Repr

namespace ConfigError

/-- The line that the message of a malformed document names. -/
def line? : ConfigError → Option Nat
  | .malformed _ line _ => line
  | _ => none

/-- The file that is at fault. -/
def path? : ConfigError → Option String
  | .malformed path _ _ => some path
  | .invalid path _ => path
  | _ => none

/-- The file and, where it is known, the line of the error. -/
def headline (error : ConfigError) : String :=
  let file := match error.path? with
    | some path => "Error in " ++ path
    | none => ""
  match error.line? with
  | some line => (if file == "" then "" else file ++ " ") ++ "at line " ++ toString line
  | none => file

def dotted (place : List Step) : String :=
  ".".intercalate (place.map fun
    | .key name => name
    | .index position => toString position)

def listProblems (problems : List Problem) : String :=
  "; ".intercalate (problems.map fun problem => dotted problem.place ++ ": " ++ problem.complaint.message)

def detail : ConfigError → String
  | .missing path => "Config file not found: " ++ path
  | .malformed _ _ message => message
  | .invalid _ problems => listProblems problems
  | .number error => error.message
  | .isDirectory | .notText => ""

def message (error : ConfigError) : String :=
  if error.headline == "" then error.detail else error.headline ++ ": " ++ error.detail

end ConfigError

namespace Config

def parseBytes (path : String) (bytes : List UInt8) : Except ConfigError Table :=
  match Text.decodeUtf8? bytes with
  | none => .error .notText
  | some text => match Toml.parse text with
    | .ok table => .ok table
    | .error (.malformed message) => match Toml.namedLine? message with
      | .ok line => .error (.malformed path line message)
      | .error error => .error (.number error)
    | .error (.number error) => .error (.number error)

def validate (path : Option String) (table : Table) : Except ConfigError Config :=
  match check table with
  | .valid config => .ok config
  | .invalid problems => .error (.invalid path problems)

def load (files : Files) (path : PathName) : Except ConfigError Config :=
  match files.at? path with
  | some (.file bytes) => do
    let table ← parseBytes path.text bytes
    validate (some path.text) table
  | some _ => .error .isDirectory
  | none => .error (.missing path.text)

def userFile : Location :=
  Location.home ++ [".config", "bookworm", "config.toml"]

/-- The settings files that exist, the user's first; a file that both names lead to is read once. -/
def discover (files : Files) (start : Location) : List Location :=
  let candidates := [userFile, start ++ ["bookworm.toml"]].filter fun location =>
    (files.fileAt? location).isSome
  match candidates with
  | [user, near] =>
    if files.follow Files.reach [] user == files.follow Files.reach [] near then [user] else [user, near]
  | found => found

/-- The tables of several files, each laid over those before. -/
def mergeFiles (files : Files) (locations : List Location) : Except ConfigError Table :=
  locations.foldlM (fun merged location => do
    let table ← parseBytes (files.shown location) ((files.fileAt? location).getD [])
    return merged.merge table) []

def loadMerged (files : Files) (start : Location) : Except ConfigError Config := do
  let found := discover files start
  let table ← mergeFiles files found
  validate (found.getLast?.map files.shown) table

end Config

end CatalogSearch
