/-! # Arguments

The words of a command line: flags, options with a value, and positional arguments, in any order. A value
follows its option as the next word or after an equals sign. Flags of one letter may be written together, and
after two dashes that stand alone everything is positional.
-/

namespace CatalogSearch.CommandLine

/-- An option without a value. -/
inductive Flag where
  | help
  | version
  | listPlugins
  | exact
  | verbose
  deriving DecidableEq, Repr

/-- An option with a value. -/
inductive Key where
  | plugin
  | link
  | field
  | value
  | yearFrom
  | yearTo
  | language
  | fileType
  | bookType
  | fictionType
  | genre
  | category
  | sortBy
  | pages
  | output
  | config
  deriving DecidableEq, Repr

/-- A word of a command line, or an option with the word that follows it. -/
inductive Argument where
  | flag (flag : Flag)
  | option (key : Key) (value : String)
  | positional (text : String)
  deriving DecidableEq, Repr

/-- Why a command line cannot be used. -/
inductive UsageError where
  | unknownOption (name : String)
  | missingValue (key : Key)
  | unexpectedValue (flag : Flag)
  | badValue (key : Key) (value : String)
  | missingFile (path : String)
  | extraArgument (text : String)
  deriving DecidableEq, Repr

def flags : List (String × Flag) :=
  [("help", .help), ("version", .version), ("list-plugins", .listPlugins), ("exact", .exact),
    ("verbose", .verbose)]

def letters : List (Char × Flag) :=
  [('h', .help), ('v', .verbose)]

def keys : List (String × Key) :=
  [("plugin", .plugin), ("url", .link), ("field", .field), ("value", .value), ("year-from", .yearFrom),
    ("year-to", .yearTo), ("language", .language), ("format", .fileType), ("type", .bookType),
    ("fiction", .fictionType), ("genre", .genre), ("category", .category), ("sort", .sortBy),
    ("pages", .pages), ("output", .output), ("config", .config)]

def Key.name (key : Key) : String :=
  ((keys.find? fun (_, other) => other == key).map Prod.fst).getD ""

def UsageError.message : UsageError → String
  | .unknownOption name => "No such option: " ++ name
  | .missingValue key => "Option '--" ++ key.name ++ "' requires an argument."
  | .unexpectedValue flag =>
    "Option '--" ++ ((flags.find? fun (_, other) => other == flag).map Prod.fst).getD "" ++
      "' does not take a value."
  | .badValue key value => "Invalid value for '--" ++ key.name ++ "': " ++ value
  | .missingFile path => "Path '" ++ path ++ "' does not exist."
  | .extraArgument text => "Got unexpected extra argument (" ++ text ++ ")"

namespace Argument

/-- The flags that letters stand for. -/
def ofLetters (text : List Char) : Except UsageError (List Argument) :=
  text.mapM fun c => match letters.lookup c with
    | some found => .ok (.flag found)
    | none => .error (.unknownOption (String.ofList [c]))

def ofWords : List String → Except UsageError (List Argument)
  | [] => .ok []
  | word :: rest => match word.toList with
    | ['-', '-'] => .ok (rest.map .positional)
    | '-' :: '-' :: long =>
      let name := long.takeWhile (· != '=')
      let attached := long.drop name.length
      match flags.lookup (String.ofList name), keys.lookup (String.ofList name) with
      | some found, _ =>
        if attached.isEmpty then (ofWords rest).map (.flag found :: ·) else .error (.unexpectedValue found)
      | none, some key => match attached with
        | _ :: value => (ofWords rest).map (.option key (String.ofList value) :: ·)
        | [] => match rest with
          | value :: others => (ofWords others).map (.option key value :: ·)
          | [] => .error (.missingValue key)
      | none, none => .error (.unknownOption (String.ofList name))
    | '-' :: c :: more => do
      let found ← ofLetters (c :: more)
      let others ← ofWords rest
      return found ++ others
    | _ => (ofWords rest).map (.positional word :: ·)

end Argument

end CatalogSearch.CommandLine
