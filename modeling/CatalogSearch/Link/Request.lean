import CatalogSearch.Link.Host
import CatalogSearch.Link.Value
import CatalogSearch.Text.Case

/-! # Requests

What a link or a command line asks for: a lookup of one field, a search text, or neither. A link names the
field and the value in the path segments after "search", and the search text in its query.
-/

namespace CatalogSearch

/-- What is asked for. The value is still encoded as in a link. -/
structure Request where
  field : Option String := none
  value : Option String := none
  query : Option String := none
  deriving DecidableEq, Repr

namespace Link

open Text

/-- The parts of a link that matter for a search. -/
structure Parts where
  path : List Char
  query : List Char
  deriving DecidableEq, Repr

def isSchemeChar (c : Char) : Bool :=
  c.isAlphanum || c == '+' || c == '-' || c == '.'

def dropScheme (text : List Char) : List Char :=
  let scheme := text.takeWhile (· != ':')
  match text.drop scheme.length with
  | ':' :: rest => if scheme.head?.any Char.isAlpha && scheme.all isSchemeChar then rest else text
  | _ => text

/-- The host after two slashes, if there is one, and what follows it. -/
def splitHost (text : List Char) : Option (List Char) × List Char :=
  match text with
  | '/' :: '/' :: rest =>
    let ends (c : Char) : Bool := c == '/' || c == '?' || c == '#'
    (some (rest.takeWhile (!ends ·)), rest.dropWhile (!ends ·))
  | _ => (none, text)

/-- A link without controls and blanks at its start, and without tabs and line ends anywhere. -/
def clean (text : List Char) : List Char :=
  (text.dropWhile (·.toNat ≤ 0x20)).filter fun c => c != '\t' && c != '\r' && c != '\n'

/-- Split the text after the host into path and query, without the fragment. -/
def splitQuery (text : List Char) : Parts :=
  let whole := text.takeWhile (· != '#')
  let path := whole.takeWhile (· != '?')
  ⟨path, (whole.drop path.length).drop 1⟩

def split (text : List Char) : Except LinkError Parts := do
  let (host, rest) := splitHost (dropScheme (clean text))
  match host with
  | some host =>
    checkBrackets host
    checkDisguises host
  | none => pure ()
  return splitQuery rest

/-- The name or the value of a query parameter: a plus sign is a blank. -/
def decodeParameter (text : List Char) : List Char :=
  unescape (text.map fun c => if c = '+' then ' ' else c)

def parameters (query : List Char) : List (List Char × List Char) :=
  (splitAtChar '&' query).filterMap fun pair =>
    let name := pair.takeWhile (· != '=')
    match pair.drop name.length with
    | '=' :: c :: value => some (decodeParameter name, decodeParameter (c :: value))
    | _ => none

def segments (path : List Char) : List (List Char) :=
  (splitAtChar '/' path).filter (!·.isEmpty)

/-- The segments after the first one that reads "search". -/
def searchSegments (path : List Char) : List (List Char) :=
  ((segments path).dropWhile (· != "search".toList)).drop 1

def requestOf (parts : Parts) : Request :=
  let found := searchSegments parts.path
  let named := parameters parts.query
  { field := found[0]?.map String.ofList
    value := found[1]?.map String.ofList
    query := ((named.lookup "query".toList).or (named.lookup "q".toList)).map String.ofList }

def fieldLabel (field : String) : String :=
  match Text.lower field with
  | "publisher" => "Publisher"
  | "narrator" => "Narrator"
  | "year" => "Year"
  | "format" => "Format"
  | "genre" => "Genre"
  | "language" => "Language"
  | _ => match field.toList with
    | [] => ""
    | first :: rest => String.ofList (Text.upperChar first ++ rest)

def capitalizeWords (text : List Char) : List Char :=
  [' '].intercalate ((splitAtChar ' ' text).map fun word => match word with
    | [] => []
    | first :: rest => Text.upperChar first ++ rest)

def displayValue (field value : String) : String :=
  match Text.lower field with
  | "format" => Text.upper value
  | "year" | "language" => value
  | _ => String.ofList (capitalizeWords value.toList)

end Link

namespace Request

open Link

def hasLookup (request : Request) : Bool :=
  request.field.isSome || request.value.isSome

def ofLink (link : String) : Except LinkError Request :=
  (split link.toList).map requestOf

def nonempty (text : Option String) : Option String :=
  text.filter (· != "")

/-- The request of a command line: a link, if given, with a search text that replaces the link's own; else a
field, a value and a search text. -/
def ofOptions (query link field value : Option String) : Except LinkError Request :=
  match nonempty link with
  | some link => do
    let request ← ofLink link
    return { request with query := (nonempty query).or request.query }
  | none => .ok { field, value, query }

def title (request : Request) : String :=
  match nonempty request.field, nonempty request.value with
  | some field, some value => fieldLabel field ++ ": " ++ displayValue field (decode value)
  | _, _ => match nonempty request.query with
    | some query => "Search: " ++ query
    | none => "All books"

end Request

end CatalogSearch
