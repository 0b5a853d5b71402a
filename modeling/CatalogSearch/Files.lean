import CatalogSearch.Text.Substring
import CatalogSearch.Text.Utf8

/-! # Files

A snapshot of the files that the program can see: a working directory and a home directory with files,
directories and links below them. A path is followed part by part, as it stands, from the working directory
or, if it starts with a slash, from the root.
-/

namespace CatalogSearch

/-- The names that lead from the root to a file. -/
abbrev Location := List String

/-- What lies at a location. -/
inductive Node where
  | file (bytes : List UInt8)
  | directory
  | link (target : Location)
  deriving Repr

/-- All files that can be seen, and how the home directory is written. -/
structure Files where
  nodes : List (Location × Node) := []
  homeText : String := "home"
  deriving Repr

/-- A path as it is written, without empty parts and parts that stay in place. It starts at the root if it
starts with slashes. -/
structure PathName where
  root : String
  parts : List String
  deriving DecidableEq, Repr

namespace PathName

/-- The slashes at the start of a path. Two are kept apart from one, and further ones mean no more than one. -/
def rootOf : List Char → String
  | '/' :: '/' :: '/' :: _ => "/"
  | '/' :: '/' :: _ => "//"
  | '/' :: _ => "/"
  | _ => ""

def ofText (text : String) : PathName :=
  let chars := text.toList
  { root := rootOf chars
    parts := ((Text.splitAtChar '/' chars).map String.ofList).filter fun part => part != "" && part != "." }

def text (path : PathName) : String :=
  if path.root == "" && path.parts.isEmpty then "." else path.root ++ "/".intercalate path.parts

/-- The suffix of the last part: from its last point on, unless the name starts or ends there. -/
def suffix (path : PathName) : List Char :=
  let name := (path.parts.getLast?.getD "").toList
  let ending := (name.reverse.takeWhile (· != '.')).reverse
  if ending.isEmpty || name.length ≤ ending.length + 1 then [] else '.' :: ending

end PathName

namespace Location

def work : Location := ["work"]

def home : Location := ["home"]

end Location

namespace Files

/-- A location as it is shown: from the working directory, from the home directory, or from the root. -/
def shown (files : Files) : Location → String
  | "work" :: rest => PathName.text ⟨"", rest⟩
  | "home" :: rest => "/".intercalate (files.homeText :: rest)
  | parts => PathName.text ⟨"/", parts⟩

/-- What lies at a location; whatever has something below it is a directory. -/
def node? (files : Files) (location : Location) : Option Node :=
  match files.nodes.lookup location with
  | some node => some node
  | none =>
    if location.isEmpty || location == Location.work || location == Location.home ||
        files.nodes.any fun (other, _) => location.isPrefixOf other then some .directory
    else none

/-- Follow parts from a location, through links, whether or not something lies there. -/
def follow (files : Files) : Nat → Location → List String → Location
  | 0, location, _ => location
  | _ + 1, location, [] => location
  | fuel + 1, location, part :: rest =>
    if part == ".." then follow files fuel location.dropLast rest
    else match files.node? (location ++ [part]) with
      | some (.link target) => follow files fuel [] (target ++ rest)
      | _ => follow files fuel (location ++ [part]) rest

/-- Follow parts from a location, through links, as long as something lies there. -/
def follow? (files : Files) : Nat → Location → List String → Option Location
  | 0, _, _ => none
  | _ + 1, location, [] => some location
  | fuel + 1, location, part :: rest =>
    if part == ".." then follow? files fuel location.dropLast rest
    else match files.node? (location ++ [part]) with
      | some (.link target) => follow? files fuel [] (target ++ rest)
      | some .directory => follow? files fuel (location ++ [part]) rest
      | some (.file _) => if rest.isEmpty then some (location ++ [part]) else none
      | none => none

/-- The most parts and links that are followed for one path. -/
def reach : Nat := 4096

def origin (path : PathName) : Location :=
  if path.root == "" then Location.work else []

def resolve (files : Files) (path : PathName) : Location :=
  files.follow reach (origin path) path.parts

def at? (files : Files) (path : PathName) : Option Node :=
  (files.follow? reach (origin path) path.parts).bind files.node?

/-- Whether something lies where a text leads; a text that ends in a slash has to lead to a directory. -/
def leadsSomewhere (files : Files) (text : String) : Bool :=
  match files.at? (.ofText text) with
  | none => false
  | some .directory => text != ""
  | some _ => !("/".toList.isSuffixOf text.toList || "/.".toList.isSuffixOf text.toList)

/-- The bytes of the file at a location, if one lies there. -/
def fileAt? (files : Files) (location : Location) : Option (List UInt8) :=
  match (files.follow? reach [] location).bind files.node? with
  | some (.file bytes) => some bytes
  | _ => none

end Files

end CatalogSearch
