import CatalogSearch.Book.Basic
import CatalogSearch.Files
import CatalogSearch.Json.Parser
import CatalogSearch.Text.Case

/-! # Reading catalogs

Catalogs are JSON documents with a list of books, or files with one book on each line. A file is taken for a
catalog by its suffix and its first character that is not blank.

Two things are taken for granted about catalogs. Their values nest no deeper than the recursion of a reader may go,
which is about a thousand levels: here values of any depth are read, and the limit is not modelled. And no escape
stands for half a surrogate pair: here such a half is read as the replacement character, so that an entry with one
in a column of its book is accepted, where it should be refused.
-/

namespace CatalogSearch

open Number (Double)

/-- Why a catalog cannot be read. A plugin may refuse it in words of its own. -/
inductive CatalogError where
  | missing
  | isDirectory
  | notText
  | malformed (line : Nat) (fault : Json.Fault)
  | number (error : Number.IntegerError)
  | notAList
  | invalidBook (entry : Nat) (problems : List Problem)
  | refused (reason : String)
  deriving DecidableEq, Repr

def CatalogError.message (path : String) : CatalogError → String
  | .missing => "Catalog file not found: " ++ path
  | .malformed line fault => "Invalid JSON in " ++ path ++ " at line " ++ toString line ++ ": " ++ fault.message
  | .notAList => "Expected a list of books in " ++ path
  | .invalidBook entry _ => "Invalid book at entry " ++ toString entry ++ " in " ++ path
  | .refused reason => reason
  | .number error => error.message
  | .isDirectory | .notText => ""

namespace Catalog

/-- The layouts of catalogs. -/
inductive Layout where
  | document
  | lines
  deriving DecidableEq, Repr

/-- The layout that a suffix announces, in any letter case. -/
def layout? (suffix : List Char) : Option Layout :=
  match String.ofList (Text.lowerChars suffix) with
  | ".json" => some .document
  | ".jsonl" | ".ndjson" => some .lines
  | _ => none

def unifyLineEnds : List Char → List Char
  | '\r' :: '\n' :: rest => '\n' :: unifyLineEnds rest
  | '\r' :: rest => '\n' :: unifyLineEnds rest
  | c :: rest => c :: unifyLineEnds rest
  | [] => []

def endsLine (c : Char) : Bool :=
  (0x0A ≤ c.toNat && c.toNat ≤ 0x0D) || (0x1C ≤ c.toNat && c.toNat ≤ 0x1E) || c.toNat == 0x85 ||
    c.toNat == 0x2028 || c.toNat == 0x2029

def splitLines : List Char → List (List Char)
  | [] => []
  | c :: rest =>
    if endsLine c then [] :: splitLines rest
    else match splitLines rest with
      | line :: others => (c :: line) :: others
      | [] => [[c]]

/-- The entries of a document: a list, or the one that a table has under "books". A blank document has none. -/
def documentEntries (text : List Char) : Except CatalogError (List Value) :=
  if text.all Text.isBlank then .ok []
  else match Json.parseChars text with
    | .error (.malformed fault left) => .error (.malformed (Json.lineAt text left) fault)
    | .error (.number error) => .error (.number error)
    | .ok (.list entries) => .ok entries
    | .ok (.object table) => match Table.get? table "books" with
      | none => .ok []
      | some (.list entries) => .ok entries
      | some _ => .error .notAList
    | .ok _ => .error .notAList

def lineEntry (line : List Char) (number : Nat) : Except CatalogError Value :=
  match Json.parseChars line with
  | .error (.malformed fault _) => .error (.malformed number fault)
  | .error (.number error) => .error (.number error)
  | .ok entry => .ok entry

/-- The entries of a text with one on each line. Blank lines have none. -/
def lineEntries (text : List Char) : Except CatalogError (List Value) :=
  (((splitLines text).zipIdx 1).filter fun (line, _) => !line.all Text.isBlank).mapM fun (line, number) =>
    lineEntry line number

def entries : Layout → List Char → Except CatalogError (List Value)
  | .document => documentEntries
  | .lines => lineEntries

def checkEntries (entries : List Value) : Except CatalogError (List Book) :=
  entries.zipIdx.mapM fun (entry, position) => match Book.check entry with
    | .valid book => .ok book
    | .invalid problems => .error (.invalidBook position problems)

def parseBytes (layout : Layout) (bytes : List UInt8) : Except CatalogError (List Book) :=
  match Text.decodeUtf8? bytes with
  | none => .error .notText
  | some text => do
    let found ← entries layout (unifyLineEnds text)
    checkEntries found

/-- The books in the file at a path. A file whose suffix announces no layout is read as a document. -/
def read (files : Files) (path : PathName) : Except CatalogError (List Book) :=
  match files.at? path with
  | some (.file bytes) => parseBytes ((layout? path.suffix).getD .document) bytes
  | some _ => .error .isDirectory
  | none => .error .missing

/-- How many characters of a file are looked at to recognise it. -/
def headLength : Nat := 256

/-- How sure the first characters of a file make that it is a catalog. -/
def headConfidence (bytes : List UInt8) : Double :=
  let head := (unifyLineEnds (Text.decodeLenient bytes)).take headLength
  match Text.stripStart head with
  | [] => .ofDecimal false 5 (-1)
  | c :: _ => if c = '[' || c = '\x7b' then .ofDecimal false 9 (-1) else .zero false

/-- How sure the path and the first characters of a file make that it is a catalog. -/
def confidence (files : Files) (path : PathName) : Double :=
  match files.at? path, layout? path.suffix with
  | some (.file bytes), some _ => headConfidence bytes
  | _, _ => .zero false

end Catalog

end CatalogSearch
