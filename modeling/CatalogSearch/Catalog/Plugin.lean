import CatalogSearch.Catalog.Reader
import CatalogSearch.Number.Shortest
import CatalogSearch.Text.Quoted

/-! # Catalog plugins

A plugin says how sure it is that a file is a catalog of its kind, and loads the books of one. What it answers
is any value: null keeps it out of the choice, and everything else has to be a number or the text of one.
-/

namespace CatalogSearch

open Number (Double)

/-- A plugin that loads catalogs. -/
structure Plugin where
  name : String
  version : String := "0.0.0"
  description : String := ""
  confidence : Files → PathName → Value := fun _ _ => .float (.zero false)
  load : Files → PathName → Except CatalogError (List Book) := fun _ _ => .ok []

/-- Why the answer of a plugin is no score. -/
inductive ScoreError where
  | notANumber (text : String)
  | tooLarge
  | wrongType
  deriving DecidableEq, Repr

def ScoreError.message : ScoreError → String
  | .notANumber text => "could not convert string to float: " ++ Text.quoted text
  | .tooLarge | .wrongType => ""

namespace Plugin

def scoreOf : Value → Except ScoreError Double
  | .float x => .ok x
  | .bool b => .ok (if b then .ofDecimal false 1 0 else .zero false)
  | .int n => match Double.ofInt? n with
    | some x => .ok x
    | none => .error .tooLarge
  | .string s => match Number.readDouble? s.toList with
    | some x => .ok x
    | none => .error (.notANumber s)
  | .null | .list _ | .object _ => .error .wrongType

def json : Plugin where
  name := "json"
  version := "1.0.0"
  description := "Loader for JSON and JSON Lines catalog exports"
  confidence files path := .float (Catalog.confidence files path)
  load := Catalog.read

end Plugin

end CatalogSearch
