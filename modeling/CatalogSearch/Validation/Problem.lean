import CatalogSearch.Number.Integer

/-! # Problems of invalid data

What can be wrong with a value that is checked against a shape, and the place where it stands.
-/

namespace CatalogSearch

/-- A step on the way to a value inside another one. -/
inductive Step where
  | key (name : String)
  | index (position : Nat)
  deriving DecidableEq, Repr

/-- What is wrong with a value. -/
inductive Complaint where
  | missing
  | notText
  | notWhole
  | notWholeText
  | fractional
  | notFinite
  | tooLarge
  | below (least : Int)
  | notTruthValue
  | notTruthWord
  | notOneOf (choices : List String)
  | notList
  | notTuple
  | notTable (shape : String)
  | notTagged
  | noTag (key : String)
  | unknownTag (key tag : String) (known : List String)
  | badNumber (error : Number.IntegerError)
  deriving DecidableEq, Repr

/-- Something wrong at some place. -/
structure Problem where
  place : List Step
  complaint : Complaint
  deriving DecidableEq, Repr

def inQuotes (text : String) : String :=
  "'" ++ text ++ "'"

/-- Choices between quotes, the last one set apart by "or". -/
def listChoices : List String → String
  | [] => ""
  | [choice] => inQuotes choice
  | [first, last] => inQuotes first ++ " or " ++ inQuotes last
  | first :: rest => inQuotes first ++ ", " ++ listChoices rest

namespace Complaint

def kind : Complaint → String
  | missing => "missing"
  | notText => "string_type"
  | notWhole => "int_type"
  | notWholeText => "int_parsing"
  | fractional => "int_from_float"
  | notFinite => "finite_number"
  | tooLarge => "int_parsing_size"
  | below _ => "greater_than_equal"
  | notTruthValue => "bool_type"
  | notTruthWord => "bool_parsing"
  | notOneOf _ => "literal_error"
  | notList => "list_type"
  | notTuple => "tuple_type"
  | notTable _ => "model_type"
  | notTagged => "model_attributes_type"
  | noTag _ => "union_tag_not_found"
  | unknownTag .. => "union_tag_invalid"
  | badNumber _ => "value_error"

def message : Complaint → String
  | missing => "Field required"
  | notText => "Input should be a valid string"
  | notWhole => "Input should be a valid integer"
  | notWholeText => "Input should be a valid integer, unable to parse string as an integer"
  | fractional => "Input should be a valid integer, got a number with a fractional part"
  | notFinite => "Input should be a finite number"
  | tooLarge => "Unable to parse input string as an integer, exceeded maximum size"
  | below least => "Input should be greater than or equal to " ++ toString least
  | notTruthValue => "Input should be a valid boolean"
  | notTruthWord => "Input should be a valid boolean, unable to interpret input"
  | notOneOf choices => "Input should be " ++ listChoices choices
  | notList => "Input should be a valid list"
  | notTuple => "Input should be a valid tuple"
  | notTable shape => "Input should be a valid dictionary or instance of " ++ shape
  | notTagged => "Input should be a valid dictionary or object to extract fields from"
  | noTag key => "Unable to extract tag using discriminator " ++ inQuotes key
  | unknownTag key tag known =>
    "Input tag " ++ inQuotes tag ++ " found using " ++ inQuotes key ++
      " does not match any of the expected tags: " ++ ", ".intercalate (known.map inQuotes)
  | badNumber error => "Value error, " ++ error.message

end Complaint

end CatalogSearch
