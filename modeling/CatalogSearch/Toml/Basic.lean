import CatalogSearch.Text.Quoted
import CatalogSearch.Text.Word
import CatalogSearch.Text.Digit
import CatalogSearch.Number.Integer

/-! # Faults in settings documents

What can be wrong with a TOML document. A fault stands at some place, which is given by the text that is left
from there on, and its message ends with line and column, or says that the document is at its end.
-/

namespace CatalogSearch.Toml

abbrev Path := List String

/-- What is wrong with a document. -/
inductive Fault where
  | invalidStatement
  | trailingText
  | declaredTwice (key : Path)
  | overwrites
  | frozen (key : Path)
  | redefines (key : Path)
  | duplicateInline (key : String)
  | openTableHeader
  | openArrayHeader
  | missingEquals
  | badKeyStart
  | openArray
  | openInlineTable
  | badEscape
  | badHex
  | notAScalar
  | expectedEnd (mark : String)
  | invalidCharacter (c : Char)
  | illegalCharacter (c : Char)
  | unterminatedString
  | badDate
  | invalidValue
  deriving DecidableEq, Repr

def Path.shown (path : Path) : String :=
  match path with
  | [key] => "(" ++ Text.quoted key ++ ",)"
  | keys => "(" ++ ", ".intercalate (keys.map Text.quoted) ++ ")"

def Fault.description : Fault → String
  | .invalidStatement => "Invalid statement"
  | .trailingText => "Expected newline or end of document after a statement"
  | .declaredTwice key => "Cannot declare " ++ Path.shown key ++ " twice"
  | .overwrites => "Cannot overwrite a value"
  | .frozen key => "Cannot mutate immutable namespace " ++ Path.shown key
  | .redefines key => "Cannot redefine namespace " ++ Path.shown key
  | .duplicateInline key => "Duplicate inline table key " ++ Text.quoted key
  | .openTableHeader => "Expected ']' at the end of a table declaration"
  | .openArrayHeader => "Expected ']]' at the end of an array declaration"
  | .missingEquals => "Expected '=' after a key in a key/value pair"
  | .badKeyStart => "Invalid initial character for a key part"
  | .openArray => "Unclosed array"
  | .openInlineTable => "Unclosed inline table"
  | .badEscape => "Unescaped '\\' in a string"
  | .badHex => "Invalid hex value"
  | .notAScalar => "Escaped character is not a Unicode scalar value"
  | .expectedEnd mark => "Expected " ++ Text.quoted mark
  | .invalidCharacter c => "Found invalid character " ++ Text.quoted (String.ofList [c])
  | .illegalCharacter c => "Illegal character " ++ Text.quoted (String.ofList [c])
  | .unterminatedString => "Unterminated string"
  | .badDate => "Invalid date or datetime"
  | .invalidValue => "Invalid value"

/-- Why a document cannot be read: a fault, with the text left at its place, or a number that is too long. -/
inductive Stop where
  | fault (fault : Fault) (left : List Char)
  | number (error : Number.IntegerError)
  deriving DecidableEq, Repr

/-- Line and column at which `left` is what is left of a text, or its end. -/
def place (text left : List Char) : String :=
  match left with
  | [] => "end of document"
  | _ =>
    let passed := text.take (text.length - left.length)
    let column := (passed.reverse.takeWhile (· != '\n')).length + 1
    "line " ++ toString (passed.count '\n' + 1) ++ ", column " ++ toString column

/-- The message for a fault at some place of a text. -/
def faultMessage (text : List Char) (fault : Fault) (left : List Char) : String :=
  fault.description ++ " (at " ++ place text left ++ ")"

/-- The digits at the start of a text behind the word "line", in any letter case, and a blank. -/
def lineDigitsHere? : List Char → Option (List Nat)
  | l :: i :: n :: e :: ' ' :: rest =>
    let dotted := i.toNat == 0x130 || i.toNat == 0x131
    if l.toLower == 'l' && (i.toLower == 'i' || dotted) && n.toLower == 'n' && e.toLower == 'e' then
      match Number.leadingDigits rest with
      | ([], _) => none
      | (digits, _) => some digits
    else none
  | _ => none

/-- The first digits that follow the word "line" in a message; `inWord` tells whether the character before
belongs to a word. -/
def lineDigitsFrom? (inWord : Bool) : List Char → Option (List Nat)
  | [] => none
  | c :: rest =>
    (if inWord then none else lineDigitsHere? (c :: rest)).or (lineDigitsFrom? (Text.isWord c) rest)

/-- The line number that a message names first. A message may quote a key, and with it a number that is too
long to be read. -/
def namedLine? (message : String) : Except Number.IntegerError (Option Nat) :=
  match lineDigitsFrom? false message.toList with
  | none => .ok none
  | some digits =>
    if Number.maxDigits < digits.length then .error (.tooManyDigits digits.length)
    else .ok (some (Number.ofDigits digits))

end CatalogSearch.Toml
