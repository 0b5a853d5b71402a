import CatalogSearch.Number.Whole
import CatalogSearch.Validation.Problem
import CatalogSearch.Value.Basic

/-! # Checking values

A check turns a value into something more precise or reports every problem that it finds. Checks are
forgiving about numbers and truth values: a number may be written in a text, and words such as "yes" are
truth values.
-/

namespace CatalogSearch

/-- The outcome of a check: the checked thing, or all problems in the order of the checks. -/
inductive Checked (α : Type) where
  | valid (result : α)
  | invalid (problems : List Problem)
  deriving Repr

namespace Checked

variable {α β : Type}

/-- Checks combine by collecting the problems of both sides. -/
instance : Applicative Checked where
  pure := valid
  seq
    | valid f, right => match right () with
      | valid a => valid (f a)
      | invalid problems => invalid problems
    | invalid first, right => match right () with
      | valid _ => invalid first
      | invalid second => invalid (first ++ second)

/-- The outcome at a deeper place. -/
def under (step : Step) : Checked α → Checked α
  | valid a => valid a
  | invalid problems => invalid (problems.map fun problem => { problem with place := step :: problem.place })

def andThen : Checked α → (α → Checked β) → Checked β
  | valid a, next => next a
  | invalid problems, _ => invalid problems

def complain (complaint : Complaint) : Checked α :=
  invalid [⟨[], complaint⟩]

/-- Check every item of a list, with its position as its place, counting from `position`. -/
def eachFrom (check : α → Checked β) (position : Nat) : List α → Checked (List β)
  | [] => valid []
  | item :: rest => List.cons <$> (check item).under (.index position) <*> eachFrom check (position + 1) rest

def each (check : α → Checked β) (items : List α) : Checked (List β) :=
  eachFrom check 0 items

@[simp]
theorem andThen_valid (a : α) (next : α → Checked β) : (valid a).andThen next = next a := rfl

theorem seq_eq_valid_iff {f : Checked (α → β)} {a : Checked α} {b : β} :
    f <*> a = valid b ↔ ∃ g x, f = valid g ∧ a = valid x ∧ g x = b := by
  cases f <;> cases a <;> simp [Seq.seq]

end Checked

namespace Value

/-- A whole number written in a text. A text that starts with too many digits is refused for that; a loose
number that turns out too long is just not a number. -/
def checkWholeText (text : String) : Checked Int :=
  if Number.startsTooLong text.toList then .complain .tooLarge
  else match Number.readLoose? text.toList with
    | some n => .valid n
    | none => .complain .notWholeText

/-- One more than the greatest signed machine word. -/
def wordBound : Int := Int.pow 2 63

/-- A floating-point number that is whole and of moderate size. -/
def checkWholeDouble (x : Number.Double) : Checked Int :=
  match x with
  | .finite .. => match x.toInt? with
    | none => .complain .fractional
    | some n => if -wordBound < n && n < wordBound then .valid n else .complain .tooLarge
  | _ => .complain .notFinite

def checkInt : Value → Checked Int
  | .int n => .valid n
  | .bool b => .valid (if b then 1 else 0)
  | .float x => checkWholeDouble x
  | .string s => checkWholeText s
  | _ => .complain .notWhole

/-- A whole number of at least `least`. -/
def checkIntFrom (least : Int) (value : Value) : Checked Int :=
  value.checkInt.andThen fun n => if n < least then .complain (.below least) else .valid n

def trueWords : List String := ["1", "on", "t", "true", "y", "yes"]

def falseWords : List String := ["0", "f", "false", "n", "no", "off"]

def checkTruthWord (text : String) : Checked Bool :=
  let word := String.ofList (text.toList.map Char.toLower)
  if trueWords.contains word then .valid true
  else if falseWords.contains word then .valid false
  else .complain .notTruthWord

def checkTruthNumber (n : Int) : Checked Bool :=
  if n = 0 then .valid false
  else if n = 1 then .valid true
  else if -wordBound ≤ n && n < wordBound then .complain .notTruthWord
  else .complain .notTruthValue

def checkBool : Value → Checked Bool
  | .bool b => .valid b
  | .int n => checkTruthNumber n
  | .string s => checkTruthWord s
  | .float x => match checkWholeDouble x with
    | .valid n => checkTruthNumber n
    | .invalid _ => .complain .notTruthValue
  | _ => .complain .notTruthValue

def checkText : Value → Checked String
  | .string s => .valid s
  | _ => .complain .notText

def checkChoice (choices : List String) : Value → Checked String
  | .string s => if choices.contains s then .valid s else .complain (.notOneOf choices)
  | _ => .complain (.notOneOf choices)

def checkOptional {α : Type} (check : Value → Checked α) : Value → Checked (Option α)
  | .null => .valid none
  | value => some <$> check value

def checkList {α : Type} (check : Value → Checked α) : Value → Checked (List α)
  | .list items => .each check items
  | _ => .complain .notList

/-- A table of some shape, which is then checked. -/
def checkTable {α : Type} (shape : String) (check : Table → Checked α) : Value → Checked α
  | .object table => check table
  | _ => .complain (.notTable shape)

end Value

namespace Table

def required {α : Type} (table : Table) (key : String) (check : Value → Checked α) : Checked α :=
  match table.get? key with
  | some value => (check value).under (.key key)
  | none => .invalid [⟨[.key key], .missing⟩]

def optional {α : Type} (table : Table) (key : String) (default : α) (check : Value → Checked α) : Checked α :=
  match table.get? key with
  | some value => (check value).under (.key key)
  | none => .valid default

end Table

end CatalogSearch
