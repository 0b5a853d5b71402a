/-! # Sorting by a partial comparison

A stable sort whose comparison may fail on two keys that have no order; then the whole sort fails. Rows that
are already in order at the start are taken as they are, and each further row is put in its place by halving
the sorted part.
-/

namespace CatalogSearch.Sort

variable {α : Type} (less? : α → α → Option Bool)

/-- Put a row behind every row that is not greater. -/
def insert? (row : α) (sorted : List α) : Option (List α) :=
  match _cut : sorted.drop (sorted.length / 2) with
  | [] => some (sorted ++ [row])
  | middle :: right => do
    let left := sorted.take (sorted.length / 2)
    if ← less? row middle then
      let left ← insert? row left
      return left ++ middle :: right
    else
      let right ← insert? row right
      return left ++ middle :: right
  termination_by sorted.length
  decreasing_by
    all_goals have size := congrArg List.length _cut
    all_goals simp only [List.length_drop, List.length_cons] at size
    · simp only [List.length_take]
      omega
    · omega

def insertAll? (sorted : List α) : List α → Option (List α)
  | [] => some sorted
  | row :: rest => do
    let sorted ← insert? less? row sorted
    insertAll? sorted rest

/-- The longest run behind `last` in which each row stands to the one before as `wanted` says, and the rest. -/
def runFrom? (wanted : Bool) (last : α) : List α → Option (List α × List α)
  | [] => some ([], [])
  | row :: rest => do
    if (← less? row last) == wanted then
      let (run, rest) ← runFrom? wanted row rest
      return (row :: run, rest)
    else return ([], row :: rest)

def ascending? (rows : List α) : Option (List α) :=
  match rows with
  | first :: second :: rest => do
    let falling ← less? second first
    let (run, rest) ← runFrom? less? falling second rest
    let start := first :: second :: run
    insertAll? less? (if falling then start.reverse else start) rest
  | _ => some rows

/-- Sort rows in descending order; rows of equal keys keep their order. -/
def descending? (rows : List α) : Option (List α) :=
  (ascending? less? rows.reverse).map List.reverse

end CatalogSearch.Sort
