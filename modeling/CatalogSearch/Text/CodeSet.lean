/-! # Sets of characters

A large class of characters is kept as the sorted code points at which membership changes, so that a
table of a few hundred numbers describes all of Unicode.
-/

namespace CatalogSearch.Text

/-- A set of characters, as the sorted code points where membership changes, starting outside. -/
structure CodeSet where
  flips : List Nat
  deriving DecidableEq, Repr

namespace CodeSet

/-- A character is inside when an odd number of changes lie at or before it. -/
def contains (set : CodeSet) (c : Char) : Bool :=
  (set.flips.takeWhile (· ≤ c.toNat)).length % 2 == 1

end CodeSet

end CatalogSearch.Text
