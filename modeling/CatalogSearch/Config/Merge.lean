import CatalogSearch.Value.Basic

/-! # Merging tables

One table of settings laid over another: where both have a table under a key, these are merged in turn, and
anything else in the upper one replaces what the lower one has. Tables nest as deep as they like here, since it is
not modelled that recursion has a limit.
-/

namespace CatalogSearch

namespace Value

mutual

/-- What an upper value makes of the lower one under its key. -/
def layOnto (lower : Option Value) : Value → Value
  | .object upper => match lower with
    | some (.object table) => .object (layEntries table upper)
    | _ => .object upper
  | upper => upper

def layEntries (table : List (String × Value)) : List (String × Value) → List (String × Value)
  | [] => table
  | (key, value) :: rest => layEntries (Table.set table key (layOnto (Table.get? table key) value)) rest

end

end Value

/-- The table that results from laying `upper` over `lower`. -/
def Table.merge (lower upper : Table) : Table :=
  Value.layEntries lower upper

end CatalogSearch
