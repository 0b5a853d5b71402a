import CatalogSearch.Proofs.Value.Table

/-! # Values whose tables hold each key once

Lookup in a table finds the first entry of a key, and writing changes the first one. What a table says is therefore
plain only if no key stands in it twice, at any depth. Writing keeps it so.
-/

namespace CatalogSearch

/-- No table in the value holds a key twice. -/
inductive Value.Keyed : Value → Prop where
  | null : Keyed .null
  | bool (b : Bool) : Keyed (.bool b)
  | int (n : Int) : Keyed (.int n)
  | float (x : Number.Double) : Keyed (.float x)
  | string (s : String) : Keyed (.string s)
  | list {items : List Value} (each : ∀ item ∈ items, Keyed item) : Keyed (.list items)
  | object {entries : Table} (nodup : entries.keys.Nodup) (each : ∀ entry ∈ entries, Keyed entry.2) :
    Keyed (.object entries)

theorem Value.Keyed.items {items : List Value} (keyed : (Value.list items).Keyed) : ∀ item ∈ items, item.Keyed := by
  cases keyed with
  | list each => exact each

namespace Table

/-- No key stands twice in the table or in a table inside it. -/
def Keyed (table : Table) : Prop :=
  (Value.object table).Keyed

variable {table : Table} {key : String} {value : Value}

theorem keyed_nil : Keyed [] :=
  .object List.nodup_nil nofun

theorem Keyed.nodup (keyed : table.Keyed) : table.keys.Nodup := by
  cases keyed with
  | object nodup each => exact nodup

theorem Keyed.each (keyed : table.Keyed) : ∀ entry ∈ table, entry.2.Keyed := by
  cases keyed with
  | object nodup each => exact each

theorem Keyed.of_get? (keyed : table.Keyed) (found : table.get? key = some value) : value.Keyed :=
  keyed.each (key, value) (mem_of_get? found)

theorem Keyed.set (keyed : table.Keyed) (key : String) (fits : value.Keyed) : (table.set key value).Keyed := by
  refine .object (nodup_keys_set key value keyed.nodup) ?_
  intro entry member
  rcases mem_set member with old | rfl
  · exact keyed.each entry old
  · exact fits

end Table

end CatalogSearch
