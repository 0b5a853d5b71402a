import CatalogSearch.Config.Merge
import CatalogSearch.Proofs.Value.Keyed

/-! # What a merged table says

Under each key a merged table says what the upper table makes of the lower one's value there, and what the lower
one says where the upper one is silent.
-/

namespace CatalogSearch

namespace Value

theorem layOnto_object (lower upper : Table) :
    layOnto (some (.object lower)) (.object upper) = .object (lower.merge upper) := by
  rw [layOnto]
  rfl

/-- Without a table below, the upper value stands as it is. -/
theorem layOnto_of_no_table {lower : Option Value} (plain : ∀ table, lower ≠ some (.object table)) (upper : Value) :
    layOnto lower upper = upper := by
  cases upper with
  | object entries =>
    rw [layOnto]
    exact plain
  | null | bool | int | float | string | list => rw [layOnto]; exact nofun

theorem layOnto_none (upper : Value) : layOnto none upper = upper := by
  refine layOnto_of_no_table ?_ upper
  intro table same
  cases same

/-- Anything but a table replaces what lies below it. -/
theorem layOnto_of_plain (lower : Option Value) {upper : Value} (plain : ∀ table, upper ≠ .object table) :
    layOnto lower upper = upper := by
  cases upper with
  | object entries => exact absurd rfl (plain entries)
  | null | bool | int | float | string | list => rw [layOnto]; exact nofun

end Value

namespace Table

theorem merge_cons (lower upper : Table) (key : String) (value : Value) :
    lower.merge ((key, value) :: upper) = (lower.set key (Value.layOnto (lower.get? key) value)).merge upper := by
  rw [merge, Value.layEntries]
  rfl

/-- What a merged table says under a key. -/
theorem get?_merge {upper : Table} (nodup : upper.keys.Nodup) (lower : Table) (key : String) :
    (lower.merge upper).get? key =
      (upper.get? key).elim (lower.get? key) fun value => some (Value.layOnto (lower.get? key) value) := by
  induction upper generalizing lower with
  | nil =>
    rw [merge, Value.layEntries]
    rfl
  | cons first rest ih =>
    obtain ⟨name, value⟩ := first
    obtain ⟨fresh, others⟩ := List.nodup_cons.mp nodup
    rw [merge_cons, ih others, get?_set, get?_cons]
    by_cases same : key = name
    · subst same
      rw [if_pos rfl, if_pos rfl, get?_eq_none_of_fresh fresh]
      rfl
    · rw [if_neg same, if_neg same]

end Table

end CatalogSearch
