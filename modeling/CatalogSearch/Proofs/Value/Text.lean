import CatalogSearch.Proofs.Number.Size
import CatalogSearch.Proofs.Outcome
import CatalogSearch.Proofs.Value.Table
import CatalogSearch.Value.Shown

/-! # Values that have a text

A value has a text exactly if no whole number in it takes more digits than a number may have. Texts and null always
have one.
-/

namespace CatalogSearch

open Number (IntegerError)

/-- A whole number has a text exactly if it is writable. -/
theorem Number.written_eq_ok_iff {n : Int} {text : String} :
    written n = .ok text ↔ Writable n ∧ toString n = text := by
  have short : (Nat.toDigits 10 n.natAbs).length ≤ maxDigits ↔ Writable n :=
    Nat.length_toDigits_le_iff (by decide) (by decide)
  rw [written]
  split
  · next long => exact iff_of_false nofun fun ⟨writable, _⟩ => Nat.not_le.mpr long (short.mpr writable)
  · next fits => simp [short.mp (Nat.not_lt.mp fits)]

namespace Value

/-- Every whole number in the value is writable. -/
inductive Writable : Value → Prop where
  | null : Writable .null
  | bool (b : Bool) : Writable (.bool b)
  | int {n : Int} (digits : Number.Writable n) : Writable (.int n)
  | float (x : Number.Double) : Writable (.float x)
  | string (s : String) : Writable (.string s)
  | list {items : List Value} (each : ∀ item ∈ items, Writable item) : Writable (.list items)
  | object {entries : Table} (each : ∀ entry ∈ entries, Writable entry.2) : Writable (.object entries)

theorem Writable.items {items : List Value} (writable : (Value.list items).Writable) :
    ∀ item ∈ items, item.Writable := by
  cases writable with
  | list each => exact each

theorem Writable.entries {entries : Table} (writable : (Value.object entries).Writable) :
    ∀ entry ∈ entries, entry.2.Writable := by
  cases writable with
  | object each => exact each

mutual

theorem exists_shown_iff (value : Value) : (∃ text, value.shown = .ok text) ↔ value.Writable := by
  cases value with
  | null => exact iff_of_true ⟨_, rfl⟩ .null
  | bool b => exact iff_of_true ⟨_, rfl⟩ (.bool b)
  | float x => exact iff_of_true ⟨_, rfl⟩ (.float x)
  | string s => exact iff_of_true ⟨_, rfl⟩ (.string s)
  | int n =>
    constructor
    · rintro ⟨text, shown⟩
      exact .int (Number.written_eq_ok_iff.mp shown).1
    · intro writable
      cases writable with
      | int digits => exact ⟨_, Number.written_eq_ok_iff.mpr ⟨digits, rfl⟩⟩
  | list items =>
    rw [shown, exists_bind_pure_eq_ok_iff, exists_shownItems_iff items]
    exact ⟨.list, Writable.items⟩
  | object entries =>
    rw [shown, exists_bind_pure_eq_ok_iff, exists_shownEntries_iff entries]
    exact ⟨.object, Writable.entries⟩

theorem exists_shownItems_iff (items : List Value) :
    (∃ parts, shownItems items = .ok parts) ↔ ∀ item ∈ items, item.Writable := by
  cases items with
  | nil => exact iff_of_true ⟨[], rfl⟩ nofun
  | cons item rest =>
    rw [List.forall_mem_cons, ← exists_shown_iff item, ← exists_shownItems_iff rest]
    constructor
    · rintro ⟨parts, listed⟩
      obtain ⟨first, shown, later⟩ := bind_eq_ok_iff.mp listed
      exact ⟨⟨first, shown⟩, exists_bind_pure_eq_ok_iff.mp ⟨parts, later⟩⟩
    · rintro ⟨⟨first, shown⟩, others, further⟩
      exact ⟨_, bind_eq_ok_iff.mpr ⟨first, shown, bind_eq_ok_iff.mpr ⟨others, further, rfl⟩⟩⟩

theorem exists_shownEntries_iff (entries : List (String × Value)) :
    (∃ parts, shownEntries entries = .ok parts) ↔ ∀ entry ∈ entries, entry.2.Writable := by
  cases entries with
  | nil => exact iff_of_true ⟨[], rfl⟩ nofun
  | cons entry rest =>
    obtain ⟨key, value⟩ := entry
    rw [List.forall_mem_cons, ← exists_shown_iff value, ← exists_shownEntries_iff rest]
    constructor
    · rintro ⟨parts, listed⟩
      obtain ⟨first, shown, later⟩ := bind_eq_ok_iff.mp listed
      exact ⟨⟨first, shown⟩, exists_bind_pure_eq_ok_iff.mp ⟨parts, later⟩⟩
    · rintro ⟨⟨first, shown⟩, others, further⟩
      exact ⟨_, bind_eq_ok_iff.mpr ⟨first, shown, bind_eq_ok_iff.mpr ⟨others, further, rfl⟩⟩⟩

end

/-- A value has a text exactly if every whole number in it is writable. -/
theorem exists_text_iff {value : Value} : (∃ text, value.text = .ok text) ↔ value.Writable := by
  cases value with
  | string s => exact iff_of_true ⟨s, rfl⟩ (.string s)
  | null | bool | int | float | list | object => exact exists_shown_iff _

/-- A text or null is written as it is, or not at all. -/
theorem writable_ofText? (text : Option String) : (Value.ofText? text).Writable := by
  cases text with
  | none => exact .null
  | some text => exact .string text

theorem searchText?_eq_bind {value : Value} (given : value ≠ .null) :
    value.searchText? = value.text >>= fun text => .ok (if text == "" then none else some text) := by
  cases value with
  | null => exact absurd rfl given
  | bool | int | float | string | list | object => rfl

/-- A filter sets a text if its value is not null and has a text that is not empty. -/
theorem searchText?_eq_some_iff {value : Value} {text : String} :
    value.searchText? = .ok (some text) ↔ text ≠ "" ∧ value ≠ .null ∧ value.text = .ok text := by
  by_cases null : value = .null
  · subst null
    exact iff_of_false nofun fun ⟨_, given, _⟩ => given rfl
  · rw [searchText?_eq_bind null, bind_eq_ok_iff]
    constructor
    · rintro ⟨whole, shown, kept⟩
      split at kept
      · cases kept
      · next filled =>
        cases kept
        exact ⟨by simpa using filled, null, shown⟩
    · rintro ⟨filled, _, shown⟩
      exact ⟨text, shown, by rw [if_neg (by simpa using filled)]⟩

theorem exists_searchText?_iff {value : Value} : (∃ text, value.searchText? = .ok text) ↔ value.Writable := by
  by_cases null : value = .null
  · subst null
    exact iff_of_true ⟨none, rfl⟩ .null
  · rw [searchText?_eq_bind null, exists_bind_eq_ok_iff fun text => ⟨_, rfl⟩, exists_text_iff]

end Value

theorem Table.writable_column {table : Table} (each : ∀ entry ∈ table, entry.2.Writable) (name : String) :
    (table.column name).Writable := by
  rw [column]
  cases found : table.get? name with
  | none => exact .null
  | some value => exact each _ (mem_of_get? found)

end CatalogSearch
