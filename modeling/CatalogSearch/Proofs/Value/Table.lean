import CatalogSearch.Value.Basic

/-! # Tables that are written entry by entry

A key that is written again keeps its place, so that a table holds each key once. Entries with different keys are
kept as they are.
-/

namespace CatalogSearch

namespace Table

theorem mem_of_get? {table : Table} {key : String} {value : Value} (found : table.get? key = some value) :
    (key, value) ∈ table := by
  obtain ⟨front, back, rfl, _⟩ := List.lookup_eq_some_iff.mp found
  exact List.mem_append_right front List.mem_cons_self

theorem get?_cons (entry : String × Value) (table : Table) (key : String) :
    get? (entry :: table) key = if key = entry.1 then some entry.2 else table.get? key := by
  by_cases same : key = entry.1
  · rw [if_pos same, get?, same, List.lookup_cons_self]
  · rw [if_neg same, get?, List.lookup_cons, beq_false_of_ne same]
    rfl

theorem get?_set (table : Table) (key : String) (value : Value) (other : String) :
    (table.set key value).get? other = if other = key then some value else table.get? other := by
  induction table with
  | nil => exact get?_cons (key, value) [] other
  | cons first rest ih =>
    rw [set]
    split
    · next same =>
      rw [get?_cons, get?_cons, same]
      split <;> rfl
    · next different =>
      rw [get?_cons, get?_cons, ih]
      by_cases here : other = first.1
      · rw [if_pos here, if_pos here, if_neg fun same => different (here.symm.trans same)]
      · rw [if_neg here, if_neg here]

/-- A filter that leaves out a key takes no notice of what is put under it. -/
theorem filter_set_of_not (keep : String → Bool) {key : String} (left : keep key = false) (table : Table)
    (value : Value) :
    (table.set key value).filter (fun (other, _) => keep other) = table.filter fun (other, _) => keep other := by
  induction table with
  | nil => exact List.filter_cons_of_neg (by simp [left])
  | cons first rest ih =>
    rw [set]
    split
    · next same =>
      have here : keep first.1 = false := same ▸ left
      rw [List.filter_cons_of_neg (by simp [here]), List.filter_cons_of_neg (by simp [here])]
    · rw [List.filter_cons, List.filter_cons, ih]

theorem get?_eq_none_of_fresh {table : Table} {key : String} (fresh : key ∉ table.keys) : table.get? key = none := by
  refine List.lookup_eq_none_iff.mpr fun entry member => bne_iff_ne.mpr fun same => fresh ?_
  exact List.mem_map.mpr ⟨entry, member, same.symm⟩

theorem mem_set {table : Table} {key : String} {value : Value} {entry : String × Value}
    (member : entry ∈ table.set key value) : entry ∈ table ∨ entry = (key, value) := by
  induction table with
  | nil => exact .inr (List.mem_singleton.mp member)
  | cons first rest ih =>
    rw [set] at member
    split at member
    · next same =>
      rcases List.mem_cons.mp member with rfl | old
      · exact .inr (by rw [same])
      · exact .inl (List.mem_cons_of_mem _ old)
    · rcases List.mem_cons.mp member with rfl | later
      · exact .inl List.mem_cons_self
      · exact (ih later).imp_left (List.mem_cons_of_mem _)

theorem nodup_keys_set {table : Table} (key : String) (value : Value) (nodup : table.keys.Nodup) :
    (table.set key value).keys.Nodup := by
  induction table with
  | nil => exact List.nodup_cons.mpr ⟨List.not_mem_nil, List.nodup_nil⟩
  | cons first rest ih =>
    obtain ⟨fresh, others⟩ := List.nodup_cons.mp nodup
    rw [set]
    split
    · next same => exact List.nodup_cons.mpr ⟨same ▸ fresh, others⟩
    · next other =>
      refine List.nodup_cons.mpr ⟨fun found => ?_, ih others⟩
      obtain ⟨entry, member, same⟩ := List.mem_map.mp found
      rcases mem_set member with old | rfl
      · exact fresh (List.mem_map.mpr ⟨entry, old, same⟩)
      · exact other same.symm

private theorem mem_foldl_set {entries : List (String × Value)} {table : Table} {entry : String × Value}
    (member : entry ∈ entries.foldl (fun table (key, value) => table.set key value) table) :
    entry ∈ table ∨ entry ∈ entries := by
  induction entries generalizing table with
  | nil => exact .inl member
  | cons first rest ih =>
    rcases ih member with old | later
    · rcases mem_set old with older | rfl
      · exact .inl older
      · exact .inr List.mem_cons_self
    · exact .inr (List.mem_cons_of_mem _ later)

theorem mem_ofEntries {entries : List (String × Value)} {entry : String × Value}
    (member : entry ∈ ofEntries entries) : entry ∈ entries :=
  (mem_foldl_set member).resolve_left List.not_mem_nil

/-- A table that is written entry by entry holds each key once. -/
theorem nodup_keys_ofEntries (entries : List (String × Value)) : (ofEntries entries).keys.Nodup := by
  suffices each : ∀ table : Table, table.keys.Nodup →
      (entries.foldl (fun table (key, value) => table.set key value) table).keys.Nodup from each [] List.nodup_nil
  induction entries with
  | nil => exact fun table nodup => nodup
  | cons first rest ih => exact fun table nodup => ih _ (nodup_keys_set first.1 first.2 nodup)

theorem set_of_fresh {table : Table} {key : String} (value : Value) (fresh : key ∉ table.keys) :
    table.set key value = table ++ [(key, value)] := by
  induction table with
  | nil => rfl
  | cons first rest ih =>
    obtain ⟨other, later⟩ := not_or.mp (mt List.mem_cons.mpr fresh)
    rw [set, if_neg fun same => other same.symm, ih later, List.cons_append]

private theorem foldl_set_of_nodup {entries table : Table} (nodup : (table.keys ++ entries.keys).Nodup) :
    entries.foldl (fun table (key, value) => table.set key value) table = table ++ entries := by
  induction entries generalizing table with
  | nil => exact (List.append_nil table).symm
  | cons first rest ih =>
    obtain ⟨key, value⟩ := first
    have fresh : key ∉ table.keys := fun old =>
      (List.nodup_append.mp nodup).2.2 key old key List.mem_cons_self rfl
    have moved : (keys (table ++ [(key, value)]) ++ keys rest).Nodup := by
      rw [keys, List.map_append, List.append_assoc]
      exact nodup
    change rest.foldl (fun table (key, value) => table.set key value) (table.set key value) = _
    rw [set_of_fresh value fresh, ih moved, List.append_assoc, List.singleton_append]

/-- Entries with different keys are the table that they write. -/
theorem ofEntries_of_nodup {entries : Table} (nodup : entries.keys.Nodup) : ofEntries entries = entries :=
  foldl_set_of_nodup nodup

end Table

end CatalogSearch
