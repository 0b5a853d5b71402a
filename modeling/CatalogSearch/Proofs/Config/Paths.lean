import CatalogSearch.Proofs.Config.Setting

/-! # Merged tables path by path

A path leads from table to table, key by key. What a merged table has at the end of a path depends on what the upper
table has there: a leaf counts as it is, a table is merged with the one below, and a leaf on the way cuts off
everything behind it. Where the upper table says nothing, the lower one counts. Laid on once more, the upper table
changes nothing.
-/

namespace CatalogSearch

namespace Value

/-- Anything but a table. -/
def IsLeaf (value : Value) : Prop :=
  ∀ entries, value ≠ .object entries

/-- What a path leads to from a value. -/
def at? : Value → List String → Option Value
  | value, [] => some value
  | .object entries, key :: rest => (Table.get? entries key).bind (at? · rest)
  | _, _ :: _ => none

theorem isLeaf_or (value : Value) : value.IsLeaf ∨ ∃ entries : Table, value = .object entries := by
  cases value with
  | object entries => exact .inr ⟨entries, rfl⟩
  | null | bool | int | float | string | list => exact .inl nofun

/-- No path goes on behind a leaf. -/
theorem IsLeaf.at?_eq_none {value : Value} (leaf : value.IsLeaf) {path : List String} (further : path ≠ []) :
    value.at? path = none := by
  cases path with
  | nil => exact absurd rfl further
  | cons key rest =>
    cases value with
    | object entries => exact absurd rfl (leaf entries)
    | null | bool | int | float | string | list => rfl

private theorem at?_append (value : Value) (front rest : List String) :
    value.at? (front ++ rest) = (value.at? front).bind (·.at? rest) := by
  induction front generalizing value with
  | nil => rw [List.nil_append, at?, Option.bind_some]
  | cons key more ih =>
    rcases value.isLeaf_or with leaf | ⟨entries, rfl⟩
    · rw [List.cons_append, leaf.at?_eq_none (List.cons_ne_nil _ _), leaf.at?_eq_none (List.cons_ne_nil _ _),
        Option.bind_none]
    · rw [List.cons_append, at?, at?, Option.bind_assoc]
      exact congrArg _ (funext ih)

end Value

namespace Table

/-- What a table binds a path to. -/
def at? (table : Table) (path : List String) : Option Value :=
  (Value.object table).at? path

/-- The table that a path leads to, empty where there is none. -/
def tableAt (table : Table) (path : List String) : Table :=
  match table.at? path with
  | some (.object entries) => entries
  | _ => []

/-- A shorter path, though not the empty one, leads to a leaf. -/
def Blocks (table : Table) (path : List String) : Prop :=
  ∃ front rest value, path = front ++ rest ∧ front ≠ [] ∧ rest ≠ [] ∧ table.at? front = some value ∧ value.IsLeaf

variable {table lower upper : Table} {key : String} {path rest : List String} {value : Value}

private theorem at?_nil (table : Table) : table.at? [] = some (.object table) :=
  rfl

theorem at?_cons (table : Table) (key : String) (rest : List String) :
    table.at? (key :: rest) = (table.get? key).bind (·.at? rest) :=
  rfl

private theorem at?_of_leaf (found : table.get? key = some value) (leaf : value.IsLeaf) (further : rest ≠ []) :
    table.at? (key :: rest) = none := by
  rw [at?_cons, found, Option.bind_some, leaf.at?_eq_none further]

theorem at?_of_table {entries : Table} (found : table.get? key = some (.object entries)) (rest : List String) :
    table.at? (key :: rest) = entries.at? rest := by
  rw [at?_cons, found]
  rfl

private theorem at?_of_none (missing : table.get? key = none) (rest : List String) : table.at?
    (key :: rest) = none := by
  rw [at?_cons, missing, Option.bind_none]

theorem inner_of_leaf (found : table.get? key = some value) (leaf : value.IsLeaf) : table.inner key = [] := by
  unfold inner
  split
  · next entries same => exact absurd (Option.some.inj (found.symm.trans same)) (leaf entries)
  · rfl

/-- Behind a key, a path goes on in the table under it. -/
theorem at?_inner (table : Table) (key : String) (further : rest ≠ []) :
    (table.inner key).at? rest = table.at? (key :: rest) := by
  have nothing : at? [] rest = none := by
    cases rest with
    | nil => exact absurd rfl further
    | cons => rfl
  cases found : table.get? key with
  | none => rw [inner_of_none found, nothing, at?_of_none found]
  | some value =>
    rcases value.isLeaf_or with leaf | ⟨entries, rfl⟩
    · rw [inner_of_leaf found leaf, nothing, at?_of_leaf found leaf further]
    · rw [inner_of_object found, at?_of_table found]

private theorem tableAt_cons (table : Table) (key : String) (rest : List String) :
    table.tableAt (key :: rest) = (table.inner key).tableAt rest := by
  cases rest with
  | nil =>
    rw [tableAt, tableAt, at?_nil, at?_cons, inner]
    cases found : table.get? key with
    | none => rfl
    | some value => rfl
  | cons next more => rw [tableAt, tableAt, at?_inner table key (List.cons_ne_nil _ _)]

/-! ## Single keys -/

/-- Entries with new keys are put at the end. -/
theorem merge_of_fresh (nodup : (lower.keys ++ upper.keys).Nodup) : lower.merge upper = lower ++ upper := by
  induction upper generalizing lower with
  | nil =>
    rw [merge, Value.layEntries]
    exact (List.append_nil lower).symm
  | cons first rest ih =>
    obtain ⟨key, value⟩ := first
    have fresh : key ∉ lower.keys := fun old =>
      (List.nodup_append.mp nodup).2.2 key old key List.mem_cons_self rfl
    have moved : (keys (lower ++ [(key, value)]) ++ keys rest).Nodup := by
      rw [keys, List.map_append, List.append_assoc]
      exact nodup
    rw [merge_cons, get?_eq_none_of_fresh fresh, Value.layOnto_none, set_of_fresh value fresh, ih moved,
      List.append_assoc, List.singleton_append]

theorem merge_nil_left (nodup : upper.keys.Nodup) : merge [] upper = upper :=
  merge_of_fresh nodup

/-- A table under a key is laid over the table below, which counts as empty if there is none. -/
theorem layOnto_inner (nodup : upper.keys.Nodup) (lower : Table) (key : String) :
    Value.layOnto (lower.get? key) (.object upper) = .object ((lower.inner key).merge upper) := by
  unfold inner
  split
  · next entries found => rw [found, Value.layOnto_object]
  · next none => rw [Value.layOnto_of_no_table none, merge_nil_left nodup]

private theorem get?_merge_of_none (keyed : upper.Keyed) (lower : Table) (missing : upper.get? key = none) :
    (lower.merge upper).get? key = lower.get? key := by
  rw [get?_merge keyed.nodup, missing, Option.elim_none]

theorem get?_merge_of_leaf (keyed : upper.Keyed) (lower : Table) (found : upper.get? key = some value)
    (leaf : value.IsLeaf) : (lower.merge upper).get? key = some value := by
  rw [get?_merge keyed.nodup, found, Option.elim_some, Value.layOnto_of_plain _ leaf]

theorem get?_merge_of_table (keyed : upper.Keyed) (lower : Table) {entries : Table}
    (found : upper.get? key = some (.object entries)) :
    (lower.merge upper).get? key = some (.object ((lower.inner key).merge entries)) := by
  have inside : entries.Keyed := keyed.of_get? found
  rw [get?_merge keyed.nodup, found, Option.elim_some, layOnto_inner inside.nodup]

/-! ## Paths -/

/-- A leaf of the upper table stands in the merged one. -/
theorem at?_merge_of_leaf (keyed : upper.Keyed) (lower : Table) (found : upper.at? path = some value)
    (leaf : value.IsLeaf) : (lower.merge upper).at? path = some value := by
  induction path generalizing lower upper with
  | nil => exact absurd (Option.some.inj found).symm (leaf upper)
  | cons key rest ih =>
    obtain ⟨here, under, later⟩ := Option.bind_eq_some_iff.mp found
    rcases here.isLeaf_or with end' | ⟨entries, rfl⟩
    · rw [at?_cons, get?_merge_of_leaf keyed lower under end']
      exact later
    · rw [at?_of_table (get?_merge_of_table keyed lower under)]
      exact ih (keyed.of_get? under) (lower.inner key) later

/-- A table of the upper table is laid over what the lower one has there. -/
theorem at?_merge_of_table (keyed : upper.Keyed) (lower : Table) {entries : Table}
    (found : upper.at? path = some (.object entries)) :
    (lower.merge upper).at? path = some (.object ((lower.tableAt path).merge entries)) := by
  induction path generalizing lower upper with
  | nil =>
    cases found
    rfl
  | cons key rest ih =>
    obtain ⟨here, under, later⟩ := Option.bind_eq_some_iff.mp found
    rcases here.isLeaf_or with leaf | ⟨inside, rfl⟩
    · cases rest with
      | nil => exact absurd (Option.some.inj later) (leaf entries)
      | cons => exact absurd later (by rw [leaf.at?_eq_none (List.cons_ne_nil _ _)]; exact nofun)
    · rw [at?_of_table (get?_merge_of_table keyed lower under), tableAt_cons]
      exact ih (keyed.of_get? under) (lower.inner key) later

/-- Behind a leaf of the upper table, the merged one has nothing. -/
theorem at?_merge_of_blocks (keyed : upper.Keyed) (lower : Table) (blocked : upper.Blocks path) :
    (lower.merge upper).at? path = none := by
  obtain ⟨front, rest, value, rfl, _, further, found, leaf⟩ := blocked
  have here : (lower.merge upper).at? front = some value := at?_merge_of_leaf keyed lower found leaf
  rw [at?] at here ⊢
  rw [Value.at?_append, here, Option.bind_some, leaf.at?_eq_none further]

theorem Blocks.cons {entries : Table} (found : table.get? key = some (.object entries))
    (blocked : entries.Blocks rest) : table.Blocks (key :: rest) := by
  obtain ⟨front, behind, value, rfl, _, further, there, leaf⟩ := blocked
  refine ⟨key :: front, behind, value, rfl, List.cons_ne_nil _ _, further, ?_, leaf⟩
  rw [at?_of_table found, there]

/-- Where the upper table says nothing, neither there nor on the way, the lower one counts. -/
theorem at?_merge_of_silent (keyed : upper.Keyed) (lower : Table) (missing : upper.at? path = none)
    (free : ¬upper.Blocks path) : (lower.merge upper).at? path = lower.at? path := by
  induction path generalizing lower upper with
  | nil => cases missing
  | cons key rest ih =>
    cases under : upper.get? key with
    | none => rw [at?_cons, at?_cons, get?_merge_of_none keyed lower under]
    | some value =>
      -- there is something behind the key, since the upper table binds the key itself
      have further : rest ≠ [] := by
        rintro rfl
        rw [at?_cons, under] at missing
        cases missing
      rcases value.isLeaf_or with leaf | ⟨entries, rfl⟩
      · refine absurd ⟨[key], rest, value, rfl, List.cons_ne_nil _ _, further, ?_, leaf⟩ free
        rw [at?_cons, under]
        rfl
      · rw [at?_of_table under] at missing
        rw [at?_of_table (get?_merge_of_table keyed lower under), ← at?_inner lower key further]
        exact ih (keyed.of_get? under) (lower.inner key) missing fun blocked => free (blocked.cons under)

/-! ## Merging once more -/

private theorem set_of_get? (found : table.get? key = some value) : table.set key value = table := by
  induction table with
  | nil => cases found
  | cons first rest ih =>
    rw [get?_cons] at found
    rw [set]
    split
    · next same =>
      rw [if_pos same.symm] at found
      cases same
      cases found
      rfl
    · next other =>
      rw [if_neg fun same => other same.symm] at found
      rw [ih found]

/-- A table that has taken up all entries of another one does not change when that is laid over it. -/
theorem merge_of_absorbed
    (each : ∀ entry ∈ upper, ∃ value, table.get? entry.1 = some value ∧ Value.layOnto (some value) entry.2 = value) :
    table.merge upper = table := by
  induction upper with
  | nil =>
    rw [merge, Value.layEntries]
  | cons first rest ih =>
    obtain ⟨⟨value, found, same⟩, later⟩ := List.forall_mem_cons.mp each
    rw [merge_cons, found, same, set_of_get? found]
    exact ih later

private theorem get?_of_mem (nodup : table.keys.Nodup) {entry : String × Value} (member : entry ∈ table) :
    table.get? entry.1 = some entry.2 := by
  induction table with
  | nil => cases member
  | cons first rest ih =>
    obtain ⟨fresh, others⟩ := List.nodup_cons.mp nodup
    rw [get?_cons]
    rcases List.mem_cons.mp member with rfl | later
    · rw [if_pos rfl]
    · rw [if_neg ?_, ih others later]
      rintro same
      exact fresh (same ▸ List.mem_map.mpr ⟨entry, later, rfl⟩)

end Table

namespace Value

private theorem layOnto_layOnto_of_leaf {upper : Value} (leaf : upper.IsLeaf) (lower : Option Value) :
    layOnto (some (layOnto lower upper)) upper = layOnto lower upper := by
  rw [layOnto_of_plain _ leaf, layOnto_of_plain _ leaf]

/-- A value that is laid on once more changes nothing. -/
theorem layOnto_layOnto {upper : Value} (keyed : upper.Keyed) (lower : Option Value) :
    layOnto (some (layOnto lower upper)) upper = layOnto lower upper := by
  induction keyed generalizing lower with
  | @object entries nodup each ih =>
    -- the table below counts as empty if there is none
    obtain ⟨table, laid⟩ : ∃ table : Table, layOnto lower (.object entries) = .object (table.merge entries) := by
      by_cases under : ∃ table : Table, lower = some (.object table)
      · obtain ⟨table, rfl⟩ := under
        exact ⟨table, layOnto_object table entries⟩
      · refine ⟨[], ?_⟩
        rw [layOnto_of_no_table fun table same => under ⟨table, same⟩, Table.merge_nil_left nodup]
    rw [laid, layOnto_object]
    refine congrArg _ (Table.merge_of_absorbed fun entry member => ?_)
    refine ⟨layOnto (table.get? entry.1) entry.2, ?_, ih entry member _⟩
    rw [Table.get?_merge nodup, Table.get?_of_mem nodup member, Option.elim_some]
  | null | bool | int | float | string | list =>
    refine layOnto_layOnto_of_leaf ?_ lower
    exact nofun

end Value

namespace Table

private theorem merge_merge {upper : Table} (keyed : upper.Keyed) (lower : Table) :
    (lower.merge upper).merge upper = lower.merge upper := by
  have twice := Value.layOnto_layOnto keyed (some (.object lower))
  rw [Value.layOnto_object, Value.layOnto_object] at twice
  exact Value.object.inj twice

/-- What a merged table binds a path to: a leaf of the upper table, a table of it laid over the lower one's, nothing
behind one of its leaves, and elsewhere what the lower table has. Merging once more changes nothing. -/
theorem merge_pathwise {upper : Table} (keyed : upper.Keyed) (lower : Table) :
    (∀ path, path ≠ [] →
      (∀ value, upper.at? path = some value → value.IsLeaf → (lower.merge upper).at? path = some value) ∧
      (∀ entries : Table, upper.at? path = some (.object entries) →
        (lower.merge upper).at? path = some (.object ((lower.tableAt path).merge entries))) ∧
      (upper.Blocks path → (lower.merge upper).at? path = none) ∧
      (upper.at? path = none → ¬upper.Blocks path → (lower.merge upper).at? path = lower.at? path)) ∧
    (lower.merge upper).merge upper = lower.merge upper := by
  refine ⟨fun path _ => ⟨?_, ?_, ?_, ?_⟩, merge_merge keyed lower⟩
  · exact fun value found leaf => at?_merge_of_leaf keyed lower found leaf
  · exact fun entries found => at?_merge_of_table keyed lower found
  · exact at?_merge_of_blocks keyed lower
  · exact at?_merge_of_silent keyed lower

/-! ## Tables and leaves in each other's place -/

/-- A table with a leaf and a table that the upper one replaces, and a table that it does not know. -/
def lowerKinds : Table :=
  [("a", .object [("b", .int 1), ("c", .object [("d", .int 2)])]), ("e", .int 5), ("k", .object [("l", .int 6)])]

/-- A table with a table in place of a leaf and the other way round, below a table of both. -/
def upperKinds : Table :=
  [("a", .object [("b", .object [("x", .int 3)]), ("c", .int 4)]), ("e", .object [("f", .object [("g", .int 7)])])]

theorem keyed_cons {table : Table} (fresh : key ∉ table.keys) (fits : value.Keyed) (keyed : table.Keyed) :
    Keyed ((key, value) :: table) :=
  .object (List.nodup_cons.mpr ⟨fresh, keyed.nodup⟩) (List.forall_mem_cons.mpr ⟨fits, keyed.each⟩)

theorem keyed_upperKinds : upperKinds.Keyed := by
  have inside : Keyed [("b", .object [("x", .int 3)]), ("c", .int 4)] :=
    keyed_cons (by decide) (keyed_cons (by decide) (.int 3) keyed_nil) (keyed_cons (by decide) (.int 4) keyed_nil)
  have single : Keyed [("f", .object [("g", .int 7)])] :=
    keyed_cons (by decide) (keyed_cons (by decide) (.int 7) keyed_nil) keyed_nil
  exact keyed_cons (by decide) inside (keyed_cons (by decide) single keyed_nil)

theorem merge_pathwise_kinds :
    upperKinds.Keyed ∧
      (lowerKinds.merge upperKinds).at? ["a", "b", "x"] = some (.int 3) ∧
      (lowerKinds.merge upperKinds).at? ["a", "b"] = some (.object [("x", .int 3)]) ∧
      (lowerKinds.merge upperKinds).at? ["a", "c", "d"] = none ∧
      (lowerKinds.merge upperKinds).at? ["k", "l"] = some (.int 6) ∧
      (lowerKinds.merge upperKinds).merge upperKinds = lowerKinds.merge upperKinds := by
  obtain ⟨paths, again⟩ := merge_pathwise keyed_upperKinds lowerKinds
  have unblocked : ¬upperKinds.Blocks ["k", "l"] := by
    rintro ⟨front, rest, value, same, some, _, found, _⟩
    obtain ⟨first, others, rfl⟩ := List.exists_cons_of_ne_nil some
    cases (List.cons.inj same).1
    cases found
  refine ⟨keyed_upperKinds, ?_, ?_, ?_, ?_, again⟩
  · exact (paths _ (List.cons_ne_nil _ _)).1 (.int 3) rfl nofun
  · exact (paths _ (List.cons_ne_nil _ _)).2.1 [("x", .int 3)] rfl
  · exact (paths _ (List.cons_ne_nil _ _)).2.2.1
      ⟨["a", "c"], ["d"], .int 4, rfl, List.cons_ne_nil _ _, List.cons_ne_nil _ _, rfl, nofun⟩
  · exact (paths _ (List.cons_ne_nil _ _)).2.2.2 rfl unblocked

end Table

end CatalogSearch
