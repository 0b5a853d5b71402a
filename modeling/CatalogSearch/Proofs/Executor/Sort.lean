import CatalogSearch.Executor.Sort

/-! # Sorting permutes

A sort that succeeds loses no row and doubles none, whatever the comparison says.
-/

namespace CatalogSearch.Sort

open scoped List

variable {α : Type} {less? : α → α → Option Bool}

theorem insert?_of_drop_eq_nil {row : α} {sorted : List α} (cut : sorted.drop (sorted.length / 2) = []) :
    insert? less? row sorted = some (sorted ++ [row]) := by
  rw [insert?]
  split
  · rfl
  · next found => rw [cut] at found; cases found

/-- Halving the sorted rows at `middle`. -/
theorem insert?_of_drop_eq_cons {row middle : α} {sorted right : List α}
    (cut : sorted.drop (sorted.length / 2) = middle :: right) :
    insert? less? row sorted = (less? row middle).bind fun less =>
      if less then (insert? less? row (sorted.take (sorted.length / 2))).map (· ++ middle :: right)
      else (insert? less? row right).map (sorted.take (sorted.length / 2) ++ middle :: ·) := by
  rw [insert?]
  split
  · next found => rw [cut] at found; cases found
  · next found =>
    rw [cut] at found
    cases found
    simp only [Option.bind_eq_bind, Option.pure_def, Option.map_eq_bind]
    rfl

private theorem perm_insert? {row : α} {sorted inserted : List α} (done : insert? less? row sorted = some inserted) :
    inserted.Perm (row :: sorted) := by
  induction sorted using insert?.induct generalizing inserted
  case case1 sorted cut =>
    rw [insert?_of_drop_eq_nil cut] at done
    cases done
    exact List.perm_append_singleton row sorted
  case case2 sorted middle right cut left leftPerm rightPerm =>
    have whole : left ++ middle :: right = sorted := by
      rw [← cut]
      exact List.take_append_drop _ _
    rw [insert?_of_drop_eq_cons cut] at done
    obtain ⟨less, _, done⟩ := Option.bind_eq_some_iff.mp done
    split at done
    · obtain ⟨front, found, rfl⟩ := Option.map_eq_some_iff.mp done
      have step := (leftPerm found).append_right (middle :: right)
      rwa [List.cons_append, whole] at step
    · obtain ⟨back, found, rfl⟩ := Option.map_eq_some_iff.mp done
      calc left ++ middle :: back
        _ ~ left ++ middle :: row :: right := ((rightPerm found).cons middle).append_left left
        _ ~ left ++ row :: middle :: right := (List.Perm.swap row middle right).append_left left
        _ ~ row :: (left ++ middle :: right) := List.perm_middle
        _ = row :: sorted := by rw [whole]

private theorem perm_insertAll? {sorted rows inserted : List α} (done : insertAll? less? sorted rows = some inserted) :
    inserted.Perm (sorted ++ rows) := by
  induction rows generalizing sorted with
  | nil =>
    cases done
    rw [List.append_nil]
  | cons row rest ih =>
    obtain ⟨next, found, done⟩ := Option.bind_eq_some_iff.mp done
    calc inserted
      _ ~ next ++ rest := ih done
      _ ~ row :: sorted ++ rest := (perm_insert? found).append_right rest
      _ ~ sorted ++ row :: rest := List.perm_middle.symm

/-- A run and the rows behind it are the rows in their order. -/
theorem append_of_runFrom? {wanted : Bool} {last : α} {rows run rest : List α}
    (done : runFrom? less? wanted last rows = some (run, rest)) : run ++ rest = rows := by
  induction rows generalizing last run with
  | nil =>
    cases done
    rfl
  | cons row rows ih =>
    obtain ⟨less, _, done⟩ := Option.bind_eq_some_iff.mp done
    split at done
    · obtain ⟨⟨further, behind⟩, found, same⟩ := Option.bind_eq_some_iff.mp done
      cases same
      rw [List.cons_append, ih found]
    · cases done
      rfl

theorem perm_ascending? {rows sorted : List α} (done : ascending? less? rows = some sorted) :
    sorted.Perm rows := by
  unfold ascending? at done
  split at done
  · next first second rest =>
    obtain ⟨falling, _, done⟩ := Option.bind_eq_some_iff.mp done
    obtain ⟨⟨run, behind⟩, found, done⟩ := Option.bind_eq_some_iff.mp done
    have whole := append_of_runFrom? found
    have start : (if falling then (first :: second :: run).reverse else first :: second :: run).Perm
        (first :: second :: run) := by
      split
      · exact List.reverse_perm _
      · exact .refl _
    calc sorted
      _ ~ _ := perm_insertAll? done
      _ ~ first :: second :: run ++ behind := start.append_right behind
      _ = first :: second :: rest := by rw [← whole]; rfl
  · cases done
    exact .refl _

theorem perm_descending? {rows sorted : List α} (done : descending? less? rows = some sorted) :
    sorted.Perm rows := by
  obtain ⟨rising, found, rfl⟩ := Option.map_eq_some_iff.mp done
  calc rising.reverse
    _ ~ rising := List.reverse_perm rising
    _ ~ rows.reverse := perm_ascending? found
    _ ~ rows := List.reverse_perm rows

end CatalogSearch.Sort
