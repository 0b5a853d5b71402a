import CatalogSearch.Proofs.Executor.Sort

/-! # Sorting is stable

Where the comparison of rows comes from a ranking, a sort succeeds, and its result is the one list in the order of
the ranking that keeps rows of one level in their order. A run that falls at the start may be turned around since
no two of its rows are of one level.
-/

namespace CatalogSearch.Sort

variable {α : Type} {less? : α → α → Option Bool} {le : α → α → Bool}

/-! ## Stable arrangements -/

/-- A ranking puts any two rows in order. Two rows may be of one level. -/
structure Ranks (le : α → α → Bool) : Prop where
  total : ∀ left right, le left right = true ∨ le right left = true
  trans : ∀ {left middle right}, le left middle = true → le middle right = true → le left right = true

/-- Whether two rows are of one level. -/
def level (le : α → α → Bool) (left right : α) : Bool :=
  le left right && le right left

/-- Rows in the order of a ranking, those of one level as they were. -/
structure Arranged (le : α → α → Bool) (rows sorted : List α) : Prop where
  ordered : sorted.Pairwise fun earlier later => le earlier later = true
  kept : ∀ row, sorted.filter (level le row) = rows.filter (level le row)

theorem level_eq_true_iff {left right : α} :
    level le left right = true ↔ le left right = true ∧ le right left = true :=
  Bool.and_eq_true_iff

theorem Ranks.level_self (ranks : Ranks le) (row : α) : level le row row = true := by
  have reflexive : le row row = true := (ranks.total row row).elim id id
  exact level_eq_true_iff.mpr ⟨reflexive, reflexive⟩

/-- A row that is strictly below another is not of its level, nor is any row above that one. -/
theorem Ranks.level_eq_false (ranks : Ranks le) {row lower upper : α} (same : level le row lower = true)
    (below : le upper lower = false) : level le row upper = false := by
  rw [← Bool.not_eq_true, level_eq_true_iff]
  rintro ⟨_, back⟩
  have equal := ranks.trans back (level_eq_true_iff.mp same).1
  exact Bool.false_ne_true (below.symm.trans equal)

theorem Ranks.le_of_not (ranks : Ranks le) {left right : α} (less : le right left = false) :
    le left right = true := by
  rcases ranks.total left right with forward | back
  · exact forward
  · cases less.symm.trans back

/-- Turning a ranking around leaves its levels as they are. -/
theorem level_swap (row : α) : level (fun left right => le right left) row = level le row :=
  funext fun _ => Bool.and_comm _ _

theorem Ranks.swap (ranks : Ranks le) : Ranks fun left right => le right left where
  total left right := ranks.total right left
  trans first second := ranks.trans second first

theorem Arranged.mem_iff (ranks : Ranks le) {rows sorted : List α} (arranged : Arranged le rows sorted) {row : α} :
    row ∈ sorted ↔ row ∈ rows := by
  have same := congrArg (row ∈ ·) (arranged.kept row)
  simpa only [List.mem_filter, ranks.level_self row, and_true, eq_iff_iff] using same

/-- The first row is above no other. -/
theorem Arranged.head_le (ranks : Ranks le) {rows rest : List α} {first row : α}
    (arranged : Arranged le rows (first :: rest)) (member : row ∈ rows) : le first row = true := by
  rcases List.mem_cons.mp ((arranged.mem_iff ranks).mpr member) with rfl | behind
  · exact (level_eq_true_iff.mp (ranks.level_self row)).1
  · exact (List.pairwise_cons.mp arranged.ordered).1 row behind

/-- Rows have one stable arrangement only. -/
theorem Arranged.unique (ranks : Ranks le) {rows left right : List α} (first : Arranged le rows left)
    (second : Arranged le rows right) : left = right := by
  induction left generalizing rows right with
  | nil =>
    refine (List.eq_nil_iff_forall_not_mem.mpr fun row member => ?_).symm
    exact List.not_mem_nil ((first.mem_iff ranks).mpr ((second.mem_iff ranks).mp member))
  | cons x xs ih =>
    cases right with
    | nil =>
      have member := (second.mem_iff ranks).mpr ((first.mem_iff ranks).mp List.mem_cons_self)
      cases member
    | cons y ys =>
      have agree (row : α) : (x :: xs).filter (level le row) = (y :: ys).filter (level le row) :=
        (first.kept row).trans (second.kept row).symm
      -- Each of the two heads is in the other list, so that they are of one level.
      have forward : le x y = true := first.head_le ranks ((second.mem_iff ranks).mp List.mem_cons_self)
      have back : le y x = true := second.head_le ranks ((first.mem_iff ranks).mp List.mem_cons_self)
      have heads := agree x
      rw [List.filter_cons_of_pos (ranks.level_self x),
        List.filter_cons_of_pos (level_eq_true_iff.mpr ⟨forward, back⟩)] at heads
      obtain ⟨rfl, _⟩ := List.cons.inj heads
      have rest : Arranged le ys xs := by
        refine ⟨(List.pairwise_cons.mp first.ordered).2, fun row => ?_⟩
        have whole := agree row
        rw [List.filter_cons, List.filter_cons] at whole
        split at whole
        · exact (List.cons.inj whole).2
        · exact whole
      rw [ih rest ⟨(List.pairwise_cons.mp second.ordered).2, fun _ => rfl⟩]

/-- The library's merge sort arranges rows stably. -/
theorem arranged_mergeSort (ranks : Ranks le) (rows : List α) : Arranged le rows (rows.mergeSort le) := by
  have trans : ∀ left middle right : α, le left middle = true → le middle right = true → le left right = true :=
    fun _ _ _ => ranks.trans
  have total : ∀ left right : α, (le left right || le right left) = true :=
    fun left right => Bool.or_eq_true_iff.mpr (ranks.total left right)
  refine ⟨List.pairwise_mergeSort trans total rows, fun row => ?_⟩
  have ordered : (rows.filter (level le row)).Pairwise fun earlier later => le earlier later = true := by
    refine List.pairwise_of_forall_mem_list fun left here right there => ?_
    have back := (level_eq_true_iff.mp (List.mem_filter.mp here).2).2
    have forth := (level_eq_true_iff.mp (List.mem_filter.mp there).2).1
    exact ranks.trans back forth
  have sub := (List.sublist_mergeSort trans total ordered List.filter_sublist).filter (level le row)
  rw [List.filter_filter] at sub
  simp only [Bool.and_self] at sub
  have same : ((rows.mergeSort le).filter (level le row)).length = (rows.filter (level le row)).length :=
    ((List.mergeSort_perm rows le).filter (level le row)).length_eq
  exact (sub.eq_of_length same.symm).symm

theorem Arranged.eq_mergeSort (ranks : Ranks le) {rows sorted : List α} (arranged : Arranged le rows sorted) :
    sorted = rows.mergeSort le :=
  arranged.unique ranks (arranged_mergeSort ranks rows)

theorem Arranged.append_subset (ranks : Ranks le) {rows sorted : List α} (arranged : Arranged le rows sorted)
    (rest : List α) : sorted ++ rest ⊆ rows ++ rest := by
  intro row member
  rcases List.mem_append.mp member with old | new
  · exact List.mem_append_left rest ((arranged.mem_iff ranks).mp old)
  · exact List.mem_append_right rows new

/-- Rows may come in after the others were arranged. -/
theorem Arranged.append_trans {rows rest sorted whole : List α} (start : Arranged le rows sorted)
    (further : Arranged le (sorted ++ rest) whole) : Arranged le (rows ++ rest) whole := by
  refine ⟨further.ordered, fun row => ?_⟩
  rw [further.kept row, List.filter_append, List.filter_append, start.kept row]

/-- Rows that are above no other stay in front. -/
theorem Arranged.behind (ranks : Ranks le) {front rows sorted : List α} (arranged : Arranged le rows sorted)
    (ordered : front.Pairwise fun earlier later => le earlier later = true)
    (least : ∀ earlier ∈ front, ∀ later ∈ rows, le earlier later = true) :
    Arranged le (front ++ rows) (front ++ sorted) := by
  constructor
  · refine List.pairwise_append.mpr ⟨ordered, arranged.ordered, fun earlier here later there => ?_⟩
    exact least earlier here later ((arranged.mem_iff ranks).mp there)
  · intro row
    rw [List.filter_append, List.filter_append, arranged.kept row]

/-- A row that came last stands before the rows that are strictly above it. -/
theorem Arranged.before (ranks : Ranks le) {lower upper sorted : List α} {row : α}
    (arranged : Arranged le (lower ++ [row]) sorted)
    (ordered : (lower ++ upper).Pairwise fun earlier later => le earlier later = true)
    (above : ∀ later ∈ upper, le later row = false) : Arranged le (lower ++ upper ++ [row]) (sorted ++ upper) := by
  obtain ⟨_, orderedUpper, across⟩ := List.pairwise_append.mp ordered
  constructor
  · refine List.pairwise_append.mpr ⟨arranged.ordered, orderedUpper, fun earlier here later there => ?_⟩
    rcases List.mem_append.mp ((arranged.mem_iff ranks).mp here) with old | new
    · exact across earlier old later there
    · obtain rfl := List.mem_singleton.mp new
      exact ranks.le_of_not (above later there)
  · intro other
    rw [List.filter_append, arranged.kept other, List.filter_append, List.filter_append, List.filter_append]
    cases same : level le other row with
    | false => rw [List.filter_cons_of_neg (by simp [same]), List.filter_nil, List.append_nil, List.append_nil]
    | true =>
      have none : upper.filter (level le other) = [] := by
        refine List.filter_eq_nil_iff.mpr fun later there => ?_
        rw [Bool.not_eq_true]
        exact ranks.level_eq_false same (above later there)
      rw [none, List.append_nil, List.append_nil]

/-! ## The sort -/

/-- On some rows, the comparison is the strict part of a ranking. -/
def Decides (less? : α → α → Option Bool) (le : α → α → Bool) (rows : List α) : Prop :=
  ∀ left ∈ rows, ∀ right ∈ rows, less? left right = some (!le right left)

theorem Decides.mono {rows part : List α} (decides : Decides less? le rows) (inside : part ⊆ rows) :
    Decides less? le part :=
  fun left here right there => decides left (inside here) right (inside there)

/-- A row is put behind the rows that are not above it. -/
theorem exists_insert? (ranks : Ranks le) {row : α} {sorted : List α}
    (ordered : sorted.Pairwise fun earlier later => le earlier later = true)
    (decides : Decides less? le (row :: sorted)) :
    ∃ inserted, insert? less? row sorted = some inserted ∧ Arranged le (sorted ++ [row]) inserted := by
  induction sorted using insert?.induct with
  | case1 sorted cut =>
    -- Only the empty list has no row at its middle.
    have empty : sorted = [] := by
      have length := List.drop_eq_nil_iff.mp cut
      refine List.eq_nil_of_length_eq_zero ?_
      omega
    subst empty
    exact ⟨[row], insert?_of_drop_eq_nil cut, List.pairwise_singleton _ _, fun _ => rfl⟩
  | case2 sorted middle right cut left insertLeft insertRight =>
    have whole : sorted = left ++ middle :: right := by
      rw [← cut]
      exact (List.take_append_drop _ _).symm
    have half : sorted.take (sorted.length / 2) = left := rfl
    rw [insert?_of_drop_eq_cons cut, half]
    clear_value left
    subst whole
    have asked : less? row middle = some (!le middle row) := decides row List.mem_cons_self middle (by simp)
    rw [asked, Option.bind_some]
    obtain ⟨orderedLeft, orderedBack, across⟩ := List.pairwise_append.mp ordered
    obtain ⟨leastBack, orderedRight⟩ := List.pairwise_cons.mp orderedBack
    cases behind : le middle row with
    | false =>
      obtain ⟨front, found, arranged⟩ := insertLeft orderedLeft (decides.mono (by simp))
      refine ⟨front ++ middle :: right, by simp [found], arranged.before ranks ordered fun later there => ?_⟩
      rcases List.mem_cons.mp there with rfl | further
      · exact behind
      · rw [← Bool.not_eq_true] at behind ⊢
        exact fun back => behind (ranks.trans (leastBack later further) back)
    | true =>
      have inside : row :: right ⊆ row :: (left ++ middle :: right) :=
        List.cons_subset_cons row (List.subset_append_of_subset_right left (List.subset_cons_self middle right))
      obtain ⟨back, found, arranged⟩ := insertRight orderedRight (decides.mono inside)
      have least : ∀ later ∈ right ++ [row], le middle later = true := by
        intro later there
        rcases List.mem_append.mp there with old | new
        · exact leastBack later old
        · exact List.mem_singleton.mp new ▸ behind
      have fromMiddle : Arranged le (middle :: (right ++ [row])) (middle :: back) :=
        arranged.behind ranks (List.pairwise_singleton _ middle) fun earlier here =>
          List.mem_singleton.mp here ▸ least
      refine ⟨left ++ middle :: back, by simp [found], ?_⟩
      rw [List.append_assoc, List.cons_append]
      refine fromMiddle.behind ranks orderedLeft fun earlier here later there => ?_
      have first := across earlier here middle List.mem_cons_self
      rcases List.mem_cons.mp there with rfl | further
      · exact first
      · exact ranks.trans first (least later further)

private theorem exists_insertAll? (ranks : Ranks le) {rows sorted : List α}
    (ordered : sorted.Pairwise fun earlier later => le earlier later = true)
    (decides : Decides less? le (sorted ++ rows)) :
    ∃ inserted, insertAll? less? sorted rows = some inserted ∧ Arranged le (sorted ++ rows) inserted := by
  induction rows generalizing sorted with
  | nil =>
    refine ⟨sorted, rfl, ordered, fun _ => ?_⟩
    rw [List.append_nil]
  | cons row rest ih =>
    have decidesRow : Decides less? le (row :: sorted) := decides.mono (by simp)
    obtain ⟨next, found, arranged⟩ := exists_insert? ranks ordered decidesRow
    have members : next ++ rest ⊆ sorted ++ row :: rest := by
      rw [List.append_cons]
      exact arranged.append_subset ranks rest
    obtain ⟨inserted, done, further⟩ := ih arranged.ordered (decides.mono members)
    refine ⟨inserted, ?_, ?_⟩
    · rw [insertAll?, found]
      exact done
    · rw [List.append_cons]
      exact arranged.append_trans further

/-- How rows of a run are to each other: none is above a later one, or each is strictly above every later one. -/
private theorem run_trans (ranks : Ranks le) {falling : Bool} {left middle right : α}
    (first : le left middle = !falling) (second : le middle right = !falling) : le left right = !falling := by
  cases falling with
  | false => exact ranks.trans first second
  | true =>
    rw [Bool.not_true] at first second ⊢
    have back := ranks.le_of_not second
    rw [← Bool.not_eq_true] at first ⊢
    exact fun forward => first (ranks.trans forward back)

/-- A row in front of a run. -/
private theorem pairwise_run_cons (ranks : Ranks le) {falling : Bool} {first second : α} {run : List α}
    (step : le first second = !falling)
    (chain : (second :: run).Pairwise fun earlier later => le earlier later = !falling) :
    (first :: second :: run).Pairwise fun earlier later => le earlier later = !falling := by
  refine List.pairwise_cons.mpr ⟨fun later there => ?_, chain⟩
  rcases List.mem_cons.mp there with rfl | further
  · exact step
  · exact run_trans ranks step ((List.pairwise_cons.mp chain).1 later further)

private theorem exists_runFrom? (ranks : Ranks le) (falling : Bool) {last : α} {rows : List α}
    (decides : Decides less? le (last :: rows)) :
    ∃ run rest, runFrom? less? falling last rows = some (run, rest) ∧
      (last :: run).Pairwise fun earlier later => le earlier later = !falling := by
  induction rows generalizing last with
  | nil => exact ⟨[], [], rfl, List.pairwise_singleton _ _⟩
  | cons row rows ih =>
    have asked : less? row last = some (!le last row) := decides row (by simp) last (by simp)
    rw [runFrom?, asked]
    by_cases goes : le last row = !falling
    · have decidesRest : Decides less? le (row :: rows) := decides.mono (by simp)
      obtain ⟨run, rest, found, chain⟩ := ih decidesRest
      exact ⟨row :: run, rest, by simp [goes, found], pairwise_run_cons ranks goes chain⟩
    · have turns : (!le last row) ≠ falling := by
        intro same
        rw [← same, Bool.not_not] at goes
        exact goes rfl
      exact ⟨[], row :: rows, by simp [turns], List.pairwise_singleton _ _⟩

/-- A strictly falling run has at most one row of each level. -/
theorem arranged_reverse (ranks : Ranks le) {run : List α}
    (falls : run.Pairwise fun earlier later => le earlier later = false) : Arranged le run run.reverse := by
  refine ⟨List.pairwise_reverse.mpr (falls.imp fun less => ranks.le_of_not less), fun row => ?_⟩
  rw [List.filter_reverse]
  induction run with
  | nil => rfl
  | cons head rest ih =>
    obtain ⟨above, falls⟩ := List.pairwise_cons.mp falls
    cases same : level le row head with
    | false =>
      rw [List.filter_cons_of_neg (by simp [same])]
      exact ih falls
    | true =>
      have none : rest.filter (level le row) = [] := by
        refine List.filter_eq_nil_iff.mpr fun later there other => ?_
        have equal := ranks.trans (level_eq_true_iff.mp same).2 (level_eq_true_iff.mp other).1
        cases (above later there).symm.trans equal
      rw [List.filter_cons_of_pos same, none]
      rfl

/-- The run at the start is in order, or is turned around. -/
private theorem arranged_start (ranks : Ranks le) {falling : Bool} {run : List α}
    (chain : run.Pairwise fun earlier later => le earlier later = !falling) :
    Arranged le run (if falling then run.reverse else run) := by
  cases falling with
  | false => exact ⟨chain, fun _ => rfl⟩
  | true => exact arranged_reverse ranks chain

/-- The ascending sort is the stable sort by the ranking. -/
theorem ascending?_eq (ranks : Ranks le) {rows : List α} (decides : Decides less? le rows) :
    ascending? less? rows = some (rows.mergeSort le) := by
  match rows with
  | [] | [_] => simp [ascending?]
  | first :: second :: rest =>
    have asked : less? second first = some (!le first second) := decides second (by simp) first (by simp)
    have decidesRest : Decides less? le (second :: rest) := decides.mono (by simp)
    obtain ⟨run, behind, found, chain⟩ := exists_runFrom? ranks (!le first second) decidesRest
    have whole : first :: second :: run ++ behind = first :: second :: rest := by
      rw [← append_of_runFrom? found]
      rfl
    have start := arranged_start ranks (pairwise_run_cons ranks (Bool.not_not _).symm chain)
    have members := start.append_subset ranks behind
    rw [whole] at members
    obtain ⟨sorted, done, arranged⟩ := exists_insertAll? ranks start.ordered (decides.mono members)
    have result := (start.append_trans arranged).eq_mergeSort ranks
    rw [whole] at result
    rw [← result]
    simp only [ascending?, asked, found, done, Option.bind_eq_bind, Option.bind_some]

/-- The descending sort is the stable sort by the ranking turned around. Rows of one level stay as they are. -/
theorem descending?_eq (ranks : Ranks le) {rows : List α} (decides : Decides less? le rows) :
    descending? less? rows = some (rows.mergeSort fun left right => le right left) := by
  have turned : Decides less? le rows.reverse := decides.mono (List.reverse_subset.mpr (List.Subset.refl rows))
  have arranged := arranged_mergeSort ranks rows.reverse
  have result : Arranged (fun left right => le right left) rows (rows.reverse.mergeSort le).reverse := by
    refine ⟨List.pairwise_reverse.mpr arranged.ordered, fun row => ?_⟩
    rw [level_swap, List.filter_reverse, arranged.kept row, List.filter_reverse, List.reverse_reverse]
  rw [descending?, ascending?_eq ranks turned, Option.map_some, result.eq_mergeSort ranks.swap]

end CatalogSearch.Sort
