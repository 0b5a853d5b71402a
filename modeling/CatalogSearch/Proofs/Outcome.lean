import Mathlib.Data.List.Forall2

/-! # Steps that may fail

A sequence of steps has a result exactly if every step has one.
-/

namespace CatalogSearch

variable {ε α β : Type}

instance decidableEqExcept [DecidableEq ε] [DecidableEq α] : DecidableEq (Except ε α)
  | .ok left, .ok right => decidable_of_iff (left = right) ⟨congrArg _, Except.ok.inj⟩
  | .error left, .error right => decidable_of_iff (left = right) ⟨congrArg _, Except.error.inj⟩
  | .ok _, .error _ | .error _, .ok _ => isFalse nofun

theorem bind_eq_ok_iff {first : Except ε α} {next : α → Except ε β} {result : β} :
    first >>= next = .ok result ↔ ∃ middle, first = .ok middle ∧ next middle = .ok result := by
  cases first with
  | ok middle => exact ⟨fun later => ⟨middle, rfl, later⟩, fun ⟨_, same, later⟩ => Except.ok.inj same ▸ later⟩
  | error reason => exact ⟨nofun, fun ⟨_, same, _⟩ => nomatch same⟩

/-- Where the second of two steps always succeeds, they do if the first one does. -/
theorem exists_bind_eq_ok_iff {first : Except ε α} {next : α → Except ε β}
    (always : ∀ middle, ∃ result, next middle = .ok result) :
    (∃ result, first >>= next = .ok result) ↔ ∃ middle, first = .ok middle := by
  constructor
  · rintro ⟨result, done⟩
    obtain ⟨middle, here, _⟩ := bind_eq_ok_iff.mp done
    exact ⟨middle, here⟩
  · rintro ⟨middle, here⟩
    obtain ⟨result, later⟩ := always middle
    exact ⟨result, bind_eq_ok_iff.mpr ⟨middle, here, later⟩⟩

theorem exists_bind_pure_eq_ok_iff {first : Except ε α} {change : α → β} :
    (∃ result, first >>= (fun middle => pure (change middle)) = .ok result) ↔ ∃ middle, first = .ok middle :=
  exists_bind_eq_ok_iff fun _ => ⟨_, rfl⟩

/-- Two steps fail for the reason of the first one, or for that of the second one after the first. -/
theorem bind_eq_error_iff {first : Except ε α} {next : α → Except ε β} {reason : ε} :
    first >>= next = .error reason ↔
      first = .error reason ∨ ∃ middle, first = .ok middle ∧ next middle = .error reason := by
  cases first with
  | ok middle =>
    constructor
    · exact fun failed => .inr ⟨middle, rfl, failed⟩
    · rintro (none | ⟨other, same, failed⟩)
      · cases none
      · cases same
        exact failed
  | error other =>
    constructor
    · exact fun failed => .inl (congrArg _ (Except.error.inj failed))
    · rintro (same | ⟨_, none, _⟩)
      · exact congrArg _ (Except.error.inj same)
      · cases none

theorem mapError_eq_error_iff {δ : Type} {outcome : Except ε α} {change : ε → δ} {reason : δ} :
    outcome.mapError change = .error reason ↔ ∃ own, outcome = .error own ∧ change own = reason := by
  cases outcome with
  | ok result => exact ⟨nofun, fun ⟨_, same, _⟩ => nomatch same⟩
  | error own =>
    exact ⟨fun same => ⟨own, rfl, Except.error.inj same⟩, fun ⟨_, same, done⟩ =>
      Except.error.inj same ▸ congrArg Except.error done⟩

/-- There is a result or a reason of some kind exactly if none of the other reasons applies. -/
theorem ok_or_error_iff {outcome : Except ε α} {kind other : ε → Prop}
    (applies : ∀ reason, other reason ↔ outcome = .error reason ∧ ¬kind reason) :
    ((∃ result, outcome = .ok result) ∨ ∃ reason, outcome = .error reason ∧ kind reason) ↔
      ∀ reason, ¬other reason := by
  constructor
  · intro settled reason found
    obtain ⟨failed, unlike⟩ := (applies reason).mp found
    rcases settled with ⟨result, done⟩ | ⟨own, same, fits⟩
    · cases done.symm.trans failed
    · cases same.symm.trans failed
      exact unlike fits
  · intro never
    cases outcome with
    | ok result => exact .inl ⟨result, rfl⟩
    | error reason =>
      refine .inr ⟨reason, rfl, ?_⟩
      by_contra unlike
      exact never reason ((applies reason).mpr ⟨rfl, unlike⟩)

/-- A step for each item of a list succeeds if all do, with their results in order. -/
theorem mapM_eq_ok_iff {step : α → Except ε β} {items : List α} {results : List β} :
    items.mapM step = .ok results ↔ List.Forall₂ (fun item result => step item = .ok result) items results := by
  induction items generalizing results with
  | nil =>
    rw [List.forall₂_nil_left_iff]
    exact ⟨fun done => (Except.ok.inj done).symm, fun empty => congrArg Except.ok empty.symm⟩
  | cons item rest ih =>
    rw [List.mapM_cons, List.forall₂_cons_left_iff, bind_eq_ok_iff]
    constructor
    · rintro ⟨result, here, later⟩
      obtain ⟨others, done, same⟩ := bind_eq_ok_iff.mp later
      exact ⟨result, others, here, ih.mp done, (Except.ok.inj same).symm⟩
    · rintro ⟨result, others, here, later, rfl⟩
      exact ⟨result, here, bind_eq_ok_iff.mpr ⟨others, ih.mpr later, rfl⟩⟩

theorem exists_of_mapM_eq_ok {step : α → Except ε β} {items : List α} {results : List β}
    (done : items.mapM step = .ok results) {result : β} (member : result ∈ results) :
    ∃ item ∈ items, step item = .ok result := by
  have each := mapM_eq_ok_iff.mp done
  clear done
  induction each with
  | nil => cases member
  | @cons first _ _ _ here _ ih =>
    rcases List.mem_cons.mp member with rfl | later
    · exact ⟨first, List.mem_cons_self, here⟩
    · obtain ⟨item, found, there⟩ := ih later
      exact ⟨item, List.mem_cons_of_mem _ found, there⟩

/-- Every item has its result among the results. -/
theorem exists_result_of_mapM_eq_ok {step : α → Except ε β} {items : List α} {results : List β}
    (done : items.mapM step = .ok results) {item : α} (member : item ∈ items) :
    ∃ result ∈ results, step item = .ok result := by
  have each := mapM_eq_ok_iff.mp done
  clear done
  induction each with
  | nil => cases member
  | @cons _ result _ _ here _ ih =>
    rcases List.mem_cons.mp member with rfl | later
    · exact ⟨result, List.mem_cons_self, here⟩
    · obtain ⟨other, found, there⟩ := ih later
      exact ⟨other, List.mem_cons_of_mem _ found, there⟩

theorem exists_step_of_mapM_eq_ok {step : α → Except ε β} {items : List α} {results : List β}
    (done : items.mapM step = .ok results) {item : α} (member : item ∈ items) : ∃ result, step item = .ok result := by
  obtain ⟨result, _, here⟩ := exists_result_of_mapM_eq_ok done member
  exact ⟨result, here⟩

theorem exists_mapM_eq_ok {step : α → Except ε β} {items : List α}
    (each : ∀ item ∈ items, ∃ result, step item = .ok result) : ∃ results, items.mapM step = .ok results := by
  induction items with
  | nil => exact ⟨[], rfl⟩
  | cons item rest ih =>
    obtain ⟨⟨result, here⟩, later⟩ := List.forall_mem_cons.mp each
    obtain ⟨results, done⟩ := ih later
    exact ⟨result :: results, mapM_eq_ok_iff.mpr (.cons here (mapM_eq_ok_iff.mp done))⟩

theorem exists_mapM_eq_ok_iff {step : α → Except ε β} {items : List α} :
    (∃ results, items.mapM step = .ok results) ↔ ∀ item ∈ items, ∃ result, step item = .ok result :=
  ⟨fun ⟨_, done⟩ _ member => exists_step_of_mapM_eq_ok done member, exists_mapM_eq_ok⟩

/-- A sequence of steps fails at the first one that does, for its reason. -/
theorem mapM_eq_error_iff {step : α → Except ε β} {items : List α} {reason : ε} :
    items.mapM step = .error reason ↔ ∃ before item after, items = before ++ item :: after ∧
      (∀ earlier ∈ before, ∃ result, step earlier = .ok result) ∧ step item = .error reason := by
  constructor
  · intro failed
    induction items with
    | nil => cases failed
    | cons first rest ih =>
      rw [List.mapM_cons] at failed
      rcases bind_eq_error_iff.mp failed with here | ⟨result, done, later⟩
      · exact ⟨[], first, rest, rfl, nofun, here⟩
      · rcases bind_eq_error_iff.mp later with there | ⟨_, _, none⟩
        · obtain ⟨before, item, after, rfl, earlier, stopped⟩ := ih there
          exact ⟨first :: before, item, after, rfl, List.forall_mem_cons.mpr ⟨⟨result, done⟩, earlier⟩, stopped⟩
        · cases none
  · rintro ⟨before, item, after, rfl, earlier, stopped⟩
    obtain ⟨results, done⟩ := exists_mapM_eq_ok earlier
    rw [List.mapM_append, done, List.mapM_cons, stopped]
    rfl

/-- Steps that carry a state on fail at the first one that does, for its reason. -/
theorem foldlM_eq_error_iff {step : β → α → Except ε β} {items : List α} {start : β} {reason : ε} :
    items.foldlM step start = .error reason ↔ ∃ before item after state, items = before ++ item :: after ∧
      before.foldlM step start = .ok state ∧ step state item = .error reason := by
  constructor
  · intro failed
    induction items generalizing start with
    | nil => cases failed
    | cons first rest ih =>
      rw [List.foldlM_cons] at failed
      rcases bind_eq_error_iff.mp failed with here | ⟨next, done, later⟩
      · exact ⟨[], first, rest, start, rfl, rfl, here⟩
      · obtain ⟨before, item, after, state, rfl, reached, stopped⟩ := ih later
        refine ⟨first :: before, item, after, state, rfl, ?_, stopped⟩
        rw [List.foldlM_cons, done]
        exact reached
  · rintro ⟨before, item, after, state, rfl, reached, stopped⟩
    rw [List.foldlM_append, reached]
    change (item :: after).foldlM step state = _
    rw [List.foldlM_cons, stopped]
    rfl

/-- A sequence of steps fails for the reason of one of them. -/
theorem exists_of_mapM_eq_error {step : α → Except ε β} {items : List α} {reason : ε}
    (failed : items.mapM step = .error reason) : ∃ item ∈ items, step item = .error reason := by
  obtain ⟨before, item, after, rfl, _, here⟩ := mapM_eq_error_iff.mp failed
  exact ⟨item, List.mem_append_right before List.mem_cons_self, here⟩

/-- The numbers of steps that have the same results without them do not matter. -/
theorem mapM_zipIdx_eq_ok_iff {δ : Type} {step : α × Nat → Except ε β} {plain : α → Except δ β}
    (same : ∀ item number result, step (item, number) = .ok result ↔ plain item = .ok result) {items : List α}
    {results : List β} (start : Nat) :
    (items.zipIdx start).mapM step = .ok results ↔ items.mapM plain = .ok results := by
  have each : (fun (item : α × Nat) result => step item = .ok result) = fun item result => plain item.1 = .ok result :=
    funext₂ fun (item, number) result => propext (same item number result)
  have unnumbered : List.Forall₂ (fun item result => plain item = .ok result) ((items.zipIdx start).map Prod.fst)
      results ↔ List.Forall₂ (fun item result => plain item.1 = .ok result) (items.zipIdx start) results :=
    List.forall₂_map_left_iff
  rw [mapM_eq_ok_iff, mapM_eq_ok_iff, each, ← unnumbered, List.zipIdx_map_fst]

/-- Numbered steps give back the items if each undoes what its item was written as, whatever the number. -/
theorem mapM_zipIdx_of_forall {step : α × Nat → Except ε β} {write : β → α} {items : List β}
    (each : ∀ item ∈ items, ∀ number, step (write item, number) = .ok item) (start : Nat) :
    ((items.map write).zipIdx start).mapM step = .ok items := by
  induction items generalizing start with
  | nil => rfl
  | cons item rest ih =>
    have later := ih (fun other member => each other (List.mem_cons_of_mem _ member)) (start + 1)
    rw [List.map_cons, List.zipIdx_cons, List.mapM_cons]
    exact bind_eq_ok_iff.mpr ⟨item, each item List.mem_cons_self start, bind_eq_ok_iff.mpr ⟨rest, later, rfl⟩⟩

end CatalogSearch
