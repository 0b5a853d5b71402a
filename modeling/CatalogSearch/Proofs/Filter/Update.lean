import CatalogSearch.Proofs.Filter.Passive
import Mathlib.Data.List.Induction

/-! # Updates by keys

An update changes the filters that its keys address, or nothing at all: the first key that addresses no filter refuses
it as a whole. Of several keys for one filter, such as the two names of it, the last one counts. The change is made at
once and announced once.
-/

namespace CatalogSearch

namespace Filter

/-- A key is one of the two names of a filter. -/
def isNamed (filter : Filter) (key : String) : Bool :=
  filter.name == key || filter.camelName == key

def Known (key : String) : Prop :=
  ∃ filter : Filter, filter.isNamed key = true

theorem ofKey?_eq_some_iff {filter : Filter} {key : String} : ofKey? key = some filter ↔ filter.isNamed key = true := by
  constructor
  · intro found
    have named := List.find?_some (p := fun filter : Filter => filter.isNamed key) found
    exact named
  · intro named
    rw [isNamed, Bool.or_eq_true, beq_iff_eq, beq_iff_eq] at named
    rcases named with rfl | rfl
    · exact ofKey?_name filter
    · exact ofKey?_camelName filter

theorem Known.exists_ofKey? {key : String} (known : Known key) : ∃ filter, ofKey? key = some filter := by
  obtain ⟨filter, named⟩ := known
  exact ⟨filter, ofKey?_eq_some_iff.mpr named⟩

instance (key : String) : Decidable (Known key) :=
  decidable_of_iff (∃ filter ∈ all, filter.isNamed key = true)
    (exists_congr fun filter => and_iff_right (mem_all filter))

private theorem ofKey?_of_not_known {key : String} (unknown : ¬Known key) : ofKey? key = none := by
  rw [Option.eq_none_iff_forall_ne_some]
  intro filter found
  exact unknown ⟨filter, ofKey?_eq_some_iff.mp found⟩

end Filter

namespace Criteria

theorem setAll_append (criteria : Criteria) (first second : List (Filter × Value)) :
    criteria.setAll (first ++ second) = (criteria.setAll first).setAll second :=
  List.foldl_append

/-- Filters that get one value hold it, and the others keep theirs. -/
theorem get_setAll_map (criteria : Criteria) (filters : List Filter) (value : Value) (filter : Filter) :
    (criteria.setAll (filters.map (·, value))).get filter = if filter ∈ filters then value else criteria.get filter := by
  induction filters generalizing criteria with
  | nil => rfl
  | cons first rest ih =>
    change ((criteria.set first value).setAll (rest.map (·, value))).get filter = _
    rw [ih]
    by_cases later : filter ∈ rest
    · rw [if_pos later, if_pos (List.mem_cons_of_mem first later)]
    · rw [if_neg later]
      by_cases here : filter = first
      · rw [here, get_set_self, if_pos List.mem_cons_self]
      · rw [get_set_of_ne criteria value here, if_neg (List.not_mem_cons_of_ne_of_not_mem here later)]

/-- After items that each set some filters to one value, a filter holds the value of the last item that sets it, and
what it held before if there is none. -/
theorem get_setAll_flatMap {α : Type} (filters : α → List Filter) (value : α → Value) (items : List α)
    (criteria : Criteria) (filter : Filter) :
    (criteria.setAll (items.flatMap fun item => (filters item).map (·, value item))).get filter =
      (((items.filter (filter ∈ filters ·)).getLast?).map value).getD (criteria.get filter) := by
  induction items using List.reverseRecOn with
  | nil => rfl
  | append_singleton items item ih =>
    rw [List.flatMap_append, List.flatMap_singleton, setAll_append, get_setAll_map, List.filter_append,
      List.getLast?_append]
    by_cases sets : filter ∈ filters item
    · simp [sets]
    · simp [sets, ih]

end Criteria

/-! ## What an update comes to -/

theorem resolveUpdates_cons {key : String} {filter : Filter} (found : Filter.ofKey? key = some filter) (value : Value)
    (rest : Table) : resolveUpdates ((key, value) :: rest) = (resolveUpdates rest).map ((filter, value) :: ·) := by
  rw [resolveUpdates, List.mapM_cons]
  simp only [found]
  change (resolveUpdates rest >>= fun others => pure ((filter, value) :: others)) = _
  cases resolveUpdates rest <;> rfl

/-- Keys that all address filters are resolved one by one. -/
theorem resolveUpdates_of_known {updates : Table} (known : ∀ entry ∈ updates, Filter.Known entry.1) :
    resolveUpdates updates = .ok (updates.flatMap fun entry => (Filter.ofKey? entry.1).toList.map (·, entry.2)) := by
  induction updates with
  | nil => rfl
  | cons entry rest ih =>
    obtain ⟨first, others⟩ := List.forall_mem_cons.mp known
    obtain ⟨filter, found⟩ := first.exists_ofKey?
    rw [resolveUpdates_cons found, ih others, List.flatMap_cons, found]
    rfl

/-- The first key that addresses no filter is refused. -/
theorem resolveUpdates_of_unknown {front back : Table} {key : String} {value : Value}
    (known : ∀ entry ∈ front, Filter.Known entry.1) (unknown : ¬Filter.Known key) :
    resolveUpdates (front ++ (key, value) :: back) = .error ⟨key⟩ := by
  induction front with
  | nil =>
    rw [List.nil_append, resolveUpdates, List.mapM_cons]
    simp only [Filter.ofKey?_of_not_known unknown]
    rfl
  | cons entry rest ih =>
    obtain ⟨first, others⟩ := List.forall_mem_cons.mp known
    obtain ⟨filter, found⟩ := first.exists_ofKey?
    rw [List.cons_append, resolveUpdates_cons found, ih others]
    rfl

/-- Each filter gets the value of the last key that addresses it. -/
theorem Criteria.exists_update {updates : Table} (known : ∀ entry ∈ updates, Filter.Known entry.1)
    (criteria : Criteria) :
    ∃ changed, criteria.update updates = .ok changed ∧ ∀ filter, changed.get filter =
      (((updates.filter (filter.isNamed ·.1)).getLast?).map Prod.snd).getD (criteria.get filter) := by
  refine ⟨_, congrArg (Except.map criteria.setAll) (resolveUpdates_of_known known), fun filter => ?_⟩
  -- A key sets one filter, so that the names of a filter compete like any other items that set it.
  have addresses (entry : String × Value) :
      decide (filter ∈ (Filter.ofKey? entry.1).toList) = filter.isNamed entry.1 := by
    rw [Bool.eq_iff_iff, decide_eq_true_iff, Option.mem_toList, Filter.ofKey?_eq_some_iff]
  simp only [get_setAll_flatMap, addresses]

namespace Store

/-- An update that has a key without a filter is refused for the first one, and the store stays as it is, with its
snapshot and its notifications. An update whose keys all address filters makes one new snapshot. There each filter
holds the value of the last key that addresses it, and what it held before if there is none. What was told before
stays as it is, and every registration is told of the new snapshot once, in order. -/
theorem update_atomic {store : Store} (passive : store.Passive) (updates : Table) :
    (∀ front key value back, updates = front ++ (key, value) :: back →
      (∀ entry ∈ front, Filter.Known entry.1) → ¬Filter.Known key →
        store.apply (.update updates) = (store, some (.unknownFilter ⟨key⟩))) ∧
    ((∀ entry ∈ updates, Filter.Known entry.1) → ∃ after, store.apply (.update updates) = (after, none) ∧
      (∀ filter, after.criteria.get filter =
        (((updates.filter (filter.isNamed ·.1)).getLast?).map Prod.snd).getD (store.criteria.get filter)) ∧
      after.current.revision = store.current.revision + 1 ∧
      after.deliveries = store.deliveries ++ store.registered.map (⟨·, after.current⟩)) := by
  constructor
  · rintro front key value back rfl known unknown
    apply apply_of_error
    rw [perform, Criteria.update, resolveUpdates_of_unknown known unknown]
    rfl
  · intro known
    obtain ⟨changed, resolved, holds⟩ := Criteria.exists_update known store.criteria
    have done : store.perform (.update updates) = .ok (store.replace changed) := by
      rw [perform, resolved]
    exact ⟨store.announce changed, passive.apply_of_replace done, holds, rfl, rfl⟩

/-- A store with two listeners, the second of which is registered twice. -/
def watchedStore : Store :=
  (ofCriteria {} {}).applyAll [.subscribe "list" .language [] 1, .subscribe "badge" .yearFrom [] 2]

theorem passive_watchedStore : watchedStore.Passive := by
  refine (passive_ofCriteria {} {}).applyAll fun command member => ?_
  rcases List.mem_cons.mp member with rfl | later
  · rfl
  · rw [List.mem_singleton.mp later]
    rfl

/-- A filter is given by its name and then by its other name, and another update has unknown keys behind a known one. -/
theorem update_atomic_alias :
    watchedStore.Passive ∧
      (∃ after, watchedStore.apply (.update
          [("year_from", .int 1950), ("genre", .string "Novel"), ("yearFrom", .int 1960)]) = (after, none) ∧
        after.criteria.get .yearFrom = .int 1960 ∧ after.criteria.get .genre = .string "Novel" ∧
        after.criteria.get .yearTo = .null ∧ after.deliveries = [0, 1, 1].map (⟨·, after.current⟩)) ∧
      watchedStore.apply (.update [("language", .string "German"), ("shelf", .null), ("colour", .null)]) =
        (watchedStore, some (.unknownFilter ⟨"shelf"⟩)) := by
  have registered : watchedStore.registered = [0, 1, 1] := by cbv
  have deliveries : watchedStore.deliveries = [] := by cbv
  have initial : watchedStore.criteria = {} := by cbv
  obtain ⟨_, accepted⟩ := update_atomic passive_watchedStore
    [("year_from", .int 1950), ("genre", .string "Novel"), ("yearFrom", .int 1960)]
  obtain ⟨refused, _⟩ := update_atomic passive_watchedStore
    [("language", .string "German"), ("shelf", .null), ("colour", .null)]
  obtain ⟨after, done, holds, _, told⟩ := accepted (by decide)
  rw [registered, deliveries] at told
  rw [initial] at holds
  refine ⟨passive_watchedStore, ⟨after, done, holds .yearFrom, holds .genre, holds .yearTo, told⟩, ?_⟩
  exact refused [("language", .string "German")] "shelf" .null [("colour", .null)] rfl (by decide) (by decide)

end Store

end CatalogSearch
