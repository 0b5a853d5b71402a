import CatalogSearch.Proofs.Query.Readable
import Mathlib.Data.Set.Lattice

/-! # Selected categories

The categories of a search are alternatives to each other and a restriction of everything else: a query finds what it
finds without them, as far as one of the selected labels is among the categories of the row. So a selection finds what
its labels find one by one. Labels that are null or empty do not count. A selection in which no label counts restricts
nothing, and is not the empty alternative, which would find nothing.
-/

namespace CatalogSearch

/-- The rows that a query selects, each given by its columns. -/
def Query.rows (query : Query) : Set (String → Value) :=
  {columns | query.predicate.holds columns = .ok true}

def categoryRows (text : String) : Set (String → Value) :=
  {columns | Predicate.containsHolds text (columns "categories") = true}

/-- The categories that labels stand for: the texts of those that are not null, the empty text aside. -/
def labelTexts (labels : List Value) : Set String :=
  {text | text ≠ "" ∧ ∃ label ∈ labels, label ≠ .null ∧ label.text = .ok text}

/-- The category that a label stands for, if it counts. -/
def Value.category? (label : Value) : Option String :=
  label.searchText?.toOption.join

private theorem Value.category?_eq_some_iff {label : Value} {text : String} :
    label.category? = some text ↔ text ≠ "" ∧ label ≠ .null ∧ label.text = .ok text := by
  rw [← searchText?_eq_some_iff, category?]
  cases label.searchText? with
  | error error => exact iff_of_false nofun nofun
  | ok found => exact ⟨congrArg Except.ok, Except.ok.inj⟩

theorem mem_labelTexts_iff {labels : List Value} {text : String} :
    text ∈ labelTexts labels ↔ text ∈ labels.filterMap Value.category? := by
  simp only [labelTexts, Set.mem_ofPred_eq, List.mem_filterMap, Value.category?_eq_some_iff]
  constructor
  · rintro ⟨some, label, member, given, shown⟩
    exact ⟨label, member, some, given, shown⟩
  · rintro ⟨label, member, some, given, shown⟩
    exact ⟨some, label, member, given, shown⟩

private theorem labelTexts_mono {labels more : List Value} (added : labels ⊆ more) :
    labelTexts labels ⊆ labelTexts more := by
  rintro text ⟨some, label, member, counts⟩
  exact ⟨some, label, added member, counts⟩

private theorem labelTexts_singleton {text : String} (some : text ≠ "") : labelTexts [.string text] = {text} := by
  ext other
  constructor
  · rintro ⟨_, label, member, _, shown⟩
    rw [List.mem_singleton.mp member] at shown
    exact (Except.ok.inj shown).symm
  · rintro rfl
    exact ⟨some, .string other, List.mem_singleton_self _, by simp, rfl⟩

namespace Criteria

variable {criteria : Criteria} {lookup : Option Lookup} {page pageSize : Int}

private theorem categoryClause_of_writable {labels : List Value} (writable : ∀ label ∈ labels, label.Writable) :
    categoryClause labels = .ok (anyCategory (labels.filterMap Value.category?)) := by
  have texts : ∃ found, labels.mapM Value.searchText? = .ok found ∧
      found.reduceOption = labels.filterMap Value.category? := by
    induction labels with
    | nil => exact ⟨[], rfl, rfl⟩
    | cons label rest ih =>
      obtain ⟨here, later⟩ := List.forall_mem_cons.mp writable
      obtain ⟨text, searched⟩ := Value.exists_searchText?_iff.mpr here
      obtain ⟨found, looked, same⟩ := ih later
      have counted : label.category? = text := by rw [Value.category?, searched]; rfl
      refine ⟨text :: found, ?_, ?_⟩
      · rw [List.mapM_cons, searched, looked]
        rfl
      · cases text with
        | none => rw [List.reduceOption_cons_of_none, List.filterMap_cons_none counted, same]
        | some text => rw [List.reduceOption_cons_of_some, List.filterMap_cons_some counted, same]
  obtain ⟨found, looked, same⟩ := texts
  rw [categoryClause, looked, ← same]
  rfl

/-- Labels that count are satisfied by the rows that have one of their categories. -/
theorem holds_anyCategory_iff {labels : List Value} (counts : (labelTexts labels).Nonempty)
    {columns : String → Value} :
    (∀ clause ∈ anyCategory (labels.filterMap Value.category?), clause.holds columns = .ok true) ↔
      columns ∈ ⋃ text ∈ labelTexts labels, categoryRows text := by
  simp only [Set.mem_iUnion, exists_prop, mem_labelTexts_iff]
  cases texts : labels.filterMap Value.category? with
  | nil =>
    obtain ⟨text, member⟩ := counts
    rw [mem_labelTexts_iff, texts] at member
    cases member
  | cons text rest =>
    have decided : ∀ clause ∈ (text :: rest).map (Predicate.contains "categories"),
        ∃ answer, clause.holds columns = .ok answer := by
      intro clause member
      obtain ⟨_, _, rfl⟩ := List.mem_map.mp member
      exact ⟨_, rfl⟩
    simp only [anyCategory, Option.mem_def, Option.some.injEq, forall_eq', Predicate.holds]
    rw [Predicate.holdsAny_eq_true_iff decided]
    constructor
    · rintro ⟨clause, member, holds⟩
      obtain ⟨other, listed, rfl⟩ := List.mem_map.mp member
      exact ⟨other, listed, Except.ok.inj holds⟩
    · rintro ⟨other, listed, has⟩
      exact ⟨_, List.mem_map_of_mem listed, congrArg Except.ok has⟩

/-- What does not depend on the categories is the same for every selection: whether there is a query for labels that
have texts, and what it selects besides. -/
theorem exists_queries {labels : List Value} {query : Query}
    (compiled : criteria.compile lookup labels page pageSize = .ok query) :
    ∃ queryOf : List Value → Query,
      (∀ others, criteria.compile lookup others page pageSize = .ok (queryOf others) ↔
        ∀ label ∈ others, label.Writable) ∧
      ∀ others, (queryOf others).rows = (queryOf []).rows ∩
        {columns | ∀ clause ∈ anyCategory (others.filterMap Value.category?), clause.holds columns = .ok true} := by
  obtain ⟨conditions, found, _⟩ := compile_eq_ok_iff.mp compiled
  obtain ⟨primary, years, texts, _, driven, bounded, filtered, _⟩ := conditions_eq_ok_iff.mp found
  let base := primary.toList ++ (years.toList ++ texts)
  refine ⟨fun others => ⟨base ++ (anyCategory (others.filterMap Value.category?)).toList, .ofKey criteria.sortBy,
    (max page 1 - 1) * pageSize, pageSize⟩, fun others => ⟨fun returned => ?_, fun writable => ?_⟩, fun others => ?_⟩
  · obtain ⟨_, whole, _⟩ := compile_eq_ok_iff.mp returned
    obtain ⟨_, _, _, chosen, _, _, _, categorized, _⟩ := conditions_eq_ok_iff.mp whole
    exact exists_categoryClause_iff.mp ⟨chosen, categorized⟩
  · have categorized := categoryClause_of_writable writable
    exact compile_eq_ok_iff.mpr
      ⟨_, conditions_eq_ok_iff.mpr ⟨primary, years, texts, _, driven, bounded, filtered, categorized, rfl⟩, rfl⟩
  · have none : (anyCategory (([] : List Value).filterMap Value.category?)).toList = [] := rfl
    ext columns
    simp only [Query.rows, Query.holds_iff, none, List.append_nil, List.forall_mem_append, Set.mem_inter_iff,
      Set.mem_ofPred_eq, Option.mem_toList, Option.mem_def]

/-- Labels that count restrict a query to the rows that have one of their categories. -/
theorem rows_of_counts {queryOf : List Value → Query}
    (restricts : ∀ others, (queryOf others).rows = (queryOf []).rows ∩
      {columns | ∀ clause ∈ anyCategory (others.filterMap Value.category?), clause.holds columns = .ok true})
    {labels : List Value} (counts : (labelTexts labels).Nonempty) :
    (queryOf labels).rows = (queryOf []).rows ∩ ⋃ text ∈ labelTexts labels, categoryRows text := by
  rw [restricts labels]
  congr 1
  ext columns
  exact holds_anyCategory_iff counts

/-- If criteria have a query for one selection of categories, they have one for every selection of labels that have
texts. Under labels of which one counts it finds the rows that it finds under one of their texts alone, which are those
with this category among the rows that it finds without labels. Neither the order of the labels nor labels that do not
count or stand for the same text matter, and whatever is added to the labels, no row is lost. -/
theorem rows_eq_iUnion_labels {labels : List Value} {query : Query}
    (compiled : criteria.compile lookup labels page pageSize = .ok query) :
    ∃ queryOf : List Value → Query,
      (∀ others, criteria.compile lookup others page pageSize = .ok (queryOf others) ↔
        ∀ label ∈ others, label.Writable) ∧
      ∀ selected, (labelTexts selected).Nonempty →
        (queryOf selected).rows = ⋃ text ∈ labelTexts selected, (queryOf [.string text]).rows ∧
        (∀ text ∈ labelTexts selected, (queryOf [.string text]).rows = (queryOf []).rows ∩ categoryRows text) ∧
        (∀ others, labelTexts others = labelTexts selected → (queryOf others).rows = (queryOf selected).rows) ∧
        ∀ more, selected ⊆ more → (queryOf selected).rows ⊆ (queryOf more).rows := by
  obtain ⟨queryOf, compiles, restricts⟩ := exists_queries compiled
  refine ⟨queryOf, compiles, fun selected counts => ?_⟩
  have found := rows_of_counts restricts counts
  have single : ∀ text ∈ labelTexts selected,
      (queryOf [.string text]).rows = (queryOf []).rows ∩ categoryRows text := by
    intro text member
    have alone := labelTexts_singleton member.1
    rw [rows_of_counts restricts (alone ▸ Set.singleton_nonempty text), alone, Set.biUnion_singleton]
  refine ⟨?_, single, fun others same => ?_, fun more added => ?_⟩
  · rw [found, Set.inter_iUnion₂]
    exact (Set.iUnion₂_congr single).symm
  · rw [rows_of_counts restricts (same ▸ counts), found, same]
  · have grown := labelTexts_mono added
    rw [found, rows_of_counts restricts (counts.mono grown)]
    apply Set.inter_subset_inter_right
    exact Set.biUnion_subset_biUnion_left grown

/-- A title that is looked for among the books of a publisher. -/
def shelfCriteria : Criteria :=
  { query := .string "Dune", publisher := .string "Ace" }

/-- Labels of which two are dropped, one is a number and one stands there twice. -/
def mixedLabels : List Value :=
  [.null, .string "Novel", .int 5, .string "", .string "Novel"]

private theorem labelTexts_mixedLabels : labelTexts mixedLabels = {"Novel", "5"} := by
  have texts : mixedLabels.filterMap Value.category? = ["Novel", "5", "Novel"] := by decide
  ext text
  rw [mem_labelTexts_iff, texts]
  simp only [List.mem_cons, List.not_mem_nil, or_false, Set.mem_insert_iff, Set.mem_singleton_iff]
  tauto

/-- The labels find the novels and the books of category 5, and no fewer if a third category is added. -/
theorem rows_eq_iUnion_labels_mixed :
    (∃ query, shelfCriteria.compile none mixedLabels 2 20 = .ok query) ∧ (labelTexts mixedLabels).Nonempty ∧
      ∃ queryOf : List Value → Query,
        (∀ others, shelfCriteria.compile none others 2 20 = .ok (queryOf others) ↔ ∀ label ∈ others, label.Writable) ∧
        (queryOf mixedLabels).rows = (queryOf [.string "Novel"]).rows ∪ (queryOf [.string "5"]).rows ∧
        (queryOf [.int 5, .string "Novel"]).rows = (queryOf mixedLabels).rows ∧
        (queryOf mixedLabels).rows ⊆ (queryOf (.string "Saga" :: mixedLabels)).rows := by
  have compiled : ∃ query, shelfCriteria.compile none mixedLabels 2 20 = .ok query := ⟨_, rfl⟩
  have counts : (labelTexts mixedLabels).Nonempty := by
    rw [labelTexts_mixedLabels]
    exact Set.insert_nonempty "Novel" {"5"}
  obtain ⟨query, found⟩ := compiled
  obtain ⟨queryOf, compiles, selection⟩ := rows_eq_iUnion_labels found
  obtain ⟨union, _, same, grows⟩ := selection mixedLabels counts
  refine ⟨⟨query, found⟩, counts, queryOf, compiles, ?_, same _ ?_, grows _ (List.subset_cons_self _ _)⟩
  · rw [union, labelTexts_mixedLabels, Set.biUnion_pair]
  · have texts : ([.int 5, .string "Novel"] : List Value).filterMap Value.category? = ["5", "Novel"] := by decide
    rw [labelTexts_mixedLabels]
    ext text
    rw [mem_labelTexts_iff, texts]
    simp only [List.mem_cons, List.not_mem_nil, or_false, Set.mem_insert_iff, Set.mem_singleton_iff]
    exact or_comm

end Criteria

end CatalogSearch
