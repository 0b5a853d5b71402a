import CatalogSearch.Proofs.Predicate.Outcome
import CatalogSearch.Query.Compile
import Mathlib.Data.List.ReduceOption

/-! # What a compiled query holds

The conditions and the order of a query come from the criteria, the lookup and the categories; the one that drives
the search is among them. The page decides on nothing but the offset, and the page size is the limit.
-/

namespace CatalogSearch

namespace Query

variable {query : Query} {columns : String → Value}

/-- A row satisfies a query if all conditions hold of it. -/
theorem holds_iff :
    query.predicate.holds columns = .ok true ↔ ∀ clause ∈ query.conditions, clause.holds columns = .ok true :=
  Predicate.holdsAll_eq_true_iff

/-- A row on which a query has an answer satisfies it if no condition is refuted. -/
theorem holds_of_unrefuted (decided : ∃ answer, query.predicate.holds columns = .ok answer)
    (unrefuted : ∀ clause ∈ query.conditions, clause.holds columns ≠ .ok false) :
    query.predicate.holds columns = .ok true := by
  obtain ⟨answer, decided⟩ := decided
  cases answer with
  | true => exact decided
  | false =>
    obtain ⟨clause, member, refuted⟩ := Predicate.exists_of_holdsAll_eq_false decided
    exact absurd refuted (unrefuted clause member)

end Query

namespace Criteria

variable {criteria : Criteria} {lookup : Option Lookup} {categories : List Value} {pageSize : Int} {query : Query}

theorem compile_eq_ok_iff {page : Int} :
    criteria.compile lookup categories page pageSize = .ok query ↔
      ∃ conditions, criteria.conditions lookup categories = .ok conditions ∧
        query = ⟨conditions, .ofKey criteria.sortBy, (max page 1 - 1) * pageSize, pageSize⟩ := by
  rw [compile]
  cases criteria.conditions lookup categories with
  | error error => simp [bind, Except.bind]
  | ok conditions => simp [bind, Except.bind, pure, Except.pure, eq_comm]

theorem limit_of_compile {page : Int} (compiled : criteria.compile lookup categories page pageSize = .ok query) :
    query.limit = pageSize := by
  obtain ⟨conditions, _, rfl⟩ := compile_eq_ok_iff.mp compiled
  rfl

/-- The queries for the pages of a search differ in their offset alone. -/
theorem compile_succ_eq_ok_iff {index : Nat} :
    criteria.compile lookup categories ((index + 1 : Nat) : Int) pageSize = .ok query ↔
      ∃ first, criteria.compile lookup categories 1 pageSize = .ok first ∧
        query = { first with offset := index * pageSize } := by
  have page : max ((index + 1 : Nat) : Int) 1 - 1 = index := by omega
  rw [compile_eq_ok_iff, page]
  constructor
  · rintro ⟨conditions, found, rfl⟩
    exact ⟨_, compile_eq_ok_iff.mpr ⟨conditions, found, rfl⟩, rfl⟩
  · rintro ⟨first, compiled, rfl⟩
    obtain ⟨conditions, found, rfl⟩ := compile_eq_ok_iff.mp compiled
    exact ⟨conditions, found, rfl⟩

/-- There is a condition of the years if one of the two filters holds a year. -/
theorem yearClause_eq_ok_iff {clause : Option Predicate} :
    criteria.yearClause = .ok clause ↔ ∃ lower upper, criteria.yearFrom.year? = .ok lower ∧
      criteria.yearTo.year? = .ok upper ∧
      clause = if lower.isNone && upper.isNone then none
        else some (.range "published_year" (.ofInt? lower) (.ofInt? upper)) := by
  rw [yearClause, bind_eq_ok_iff]
  constructor
  · rintro ⟨lower, first, later⟩
    obtain ⟨upper, last, found⟩ := bind_eq_ok_iff.mp later
    refine ⟨lower, upper, first, last, ?_⟩
    split at found <;> simp_all [pure, Except.pure]
  · rintro ⟨lower, upper, first, last, rfl⟩
    refine ⟨lower, first, bind_eq_ok_iff.mpr ⟨upper, last, ?_⟩⟩
    split <;> rfl

/-! ## The conditions -/

/-- The condition of the search box, where the text in it is known. -/
theorem textClause_of_searchText {text : Option String} (searched : criteria.query.searchText? = .ok text) :
    criteria.textClause = match (Token.whole? (text.getD "")).filter fun token => Field.isKnown token.field with
      | some token => Field.clause token.field token.value
      | none => .ok (if (Text.strip (text.getD "").toList).isEmpty then none
        else some (Field.freeText criteria.exactMatch.truthy (text.getD ""))) := by
  rw [textClause, searched]
  change (match (Token.whole? (text.getD "")).filter fun token => Field.isKnown token.field with
    | some token => Field.clause token.field token.value
    | none => if (Text.strip (text.getD "").toList).isEmpty then .ok none
        else .ok (some (Field.freeText criteria.exactMatch.truthy (text.getD "")))) = _
  split
  · rfl
  · split <;> rfl

/-- A search text that is one token of a known field is searched for by this field. -/
theorem textClause_of_whole {text : String} {token : Token} (whole : Token.whole? text = some token)
    (known : Field.isKnown token.field = true) (criteria : Criteria) :
    (criteria.set .query (.string text)).textClause = Field.clause token.field token.value := by
  have nonempty : text ≠ "" := by
    rintro rfl
    cases whole
  have searched : (criteria.set .query (.string text)).query.searchText? = .ok (some text) :=
    Value.searchText?_eq_some_iff.mpr ⟨nonempty, nofun, rfl⟩
  have kept : (some token).filter (fun token => Field.isKnown token.field) = some token :=
    Option.filter_some_pos known
  rw [textClause_of_searchText searched, Option.getD_some, whole, kept]

private theorem filterClause_eq_ok_iff {filter : Filter} {clause : Option Predicate} :
    criteria.filterClause filter = .ok clause ↔
      ∃ text, (criteria.get filter).searchText? = .ok text ∧ text.bind filter.textClause = clause := by
  rw [filterClause, bind_eq_ok_iff]
  exact exists_congr fun text => and_congr_right fun _ => ⟨Except.ok.inj, congrArg Except.ok⟩

/-- A filter makes a condition if it holds a text and the text restricts it. -/
theorem filterClause_eq_some_iff {filter : Filter} {clause : Predicate} :
    criteria.filterClause filter = .ok (some clause) ↔
      ∃ text, (criteria.get filter).searchText? = .ok (some text) ∧ filter.textClause text = some clause := by
  rw [filterClause_eq_ok_iff]
  constructor
  · rintro ⟨text, searched, made⟩
    obtain ⟨text, rfl, made⟩ := Option.bind_eq_some_iff.mp made
    exact ⟨text, searched, made⟩
  · rintro ⟨text, searched, made⟩
    exact ⟨some text, searched, made⟩

theorem mem_filterTexts_of_textClause {filter : Filter} {text : String} {clause : Predicate}
    (made : filter.textClause text = some clause) : filter ∈ Filter.texts := by
  cases filter with
  | language | fileType | publisher | genre | bookType | fictionType => decide
  | query | yearFrom | yearTo | exactMatch | sortBy => cases made

private theorem textClauses_eq_ok_iff {texts : List Predicate} :
    criteria.textClauses = .ok texts ↔
      ∃ found, Filter.texts.mapM criteria.filterClause = .ok found ∧ found.reduceOption = texts := by
  rw [textClauses, bind_eq_ok_iff]
  exact exists_congr fun found => and_congr_right fun _ => ⟨Except.ok.inj, congrArg Except.ok⟩

theorem mem_textClauses_iff {texts : List Predicate} (listed : criteria.textClauses = .ok texts) {clause : Predicate} :
    clause ∈ texts ↔ ∃ filter, criteria.filterClause filter = .ok (some clause) := by
  obtain ⟨found, looked, rfl⟩ := textClauses_eq_ok_iff.mp listed
  rw [List.reduceOption_mem_iff]
  constructor
  · intro member
    obtain ⟨filter, _, made⟩ := exists_of_mapM_eq_ok looked member
    exact ⟨filter, made⟩
  · rintro ⟨filter, made⟩
    obtain ⟨text, _, restricts⟩ := filterClause_eq_some_iff.mp made
    obtain ⟨result, member, same⟩ := exists_result_of_mapM_eq_ok looked (mem_filterTexts_of_textClause restricts)
    exact Except.ok.inj (same.symm.trans made) ▸ member

/-- The conditions are the one that drives the search, that of the years, those of the other filters and that of the
categories. -/
theorem conditions_eq_ok_iff {conditions : List Predicate} :
    criteria.conditions lookup categories = .ok conditions ↔
      ∃ primary years texts chosen, criteria.primaryClause lookup = .ok primary ∧ criteria.yearClause = .ok years ∧
        criteria.textClauses = .ok texts ∧ categoryClause categories = .ok chosen ∧
        conditions = primary.toList ++ (years.toList ++ texts) ++ chosen.toList := by
  rw [Criteria.conditions, refinements, bind_eq_ok_iff]
  constructor
  · rintro ⟨primary, driven, later⟩
    obtain ⟨refinements, refined, later⟩ := bind_eq_ok_iff.mp later
    obtain ⟨chosen, categorized, whole⟩ := bind_eq_ok_iff.mp later
    obtain ⟨years, bounded, listed⟩ := bind_eq_ok_iff.mp refined
    obtain ⟨texts, filtered, listed⟩ := bind_eq_ok_iff.mp listed
    cases listed
    cases whole
    exact ⟨primary, years, texts, chosen, driven, bounded, filtered, categorized, rfl⟩
  · rintro ⟨primary, years, texts, chosen, driven, bounded, filtered, categorized, rfl⟩
    refine ⟨primary, driven, bind_eq_ok_iff.mpr ⟨_, ?_, bind_eq_ok_iff.mpr ⟨chosen, categorized, rfl⟩⟩⟩
    exact bind_eq_ok_iff.mpr ⟨years, bounded, bind_eq_ok_iff.mpr ⟨texts, filtered, rfl⟩⟩

/-- The conditions of a query are the one that drives the search, that of the years, those of the other filters and
that of the categories. -/
theorem exists_clauses_of_compile {page : Int}
    (compiled : criteria.compile lookup categories page pageSize = .ok query) :
    ∃ primary years texts chosen, criteria.primaryClause lookup = .ok primary ∧ criteria.yearClause = .ok years ∧
      criteria.textClauses = .ok texts ∧ categoryClause categories = .ok chosen ∧
      ∀ clause, clause ∈ query.conditions ↔ clause ∈ primary ∨ clause ∈ years ∨ clause ∈ texts ∨ clause ∈ chosen := by
  obtain ⟨conditions, found, rfl⟩ := compile_eq_ok_iff.mp compiled
  obtain ⟨primary, years, texts, chosen, driven, bounded, filtered, categorized, rfl⟩ := conditions_eq_ok_iff.mp found
  refine ⟨primary, years, texts, chosen, driven, bounded, filtered, categorized, fun clause => ?_⟩
  simp only [List.mem_append, Option.mem_toList, Option.mem_def, or_assoc]

/-- What drives the search is a condition of its query: whatever row the query selects satisfies it. -/
theorem holds_primaryClause_of_compile {page : Int}
    (compiled : criteria.compile lookup categories page pageSize = .ok query) :
    ∃ clause, criteria.primaryClause lookup = .ok clause ∧
      ∀ columns, query.predicate.holds columns = .ok true → ∀ made ∈ clause, made.holds columns = .ok true := by
  obtain ⟨primary, _, _, _, driven, _, _, _, conditions⟩ := exists_clauses_of_compile compiled
  refine ⟨primary, driven, fun columns selected made member => ?_⟩
  exact Query.holds_iff.mp selected made ((conditions made).mpr (.inl member))

end Criteria

end CatalogSearch
