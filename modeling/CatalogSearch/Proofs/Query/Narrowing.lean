import CatalogSearch.Proofs.Predicate.Narrower
import CatalogSearch.Proofs.Query.Compile
import Mathlib.Data.List.TakeWhile

/-! # Narrower criteria

Setting a filter that held nothing, moving a bound of the years inwards and asking for equal texts all narrow the
criteria: a query selects no row under the new criteria that it did not select under the old ones. Each of the three
parts of a query that read the criteria, the condition that drives the search, the years and the other filters, is
narrowed on its own.
-/

namespace CatalogSearch

/-- A filter holds nothing that restricts a search: a blank text in the search box, no year, no text, or the word for
no restriction. Whether texts have to be equal and the sort key are always set. -/
def Filter.Unset : Filter → Value → Prop
  | .query, value => ∃ text, value.searchText? = .ok text ∧ (text.getD "").toList.all Text.isBlank = true
  | .yearFrom, value | .yearTo, value => value.year? = .ok none
  | .language, value | .fileType, value | .publisher, value | .genre, value => value.searchText? = .ok none
  | .bookType, value | .fictionType, value => ∃ text, value.searchText? = .ok text ∧ ∀ word ∈ text, word = "all"
  | .exactMatch, _ | .sortBy, _ => False

namespace Criteria

/-- One change of the criteria that restricts a search further. -/
inductive Narrows (criteria : Criteria) : Criteria → Prop where
  /-- A filter that was not set gets any value. -/
  | filled {filter : Filter} (unset : filter.Unset (criteria.get filter)) (value : Value) :
      Narrows criteria (criteria.set filter value)
  /-- The first year is raised. -/
  | later {value : Value} {old new : Int} (before : criteria.yearFrom.year? = .ok (some old))
      (after : value.year? = .ok (some new)) (le : old ≤ new) : Narrows criteria (criteria.set .yearFrom value)
  /-- The last year is lowered. -/
  | earlier {value : Value} {old new : Int} (before : criteria.yearTo.year? = .ok (some old))
      (after : value.year? = .ok (some new)) (le : new ≤ old) : Narrows criteria (criteria.set .yearTo value)
  /-- Texts have to be equal instead of containing each other. -/
  | exact {value : Value} (before : criteria.exactMatch.truthy = false) (after : value.truthy = true) :
      Narrows criteria (criteria.set .exactMatch value)

variable {criteria refined : Criteria}

/-! ## The condition that drives the search -/

theorem textClause_set_of_ne {filter : Filter} (box : filter ≠ .query) (mode : filter ≠ .exactMatch) (value : Value) :
    (criteria.set filter value).textClause = criteria.textClause := by
  cases filter with
  | query => exact absurd rfl box
  | exactMatch => exact absurd rfl mode
  | _ => rfl

private theorem textClause_of_unset (unset : Filter.query.Unset criteria.query) : criteria.textClause = .ok none := by
  obtain ⟨text, searched, blank⟩ := unset
  have start : Text.stripStart (text.getD "").toList = [] :=
    List.dropWhile_eq_nil_iff.mpr (List.all_eq_true.mp blank)
  have whole : Token.whole? (text.getD "") = none := by
    rw [Token.whole?, Token.wholeChars?, start]
    rfl
  simp only [textClause_of_searchText searched, whole, Option.filter_none, Text.strip, start, Text.stripEnd_nil,
    List.isEmpty_nil, if_true]

/-- Whether texts have to be equal matters for free text alone. -/
theorem textClause_exactMatch (criteria : Criteria) :
    (∃ text, ∀ mode, (criteria.set .exactMatch mode).textClause = .ok (some (Field.freeText mode.truthy text))) ∨
      ∀ mode, (criteria.set .exactMatch mode).textClause = criteria.textClause := by
  cases searched : criteria.query.searchText? with
  | error error =>
    right
    intro mode
    simp only [textClause, set, searched]
    rfl
  | ok text =>
    have still (mode : Value) : (criteria.set .exactMatch mode).query.searchText? = .ok text := searched
    cases driven : (Token.whole? (text.getD "")).filter fun token => Field.isKnown token.field with
    | some token =>
      right
      intro mode
      simp only [textClause_of_searchText searched, textClause_of_searchText (still mode), driven]
    | none =>
      cases blank : (Text.strip (text.getD "").toList).isEmpty with
      | true =>
        right
        intro mode
        simp only [textClause_of_searchText searched, textClause_of_searchText (still mode), driven, blank, if_true]
      | false =>
        left
        refine ⟨text.getD "", fun mode => ?_⟩
        simp only [textClause_of_searchText (still mode), driven, blank, Bool.false_eq_true, if_false]
        rfl

/-- What holds of a row cannot be refuted. -/
private theorem unrefuted_of_holds {clause : Predicate} {columns : String → Value}
    (holds : clause.holds columns = .ok true) : clause.holds columns ≠ .ok false :=
  fun refuted => by cases holds.symm.trans refuted

private theorem textClause_unrefuted_of_narrows {old new : Option Predicate} {columns : String → Value}
    (narrows : criteria.Narrows refined) (before : criteria.textClause = .ok old) (after : refined.textClause = .ok new)
    (satisfied : ∀ clause ∈ new, clause.holds columns = .ok true) :
    ∀ clause ∈ old, clause.holds columns ≠ .ok false := by
  have unchanged (same : refined.textClause = criteria.textClause) : old = new :=
    Except.ok.inj (before.symm.trans (same.symm.trans after))
  have kept (same : refined.textClause = criteria.textClause) : ∀ clause ∈ old, clause.holds columns ≠ .ok false := by
    rw [unchanged same]
    exact fun clause member => unrefuted_of_holds (satisfied clause member)
  cases narrows with
  | @filled filter unset value =>
    by_cases box : filter = .query
    · subst box
      cases before.symm.trans (textClause_of_unset unset)
      exact nofun
    · have mode : filter ≠ .exactMatch := by
        rintro rfl
        exact unset
      exact kept (textClause_set_of_ne box mode value)
  | later | earlier => exact kept (textClause_set_of_ne (by decide) (by decide) _)
  | @exact value substring equal =>
    rcases textClause_exactMatch criteria with ⟨text, free⟩ | same
    · have loose : criteria.textClause = .ok (some (Field.freeText false text)) := by
        rw [← substring]
        exact free criteria.exactMatch
      have strict := free value
      rw [equal] at strict
      cases before.symm.trans loose
      cases after.symm.trans strict
      rintro clause ⟨⟩
      exact Field.freeText_unrefuted_of_exact (satisfied _ rfl)
    · exact kept (same value)

/-- A lookup drives the search whatever the criteria are. -/
theorem primaryClause_unrefuted_of_narrows {lookup : Option Lookup} {old new : Option Predicate}
    {columns : String → Value} (narrows : criteria.Narrows refined) (before : criteria.primaryClause lookup = .ok old)
    (after : refined.primaryClause lookup = .ok new) (satisfied : ∀ clause ∈ new, clause.holds columns = .ok true) :
    ∀ clause ∈ old, clause.holds columns ≠ .ok false := by
  cases lookup with
  | none => exact textClause_unrefuted_of_narrows narrows before after satisfied
  | some lookup =>
    cases before.symm.trans after
    exact fun clause member => unrefuted_of_holds (satisfied clause member)

/-! ## The years -/

/-- A bound of the years that was there is still there, and no wider. -/
theorem bounds_of_narrows (narrows : criteria.Narrows refined) {lower upper least most : Option Int}
    (oldFirst : criteria.yearFrom.year? = .ok lower) (oldLast : criteria.yearTo.year? = .ok upper)
    (newFirst : refined.yearFrom.year? = .ok least) (newLast : refined.yearTo.year? = .ok most) :
    (∀ n ∈ lower, ∃ m ∈ least, n ≤ m) ∧ ∀ n ∈ upper, ∃ m ∈ most, m ≤ n := by
  have keptFirst (same : refined.yearFrom = criteria.yearFrom) : ∀ n ∈ lower, ∃ m ∈ least, n ≤ m := by
    intro n bound
    rw [same] at newFirst
    cases oldFirst.symm.trans newFirst
    exact ⟨n, bound, Int.le_refl n⟩
  have keptLast (same : refined.yearTo = criteria.yearTo) : ∀ n ∈ upper, ∃ m ∈ most, m ≤ n := by
    intro n bound
    rw [same] at newLast
    cases oldLast.symm.trans newLast
    exact ⟨n, bound, Int.le_refl n⟩
  cases narrows with
  | @filled filter unset value =>
    cases filter with
    | yearFrom =>
      cases oldFirst.symm.trans unset
      exact ⟨nofun, keptLast rfl⟩
    | yearTo =>
      cases oldLast.symm.trans unset
      exact ⟨keptFirst rfl, nofun⟩
    | _ => exact ⟨keptFirst rfl, keptLast rfl⟩
  | @later value old new before after le =>
    cases oldFirst.symm.trans before
    cases newFirst.symm.trans after
    refine ⟨?_, keptLast rfl⟩
    rintro n ⟨⟩
    exact ⟨new, rfl, le⟩
  | @earlier value old new before after le =>
    cases oldLast.symm.trans before
    cases newLast.symm.trans after
    refine ⟨keptFirst rfl, ?_⟩
    rintro n ⟨⟩
    exact ⟨new, rfl, le⟩
  | exact => exact ⟨keptFirst rfl, keptLast rfl⟩

private theorem holds_yearClause_of_narrows {old new : Option Predicate} {columns : String → Value}
    (narrows : criteria.Narrows refined) (before : criteria.yearClause = .ok old) (after : refined.yearClause = .ok new)
    (satisfied : ∀ clause ∈ new, clause.holds columns = .ok true) :
    ∀ clause ∈ old, clause.holds columns = .ok true := by
  obtain ⟨lower, upper, oldFirst, oldLast, rfl⟩ := yearClause_eq_ok_iff.mp before
  obtain ⟨least, most, newFirst, newLast, rfl⟩ := yearClause_eq_ok_iff.mp after
  obtain ⟨raised, lowered⟩ := bounds_of_narrows narrows oldFirst oldLast newFirst newLast
  intro clause here
  split at here
  · cases here
  · next bounded =>
    cases here
    have stillBounded : ¬(least.isNone && most.isNone) = true := by
      intro unbounded
      apply bounded
      rw [Bool.and_eq_true, Option.isNone_iff_eq_none, Option.isNone_iff_eq_none] at unbounded ⊢
      obtain ⟨rfl, rfl⟩ := unbounded
      constructor
      · exact Option.eq_none_iff_forall_not_mem.mpr fun n bound => nomatch raised n bound
      · exact Option.eq_none_iff_forall_not_mem.mpr fun n bound => nomatch lowered n bound
    rw [if_neg stillBounded] at satisfied
    exact congrArg Except.ok (Predicate.rangeHolds_of_narrower raised lowered (Except.ok.inj (satisfied _ rfl)))

/-! ## The other filters -/

/-- A filter that is not set makes no condition. -/
theorem filterClause_of_unset {filter : Filter} (unset : filter.Unset (criteria.get filter)) {clause : Predicate} :
    criteria.filterClause filter ≠ .ok (some clause) := by
  intro made
  obtain ⟨text, searched, restricts⟩ := filterClause_eq_some_iff.mp made
  have chosen (unset : ∃ text, (criteria.get filter).searchText? = .ok text ∧ ∀ word ∈ text, word = "all") :
      text = "all" := by
    obtain ⟨other, found, free⟩ := unset
    cases found.symm.trans searched
    exact free text rfl
  cases filter with
  | language | fileType | publisher | genre => cases unset.symm.trans searched
  | bookType | fictionType =>
    rw [chosen unset] at restricts
    cases restricts
  | query | yearFrom | yearTo | exactMatch | sortBy => cases restricts

/-- A change of a filter without a condition leaves the conditions of the others. -/
theorem textClauses_subset_set {filter : Filter} {value : Value} {old new : List Predicate}
    (free : ∀ clause, criteria.filterClause filter ≠ .ok (some clause)) (before : criteria.textClauses = .ok old)
    (after : (criteria.set filter value).textClauses = .ok new) : old ⊆ new := by
  intro clause here
  obtain ⟨other, found⟩ := (mem_textClauses_iff before).mp here
  have different : other ≠ filter := by
    rintro rfl
    exact free clause found
  refine (mem_textClauses_iff after).mpr ⟨other, ?_⟩
  rw [filterClause, get_set_of_ne criteria value different]
  exact found

/-- Years and modes make no condition that is compared as a text. -/
theorem filterClause_of_not_mem {filter : Filter} (other : filter ∉ Filter.texts) (clause : Predicate) :
    criteria.filterClause filter ≠ .ok (some clause) := by
  intro made
  obtain ⟨text, _, restricts⟩ := filterClause_eq_some_iff.mp made
  exact other (mem_filterTexts_of_textClause restricts)

private theorem textClauses_subset_of_narrows {old new : List Predicate} (narrows : criteria.Narrows refined)
    (before : criteria.textClauses = .ok old) (after : refined.textClauses = .ok new) : old ⊆ new := by
  cases narrows with
  | filled unset value => exact textClauses_subset_set (fun _ => filterClause_of_unset unset) before after
  | later | earlier | exact => exact textClauses_subset_set (filterClause_of_not_mem (by decide)) before after

/-! ## Queries -/

/-- Under narrower criteria a query selects no row that it did not select before, among the rows on which it had an
answer before, whatever drives the search, whatever categories are selected and whichever page is asked for. -/
theorem holds_of_narrows {criteria refined : Criteria} {lookup : Option Lookup} {categories : List Value}
    {page newPage pageSize : Int} {query narrowed : Query} (narrows : criteria.Narrows refined)
    (before : criteria.compile lookup categories page pageSize = .ok query)
    (after : refined.compile lookup categories newPage pageSize = .ok narrowed) {columns : String → Value}
    (decided : ∃ answer, query.predicate.holds columns = .ok answer)
    (selected : narrowed.predicate.holds columns = .ok true) : query.predicate.holds columns = .ok true := by
  obtain ⟨oldPrimary, oldYears, oldTexts, oldChosen, oldDriven, oldBounded, oldFiltered, oldCategorized, old⟩ :=
    exists_clauses_of_compile before
  obtain ⟨newPrimary, newYears, newTexts, newChosen, newDriven, newBounded, newFiltered, newCategorized, new⟩ :=
    exists_clauses_of_compile after
  have satisfied := Query.holds_iff.mp selected
  refine Query.holds_of_unrefuted decided fun clause member => ?_
  rcases (old clause).mp member with driven | bounded | filtered | chosen
  · refine primaryClause_unrefuted_of_narrows narrows oldDriven newDriven (fun other here => ?_) clause driven
    exact satisfied other ((new other).mpr (.inl here))
  · refine unrefuted_of_holds (holds_yearClause_of_narrows narrows oldBounded newBounded (fun other here => ?_)
      clause bounded)
    exact satisfied other ((new other).mpr (.inr (.inl here)))
  · have kept := textClauses_subset_of_narrows narrows oldFiltered newFiltered filtered
    exact unrefuted_of_holds (satisfied clause ((new clause).mpr (.inr (.inr (.inl kept)))))
  · cases oldCategorized.symm.trans newCategorized
    exact unrefuted_of_holds (satisfied clause ((new clause).mpr (.inr (.inr (.inr chosen)))))

/-- A title, no older than a year. -/
def titleCriteria : Criteria :=
  { query := .string "Dune", yearFrom := .string "1960" }

/-- The query for the title, for equal texts or for parts of them. -/
def titleQuery (exact : Bool) : Query where
  conditions := [Field.freeText exact "Dune", .range "published_year" (.int 1960) .null]
  sort := .newest
  offset := 0
  limit := 20

/-- Asked for equal texts, the search keeps the title and loses its sequel. -/
theorem holds_of_narrows_sequel :
    let narrower := titleCriteria.set .exactMatch (.bool true)
    let novel := Table.column [("title", .string "Dune"), ("published_year", .int 1965)]
    let sequel := Table.column [("title", .string "Dune Messiah"), ("published_year", .int 1969)]
    titleCriteria.Narrows narrower ∧
      titleCriteria.compile none [] 1 20 = .ok (titleQuery false) ∧
      narrower.compile none [] 1 20 = .ok (titleQuery true) ∧
      (titleQuery true).predicate.holds novel = .ok true ∧ (titleQuery false).predicate.holds novel = .ok true ∧
      (titleQuery true).predicate.holds sequel = .ok false ∧
      (titleQuery false).predicate.holds sequel = .ok true := by
  have narrows : titleCriteria.Narrows (titleCriteria.set .exactMatch (.bool true)) := .exact rfl rfl
  have before : titleCriteria.compile none [] 1 20 = .ok (titleQuery false) := rfl
  have after : (titleCriteria.set .exactMatch (.bool true)).compile none [] 1 20 = .ok (titleQuery true) := rfl
  intro narrower novel sequel
  have selected : (titleQuery true).predicate.holds novel = .ok true := by decide +kernel
  have decided : ∃ answer, (titleQuery false).predicate.holds novel = .ok answer := by
    refine Predicate.exists_holds _ fun name _ => Table.writable_column ?_ name
    simp only [List.forall_mem_cons]
    exact ⟨.string "Dune", .int (Number.writable_of_word (by decide) (by decide)), List.forall_mem_nil _⟩
  refine ⟨narrows, before, after, selected, holds_of_narrows narrows before after decided selected, ?_, ?_⟩
  · decide +kernel
  · decide +kernel

end Criteria

end CatalogSearch
