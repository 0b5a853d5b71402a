import CatalogSearch.Field.Basic
import CatalogSearch.Filter.Criteria
import CatalogSearch.Link.Value
import CatalogSearch.Token.Basic

/-! # Compiling criteria

The query for a page of results under some criteria. Its conditions are the text condition, the conditions
of the filter panel in a fixed order, and the selected categories as one alternative. Filters that hold
nothing usable add no condition. There is no query where a value that is compared as a text has none.
-/

namespace CatalogSearch

open Number (IntegerError)

namespace SortOrder

def newest : SortOrder :=
  ⟨"created_at", .descending⟩

/-- The order for each sort key; the newest first for all others. -/
def ofKey : Value → SortOrder
  | .string "title_asc" => ⟨"title", .ascending⟩
  | .string "title_desc" => ⟨"title", .descending⟩
  | .string "year" => ⟨"published_date", .descending⟩
  | _ => newest

end SortOrder

/-- The filters that are compared as texts, in the order of their conditions. -/
def Filter.texts : List Filter :=
  [.language, .fileType, .publisher, .genre, .bookType, .fictionType]

/-- The condition of a filter that is compared as a text. Where one of two things is chosen, the word "all" stands
for no restriction. -/
def Filter.textClause : Filter → String → Option Predicate
  | .language, text => some (.eq "language" (.string text))
  | .fileType, text => some (Field.formatClause text)
  | .publisher, text => some (.like "publisher" text)
  | .genre, text => some (Field.genreClause text)
  | .bookType, text => if text = "all" then none else some (.eq "type" (.string text))
  | .fictionType, text => if text = "all" then none else some (.eq "fiction_type" (.string text))
  | .query, _ | .yearFrom, _ | .yearTo, _ | .exactMatch, _ | .sortBy, _ => none

namespace Criteria

/-- The condition of the search box: a whole token of a known field, else the text itself. -/
def textClause (criteria : Criteria) : Except IntegerError (Option Predicate) := do
  let text := (← criteria.query.searchText?).getD ""
  match (Token.whole? text).filter fun token => Field.isKnown token.field with
  | some token => Field.clause token.field token.value
  | none =>
    if (Text.strip text.toList).isEmpty then return none
    else return some (Field.freeText criteria.exactMatch.truthy text)

/-- The condition that drives the search: a lookup, where there is one, replaces the search box. -/
def primaryClause (criteria : Criteria) : Option Lookup → Except IntegerError (Option Predicate)
  | some lookup => Field.clause lookup.field (Link.sanitize lookup.value)
  | none => criteria.textClause

def yearClause (criteria : Criteria) : Except IntegerError (Option Predicate) := do
  let lower ← criteria.yearFrom.year?
  let upper ← criteria.yearTo.year?
  if lower.isNone && upper.isNone then return none
  return some (.range "published_year" (.ofInt? lower) (.ofInt? upper))

def filterClause (criteria : Criteria) (filter : Filter) : Except IntegerError (Option Predicate) := do
  return (← (criteria.get filter).searchText?).bind filter.textClause

def textClauses (criteria : Criteria) : Except IntegerError (List Predicate) := do
  return (← Filter.texts.mapM criteria.filterClause).reduceOption

def refinements (criteria : Criteria) : Except IntegerError (List Predicate) := do
  let years ← criteria.yearClause
  let texts ← criteria.textClauses
  return years.toList ++ texts

/-- One of the labels is a category; no labels make no condition. -/
def anyCategory : List String → Option Predicate
  | [] => none
  | labels => some (.anyOf (labels.map (.contains "categories")))

/-- One of the selected categories; labels without text are left out. -/
def categoryClause (categories : List Value) : Except IntegerError (Option Predicate) := do
  let labels ← categories.mapM Value.searchText?
  return anyCategory labels.reduceOption

def conditions (criteria : Criteria) (lookup : Option Lookup) (categories : List Value) :
    Except IntegerError (List Predicate) := do
  let primary ← criteria.primaryClause lookup
  let refinements ← criteria.refinements
  let chosen ← categoryClause categories
  return primary.toList ++ refinements ++ chosen.toList

/-- The query for a page, counted from one; a lower number means the first page. -/
def compile (criteria : Criteria) (lookup : Option Lookup) (categories : List Value) (page pageSize : Int) :
    Except IntegerError Query := do
  let conditions ← criteria.conditions lookup categories
  return {
    conditions
    sort := .ofKey criteria.sortBy
    offset := (max page 1 - 1) * pageSize
    limit := pageSize }

end Criteria

end CatalogSearch
