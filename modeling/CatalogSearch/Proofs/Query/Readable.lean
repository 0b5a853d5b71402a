import CatalogSearch.Proofs.Query.Compile
import CatalogSearch.Proofs.Value.Year

/-! # When criteria have a query

Criteria have a query unless one of two things stands in the way. One is a misleading text that is read as a year, be
it a year filter or what drives the search: a lookup, or a search text that is a single token. The other one is a value
that is compared as a text and has none, for it holds a whole number of too many digits: one of the filters, the search
box where it is read, or a label. Everything else that is no year is left out, and the page does not matter.
-/

namespace CatalogSearch

/-- Whether a field, named in any letter case, is looked up by year. -/
def Field.isYear (name : String) : Bool :=
  match Field.find? name with
  | some ⟨_, .year _⟩ => true
  | _ => false

private theorem Field.exists_clause_iff {name value : String} :
    (∃ clause, Field.clause name value = .ok clause) ↔
      (Field.isYear name = true → ¬Value.Misleading value) := by
  rw [Field.isYear, Field.clause]
  cases Field.find? name with
  | none => simp
  | some field =>
    obtain ⟨_, rule⟩ := field
    cases rule with
    | year column =>
      rw [← Value.exists_yearOfText?_iff]
      cases read : Value.yearOfText? value <;> simp [Field.ruleClause, read, Except.map]
    | substring | exact | format | genre => simp [Field.ruleClause]

/-- A lookup by a year that is none makes no condition. -/
theorem Field.clause_of_noYear {name value : String} (year : Field.isYear name = true)
    (unusable : (Value.string value).NoYear) (clear : ¬Value.Misleading value) :
    Field.clause name value = .ok none := by
  have read : Value.yearOfText? value = .ok none := unusable.year? fun text same => by
    cases same
    exact clear
  rw [Field.isYear] at year
  split at year
  · next found => simp only [Field.clause, found, Field.ruleClause, read, Except.map, Option.map_none]
  · cases year

namespace Criteria

variable {criteria : Criteria} {lookup : Option Lookup} {categories : List Value}

/-- The field and the value that drive the search: those of the lookup, or those of a search text that is nothing
but one token of a known field. -/
def driver? (criteria : Criteria) : Option Lookup → Except Number.IntegerError (Option Lookup)
  | some lookup => .ok (some ⟨lookup.field, Link.sanitize lookup.value⟩)
  | none => do
    let text := (← criteria.query.searchText?).getD ""
    return ((Token.whole? text).filter fun token => Field.isKnown token.field).map fun token =>
      ⟨token.field, token.value⟩

/-- The texts that years are read from. -/
inductive ReadsYear (criteria : Criteria) (lookup : Option Lookup) : String → Prop where
  | lower {text : String} (here : criteria.yearFrom = .string text) : ReadsYear criteria lookup text
  | upper {text : String} (here : criteria.yearTo = .string text) : ReadsYear criteria lookup text
  | driver {found : Lookup} (drives : criteria.driver? lookup = .ok (some found))
      (year : Field.isYear found.field = true) : ReadsYear criteria lookup found.value

/-- The values that are compared as texts. The search box is not read where there is a lookup. -/
inductive ReadsText (criteria : Criteria) (lookup : Option Lookup) (categories : List Value) : Value → Prop where
  | query (direct : lookup = none) : ReadsText criteria lookup categories criteria.query
  | filter {filter : Filter} (compared : filter ∈ Filter.texts) :
      ReadsText criteria lookup categories (criteria.get filter)
  | label {label : Value} (chosen : label ∈ categories) : ReadsText criteria lookup categories label

theorem primaryClause_of_driver {found : Lookup} (drives : criteria.driver? lookup = .ok (some found)) :
    criteria.primaryClause lookup = Field.clause found.field found.value := by
  cases lookup with
  | some lookup =>
    cases drives
    rfl
  | none =>
    obtain ⟨text, searched, same⟩ := bind_eq_ok_iff.mp drives
    obtain ⟨token, whole, rfl⟩ := Option.map_eq_some_iff.mp (Except.ok.inj same)
    simp only [primaryClause, textClause_of_searchText searched, whole]

private theorem exists_primaryClause_of_undriven (undriven : criteria.driver? lookup = .ok none) :
    ∃ clause, criteria.primaryClause lookup = .ok clause := by
  cases lookup with
  | some lookup => cases undriven
  | none =>
    obtain ⟨text, searched, same⟩ := bind_eq_ok_iff.mp undriven
    have plain := Option.map_eq_none_iff.mp (Except.ok.inj same)
    simp only [primaryClause, textClause_of_searchText searched, plain]
    exact ⟨_, rfl⟩

/-- It is known what drives the search if a search box that is read has a text. -/
theorem exists_driver?_iff :
    (∃ found, criteria.driver? lookup = .ok found) ↔ (lookup = none → criteria.query.Writable) := by
  cases lookup with
  | some lookup => exact iff_of_true ⟨_, rfl⟩ nofun
  | none =>
    rw [driver?, exists_bind_pure_eq_ok_iff, Value.exists_searchText?_iff]
    exact (true_imp_iff.symm.trans (imp_congr_left (eq_self_iff_true none).symm))

private theorem primaryClause_of_error {error : Number.IntegerError} (failed : criteria.driver? lookup = .error error) :
    criteria.primaryClause lookup = .error error := by
  cases lookup with
  | some lookup => cases failed
  | none =>
    rcases bind_eq_error_iff.mp failed with unread | ⟨_, _, none⟩
    · exact bind_eq_error_iff.mpr (.inl unread)
    · cases none

private theorem exists_primaryClause_iff :
    (∃ clause, criteria.primaryClause lookup = .ok clause) ↔
      (lookup = none → criteria.query.Writable) ∧
        ∀ found, criteria.driver? lookup = .ok (some found) → Field.isYear found.field = true →
          ¬Value.Misleading found.value := by
  rw [← exists_driver?_iff]
  cases drives : criteria.driver? lookup with
  | error error => simp [primaryClause_of_error drives]
  | ok found =>
    cases found with
    | none => simpa using exists_primaryClause_of_undriven drives
    | some found => simp [primaryClause_of_driver drives, Field.exists_clause_iff]

private theorem exists_yearClause_iff :
    (∃ clause, criteria.yearClause = .ok clause) ↔
      (∃ lower, criteria.yearFrom.year? = .ok lower) ∧ ∃ upper, criteria.yearTo.year? = .ok upper := by
  constructor
  · rintro ⟨clause, bounded⟩
    obtain ⟨lower, upper, first, last, _⟩ := yearClause_eq_ok_iff.mp bounded
    exact ⟨⟨lower, first⟩, upper, last⟩
  · rintro ⟨⟨lower, first⟩, upper, last⟩
    exact ⟨_, yearClause_eq_ok_iff.mpr ⟨lower, upper, first, last, rfl⟩⟩

private theorem exists_textClauses_iff :
    (∃ texts, criteria.textClauses = .ok texts) ↔ ∀ filter ∈ Filter.texts, (criteria.get filter).Writable := by
  rw [textClauses, exists_bind_pure_eq_ok_iff, exists_mapM_eq_ok_iff]
  refine forall₂_congr fun filter _ => ?_
  rw [filterClause, exists_bind_pure_eq_ok_iff, Value.exists_searchText?_iff]

theorem exists_categoryClause_iff :
    (∃ clause, categoryClause categories = .ok clause) ↔ ∀ label ∈ categories, label.Writable := by
  rw [categoryClause, exists_bind_pure_eq_ok_iff, exists_mapM_eq_ok_iff]
  exact forall₂_congr fun label _ => Value.exists_searchText?_iff

private theorem exists_conditions_iff :
    (∃ conditions, criteria.conditions lookup categories = .ok conditions) ↔
      (∃ clause, criteria.primaryClause lookup = .ok clause) ∧ (∃ clause, criteria.yearClause = .ok clause) ∧
        (∃ texts, criteria.textClauses = .ok texts) ∧ ∃ clause, categoryClause categories = .ok clause := by
  constructor
  · rintro ⟨conditions, found⟩
    obtain ⟨primary, years, texts, chosen, driven, bounded, filtered, categorized, _⟩ := conditions_eq_ok_iff.mp found
    exact ⟨⟨primary, driven⟩, ⟨years, bounded⟩, ⟨texts, filtered⟩, chosen, categorized⟩
  · rintro ⟨⟨primary, driven⟩, ⟨years, bounded⟩, ⟨texts, filtered⟩, chosen, categorized⟩
    exact ⟨_, conditions_eq_ok_iff.mpr
      ⟨primary, years, texts, chosen, driven, bounded, filtered, categorized, rfl⟩⟩

private theorem exists_compile_iff {page pageSize : Int} :
    (∃ query, criteria.compile lookup categories page pageSize = .ok query) ↔
      (∀ text, criteria.ReadsYear lookup text → ¬Value.Misleading text) ∧
        ∀ value, criteria.ReadsText lookup categories value → value.Writable := by
  rw [compile, exists_bind_pure_eq_ok_iff, exists_conditions_iff, exists_primaryClause_iff,
    exists_yearClause_iff, Value.exists_year?_iff, Value.exists_year?_iff, exists_textClauses_iff,
    exists_categoryClause_iff]
  constructor
  · rintro ⟨⟨searched, driven⟩, ⟨lower, upper⟩, filtered, categorized⟩
    constructor
    · intro text reads
      cases reads with
      | lower here => exact lower text here
      | upper here => exact upper text here
      | driver drives year => exact driven _ drives year
    · intro value reads
      cases reads with
      | query direct => exact searched direct
      | filter compared => exact filtered _ compared
      | label chosen => exact categorized value chosen
  · rintro ⟨clear, written⟩
    exact ⟨⟨fun direct => written _ (.query direct), fun found drives year => clear _ (.driver drives year)⟩,
      ⟨fun text here => clear text (.lower here), fun text here => clear text (.upper here)⟩,
      fun filter compared => written _ (.filter compared), fun label chosen => written label (.label chosen)⟩

private theorem compile_set_of_noYear {filter : Filter} {value : Value} (bound : filter = .yearFrom ∨ filter = .yearTo)
    (unusable : value.NoYear) (clear : ∀ text, value = .string text → ¬Value.Misleading text) (page pageSize : Int) :
    (criteria.set filter value).compile lookup categories page pageSize =
      (criteria.set filter .null).compile lookup categories page pageSize := by
  have read : value.year? = Value.null.year? := unusable.year? clear
  have same : (criteria.set filter value).yearClause = (criteria.set filter .null).yearClause := by
    rcases bound with rfl | rfl <;> simp only [yearClause, set, read]
  unfold compile conditions refinements
  rw [same]
  rcases bound with rfl | rfl <;> rfl

private theorem compile_of_noYear {found : Lookup} (drives : criteria.driver? lookup = .ok (some found))
    (year : Field.isYear found.field = true) (unusable : (Value.string found.value).NoYear)
    (clear : ¬Value.Misleading found.value) (page pageSize : Int) :
    criteria.compile lookup categories page pageSize =
      (criteria.set .query .null).compile none categories page pageSize := by
  have same : criteria.primaryClause lookup = (criteria.set .query .null).primaryClause none := by
    rw [primaryClause_of_driver drives, Field.clause_of_noYear year unusable clear]
    rfl
  unfold compile conditions
  rw [same]
  rfl

/-- Criteria of any values have a query for any page, unless a misleading text is read as a year or a value that is
compared as a text holds a whole number of too many digits. Other values that are no years are left out: in a year
filter they count as null, and where they drive the search nothing is searched for. -/
theorem compile_returns_iff (criteria : Criteria) (lookup : Option Lookup) (categories : List Value)
    (page pageSize : Int) :
    ((∃ query, criteria.compile lookup categories page pageSize = .ok query) ↔
      (∀ text, criteria.ReadsYear lookup text → ¬Value.Misleading text) ∧
        ∀ value, criteria.ReadsText lookup categories value → value.Writable) ∧
    (∀ filter, filter = .yearFrom ∨ filter = .yearTo → ∀ value : Value, value.NoYear →
      (∀ text, value = .string text → ¬Value.Misleading text) →
        (criteria.set filter value).compile lookup categories page pageSize =
          (criteria.set filter .null).compile lookup categories page pageSize) ∧
    ∀ found, criteria.driver? lookup = .ok (some found) → Field.isYear found.field = true →
      (Value.string found.value).NoYear → ¬Value.Misleading found.value →
        criteria.compile lookup categories page pageSize =
          (criteria.set .query .null).compile none categories page pageSize := by
  refine ⟨exists_compile_iff, fun filter bound value unusable clear => ?_, fun found drives year unusable clear => ?_⟩
  · exact compile_set_of_noYear bound unusable clear page pageSize
  · exact compile_of_noYear drives year unusable clear page pageSize

/-- A power of ten that takes more digits than a number may have. -/
private theorem not_writable_pow {zeros : Nat} (long : Number.maxDigits ≤ zeros) :
    ¬(Value.int (10 ^ zeros)).Writable := by
  intro writable
  cases writable with
  | int digits =>
    have power : (10 ^ zeros : Int).natAbs = 10 ^ zeros := Int.natAbs_pow 10 zeros
    rw [Number.Writable, power] at digits
    exact Nat.not_lt.mpr (Nat.pow_le_pow_right (by decide) long) digits

/-- A year that is a word is left out. A superscript is not, and neither is a lookup by a year with two signs. A number
of too many digits is no language and no label, not even inside a list, but it is a year. -/
theorem compile_returns_iff_superscript :
    ({ yearTo := .string "soon" } : Criteria).compile none [] 1 20 = ({} : Criteria).compile none [] 1 20 ∧
      (¬∃ query, ({ yearFrom := .string "²", yearTo := .string "soon" } : Criteria).compile none [] 1 20 = .ok query) ∧
      (¬∃ query, ({} : Criteria).compile (some ⟨"Year", "--5"⟩) [] 1 20 = .ok query) ∧
      (¬∃ query, ({ language := .int (10 ^ Number.maxDigits) } : Criteria).compile none [] 1 20 = .ok query) ∧
      (¬∃ query, ({} : Criteria).compile none [.list [.int (10 ^ Number.maxDigits)]] 1 20 = .ok query) ∧
      ∃ query, ({ yearFrom := .int (10 ^ Number.maxDigits) } : Criteria).compile none [] 1 20 = .ok query := by
  have word : (Value.string "soon").NoYear := by
    refine ⟨nofun, fun text same => ?_⟩
    cases same
    decide
  have clear : ∀ text, Value.string "soon" = .string text → ¬Value.Misleading text := by
    intro text same
    cases same
    decide
  refine ⟨?_, fun returns => ?_, fun returns => ?_, fun returns => ?_, fun returns => ?_, ?_⟩
  · exact (compile_returns_iff {} none [] 1 20).2.1 .yearTo (.inr rfl) (.string "soon") word clear
  · have allowed :=
      (compile_returns_iff { yearFrom := .string "²", yearTo := .string "soon" } none [] 1 20).1.mp returns
    exact absurd (by decide) (allowed.1 "²" (.lower rfl))
  · have allowed := (compile_returns_iff {} (some ⟨"Year", "--5"⟩) [] 1 20).1.mp returns
    have drives : ({} : Criteria).driver? (some ⟨"Year", "--5"⟩) = .ok (some ⟨"Year", "--5"⟩) := by decide
    exact absurd (by decide) (allowed.1 "--5" (.driver drives (by decide)))
  · have allowed := (compile_returns_iff { language := .int (10 ^ Number.maxDigits) } none [] 1 20).1.mp returns
    exact not_writable_pow (Nat.le_refl _) (allowed.2 _ (.filter (by decide : Filter.language ∈ Filter.texts)))
  · have allowed := (compile_returns_iff {} none [.list [.int (10 ^ Number.maxDigits)]] 1 20).1.mp returns
    exact not_writable_pow (Nat.le_refl _) ((allowed.2 _ (.label List.mem_cons_self)).items _ List.mem_cons_self)
  · refine (compile_returns_iff { yearFrom := .int (10 ^ Number.maxDigits) } none [] 1 20).1.mpr ⟨?_, ?_⟩
    · rintro text (here | here | ⟨drives, _⟩)
      · cases here
      · cases here
      · cases drives
    · rintro value (_ | compared | chosen)
      · exact .string ""
      · next filter =>
        cases filter with
        | yearFrom | yearTo | query | exactMatch | sortBy => exact absurd compared (by decide)
        | language | fileType | publisher | genre | fictionType => exact .null
        | bookType => exact .string "all"
      · cases chosen

/-- Not all criteria have a query: a superscript in a year filter stands in the way. -/
theorem compile_refuses_superscript :
    ¬∀ (criteria : Criteria) (lookup : Option Lookup) (categories : List Value) (page pageSize : Int),
      ∃ query, criteria.compile lookup categories page pageSize = .ok query := by
  intro always
  obtain ⟨query, compiled⟩ := always { yearFrom := .string "²" } none [] 1 20
  have refused : ({ yearFrom := .string "²" } : Criteria).compile none [] 1 20 = .error (.notANumber "²") := rfl
  cases refused.symm.trans compiled

end Criteria

end CatalogSearch
