import CatalogSearch.Field.Basic
import CatalogSearch.Proofs.Predicate.Outcome

/-! # Conditions that imply each other

A value within a range of whole numbers is within every wider one, whatever kind of value it is. A text that equals
another one contains it, so that a search for equal texts finds no more than a search for parts of them.
-/

namespace CatalogSearch

namespace Number.Double

private theorem lessInt_eq_false_of_le {x : Double} {least n : Int} (le : n ≤ least) (above : x.lessInt least = false) :
    x.lessInt n = false := by
  cases x with
  | nan => rfl
  | infinite negative => exact above
  | finite negative significand exponent =>
    cases ratio : (finite negative significand exponent).toRatio? with
    | none => simp only [lessInt, ratio]
    | some fraction =>
      obtain ⟨num, den⟩ := fraction
      simp only [lessInt, ratio, decide_eq_false_iff_not, Int.not_lt] at above ⊢
      exact Int.le_trans (Int.mul_le_mul_of_nonneg_right le (Int.natCast_nonneg den)) above

private theorem greaterInt_eq_false_of_le {x : Double} {most n : Int} (le : most ≤ n)
    (below : x.greaterInt most = false) : x.greaterInt n = false := by
  cases x with
  | nan => rfl
  | infinite negative => exact below
  | finite negative significand exponent =>
    cases ratio : (finite negative significand exponent).toRatio? with
    | none => simp only [greaterInt, ratio]
    | some fraction =>
      obtain ⟨num, den⟩ := fraction
      simp only [greaterInt, ratio, decide_eq_false_iff_not, Int.not_lt] at below ⊢
      exact Int.le_trans below (Int.mul_le_mul_of_nonneg_right le (Int.natCast_nonneg den))

end Number.Double

namespace Value

/-! ## Ranges of whole numbers -/

private theorem Quantity.less_eq_false_of_le {quantity : Quantity} {least n : Int} (le : n ≤ least)
    (above : quantity.less (.whole least) = false) : quantity.less (.whole n) = false := by
  cases quantity with
  | whole m =>
    simp only [Quantity.less, decide_eq_false_iff_not] at above ⊢
    omega
  | real x => exact Number.Double.lessInt_eq_false_of_le le above

private theorem Quantity.greater_eq_false_of_le {quantity : Quantity} {most n : Int} (le : most ≤ n)
    (below : (Quantity.whole most).less quantity = false) : (Quantity.whole n).less quantity = false := by
  cases quantity with
  | whole m =>
    simp only [Quantity.less, decide_eq_false_iff_not] at below ⊢
    omega
  | real x => exact Number.Double.greaterInt_eq_false_of_le le below

private theorem less?_int (value : Value) (n : Int) : value.less? (.int n) = value.quantity?.map
    (·.less (.whole n)) := by
  cases value <;> simp [less?, quantity?]

private theorem int_less? (value : Value) (n : Int) : (Value.int n).less? value = value.quantity?.map
    ((Quantity.whole n).less ·) := by
  cases value <;> simp [less?, quantity?]

private theorem less?_int_of_le {value : Value} {least n : Int} (le : n ≤ least)
    (above : value.less? (.int least) = some false) : value.less? (.int n) = some false := by
  rw [less?_int] at above ⊢
  obtain ⟨quantity, counts, larger⟩ := Option.map_eq_some_iff.mp above
  rw [counts, Option.map_some, Quantity.less_eq_false_of_le le larger]

private theorem int_less?_of_le {value : Value} {most n : Int} (le : most ≤ n)
    (below : (Value.int most).less? value = some false) : (Value.int n).less? value = some false := by
  rw [int_less?] at below ⊢
  obtain ⟨quantity, counts, smaller⟩ := Option.map_eq_some_iff.mp below
  rw [counts, Option.map_some, Quantity.greater_eq_false_of_le le smaller]

/-! ## Texts -/

/-- Nothing but a text equals a text. -/
theorem eq_string_of_same {value : Value} {text : String} (same : value.same (.string text) = true) :
    value = .string text := by
  cases value with
  | string other => rw [eq_of_beq same]
  | null | bool | int | float | list | object => simp [Value.same, quantity?] at same

end Value

namespace Predicate

/-- A value is in a range exactly if it is there and on the right side of each bound. -/
theorem rangeHolds_ofInt?_iff {lower upper : Option Int} {actual : Value} :
    rangeHolds (.ofInt? lower) (.ofInt? upper) actual = true ↔ actual.isNull = false ∧
      (∀ n ∈ lower, actual.less? (.int n) = some false) ∧ ∀ n ∈ upper, (Value.int n).less? actual = some false := by
  cases lower <;> cases upper <;> simp [rangeHolds, Value.ofInt?, Value.isNull, and_assoc]

/-- A value in a range is in every range whose bounds are not narrower. -/
theorem rangeHolds_of_narrower {lower upper least most : Option Int} {actual : Value}
    (raised : ∀ n ∈ lower, ∃ m ∈ least, n ≤ m) (lowered : ∀ n ∈ upper, ∃ m ∈ most, m ≤ n)
    (inside : rangeHolds (.ofInt? least) (.ofInt? most) actual = true) :
    rangeHolds (.ofInt? lower) (.ofInt? upper) actual = true := by
  rw [rangeHolds_ofInt?_iff] at inside ⊢
  obtain ⟨given, above, below⟩ := inside
  refine ⟨given, fun n bound => ?_, fun n bound => ?_⟩
  · obtain ⟨m, tighter, le⟩ := raised n bound
    exact Value.less?_int_of_le le (above m tighter)
  · obtain ⟨m, tighter, le⟩ := lowered n bound
    exact Value.int_less?_of_le le (below m tighter)

/-- A text occurs in every value that equals it. -/
theorem likeHolds_of_same {text : String} {actual : Value} (same : actual.same (.string text) = true) :
    likeHolds text actual = .ok true := by
  obtain rfl := Value.eq_string_of_same same
  have whole : occursFolded text text = true := Text.occursIn_iff.mpr (List.infix_refl _)
  change Except.ok (occursFolded text text) = _
  rw [whole]

end Predicate

/-- What equals a text in one of the search columns contains it there, and so cannot contain it nowhere. -/
theorem Field.freeText_unrefuted_of_exact {text : String} {columns : String → Value}
    (equal : (freeText true text).holds columns = .ok true) : (freeText false text).holds columns ≠ .ok false := by
  intro refuted
  obtain ⟨_, member, same⟩ := Predicate.exists_of_holdsAny_eq_true equal
  obtain ⟨column, searched, rfl⟩ := List.mem_map.mp member
  have missed := Predicate.holdsAny_eq_false_iff.mp refuted (.like column text)
    (List.mem_map.mpr ⟨column, searched, rfl⟩)
  cases (Predicate.likeHolds_of_same (Except.ok.inj same)).symm.trans missed

end CatalogSearch
