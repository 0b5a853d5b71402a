import CatalogSearch.Catalog.Registry
import CatalogSearch.Proofs.Number.Exact

/-! # Scores as numbers

A plugin is sure enough of a file if its score is one half or more. A number that a plugin answers is on the same side
of that bound as the score that it becomes, unless it is too large for a score.
-/

namespace CatalogSearch

open Number (Double)

/-- The exact number that a value is, if it is one. -/
def Value.number? : Value → Option ℚ
  | .float x => x.toRat?
  | .int n => some n
  | .bool b => some (if b then 1 else 0)
  | .null | .string _ | .list _ | .object _ => none

namespace Registry

theorem toRat?_threshold : threshold.toRat? = some (1 / 2) := by
  have half : threshold = .finite false 4503599627370496 (-53) := rfl
  rw [half, Double.toRat?_finite]
  norm_num

/-- A score is high enough exactly if its value is one half or more. -/
theorem isSure_iff {score : Double} {value : ℚ} (exact : score.toRat? = some value) :
    isSure score = true ↔ 1 / 2 ≤ value := by
  rw [isSure, Bool.or_eq_true, Double.less_iff toRat?_threshold exact, Double.same_iff toRat?_threshold exact]
  exact le_iff_lt_or_eq.symm

end Registry

namespace Plugin

/-- A whole number beyond the greatest score. -/
def TooLarge (answer : Value) : Prop :=
  ∃ n, answer = .int n ∧ Double.ofInt? n = none

theorem scoreOf_of_tooLarge {answer : Value} (large : TooLarge answer) : scoreOf answer = .error .tooLarge := by
  obtain ⟨n, rfl, beyond⟩ := large
  rw [scoreOf, beyond]

/-- A number that is not too large becomes a score on its side of one half. -/
theorem exists_scoreOf {answer : Value} {value : ℚ} (number : answer.number? = some value) (fits : ¬TooLarge answer) :
    ∃ score, scoreOf answer = .ok score ∧ (Registry.isSure score = true ↔ 1 / 2 ≤ value) := by
  cases answer with
  | float x => exact ⟨x, rfl, Registry.isSure_iff number⟩
  | int n =>
    obtain rfl := Option.some.inj number
    cases found : Double.ofInt? n with
    | none => exact absurd ⟨n, rfl, found⟩ fits
    | some score =>
      obtain ⟨rounded, exact, side⟩ := Double.exists_toRat?_of_ofInt? found
      refine ⟨score, by rw [scoreOf, found], ?_⟩
      rw [Registry.isSure_iff exact, side]
  | bool b =>
    obtain rfl := Option.some.inj number
    have one : (Double.ofDecimal false 1 0).toRat? = some 1 := by
      have normal : Double.ofDecimal false 1 0 = .finite false 4503599627370496 (-52) := rfl
      rw [normal, Double.toRat?_finite]
      norm_num
    cases b with
    | false => exact ⟨_, rfl, Registry.isSure_iff (Double.toRat?_zero false)⟩
    | true => exact ⟨_, rfl, Registry.isSure_iff one⟩
  | null | string | list | object => cases number

end Plugin

end CatalogSearch
