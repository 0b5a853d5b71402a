import CatalogSearch.Number.Whole
import Mathlib.Algebra.Group.Int.Defs
import Mathlib.Algebra.Group.Nat.Defs
import Mathlib.Data.List.Induction

/-! # How large the numbers in texts are

There is a bound on the digits of a whole number, and so on its size: every whole number that is read can be written
again with as many digits as a number may have.
-/

namespace CatalogSearch.Number

/-- A whole number that no more digits are needed for than a number may have. -/
def Writable (n : Int) : Prop :=
  n.natAbs < 10 ^ maxDigits

/-- The sign of a number takes no digit. -/
theorem writable_signed {n : Int} (negative : Bool) (writable : Writable n) :
    Writable (if negative then -n else n) := by
  cases negative with
  | true => rwa [if_pos rfl, Writable, Int.natAbs_neg]
  | false => exact writable

theorem writable_of_word {n : Int} (low : -(2 ^ 63 : Int) < n) (high : n < 2 ^ 63) : Writable n :=
  calc n.natAbs
    _ < 2 ^ 63 := by omega
    _ ≤ 10 ^ 63 := Nat.pow_le_pow_left (by decide) 63
    _ ≤ 10 ^ maxDigits := Nat.pow_le_pow_right (by decide) (by decide)

theorem ofDigits_concat (digits : List Nat) (last : Nat) :
    ofDigits (digits ++ [last]) = 10 * ofDigits digits + last := by
  simp [ofDigits]

theorem ofDigits_lt {digits : List Nat} (small : ∀ digit ∈ digits, digit < 10) :
    ofDigits digits < 10 ^ digits.length := by
  induction digits using List.reverseRecOn with
  | nil => decide
  | append_singleton front last ih =>
    have before := ih fun digit member => small digit (List.mem_append_left _ member)
    have here := small last (by simp)
    rw [ofDigits_concat, List.length_append, List.length_singleton, Nat.pow_succ]
    omega

theorem writable_ofDigits {digits : List Nat} (bounded : digits.length ≤ maxDigits)
    (small : ∀ digit ∈ digits, digit < 10) : Writable (ofDigits digits) :=
  Nat.lt_of_lt_of_le (ofDigits_lt small) (Nat.pow_le_pow_right (by decide) bounded)

theorem isDigit_sub_lt {c : Char} (digit : c.isDigit = true) : c.toNat - '0'.toNat < 10 := by
  obtain ⟨_, most⟩ := Char.isDigit_iff_toNat.mp digit
  exact Nat.sub_lt_left_of_lt_add (by assumption) (Nat.lt_succ_of_le most)

theorem writable_digitsValue {digits : List Char} (bounded : digits.length ≤ maxDigits)
    (ascii : ∀ c ∈ digits, c.isDigit = true) : Writable (digitsValue digits) := by
  refine writable_ofDigits (by rwa [List.length_map]) fun digit member => ?_
  obtain ⟨c, found, rfl⟩ := List.mem_map.mp member
  exact isDigit_sub_lt (ascii c found)

private theorem decimalValue?_lt {c : Char} {digit : Nat} (value : Text.decimalValue? c = some digit) : digit < 10 := by
  unfold Text.decimalValue? at value
  split at value
  · next ascii => exact Option.some.inj value ▸ isDigit_sub_lt ascii
  split at value
  · cases value
  · obtain ⟨first, found, rfl⟩ := Option.map_eq_some_iff.mp value
    have range := List.find?_some found
    simp only [Bool.and_eq_true, decide_eq_true_eq] at range
    omega

private theorem leadingDigits_lt (text : List Char) : ∀ digit ∈ (leadingDigits text).1, digit < 10 := by
  induction text with
  | nil => simp [leadingDigits]
  | cons c rest ih =>
    cases value : Text.decimalValue? c with
    | none => simp [leadingDigits, value]
    | some digit =>
      simp only [leadingDigits, value, List.mem_cons, forall_eq_or_imp]
      exact ⟨decimalValue?_lt value, ih⟩

theorem writable_readInteger {text : List Char} {n : Int} (read : readInteger text = .ok n) : Writable n := by
  unfold readInteger at read
  split at read
  next negative body _ =>
    dsimp only at read
    split at read
    · cases read
    next bounded =>
      split at read
      · cases read
      · cases read
        exact writable_signed negative (writable_ofDigits (Nat.not_lt.mp bounded) (leadingDigits_lt body))

private theorem writable_readPlain? {text : List Char} {n : Int} (read : readPlain? text = some n) : Writable n := by
  unfold readPlain? at read
  dsimp only at read
  split at read
  · cases read
  next digits =>
    split at read
    · cases read
    · cases read
      simp only [Bool.or_eq_true, Bool.not_eq_true', not_or, Bool.not_eq_false, List.all_eq_true, decide_eq_true_eq,
        Nat.not_lt] at digits
      exact writable_signed _ (writable_digitsValue digits.2 digits.1.2)

theorem writable_readLoose? {text : List Char} {n : Int} (read : readLoose? text = some n) : Writable n := by
  simp only [readLoose?, Option.bind_eq_bind, Option.bind_eq_some_iff] at read
  obtain ⟨body, _, plain⟩ := read
  split at plain
  · exact writable_readPlain? plain
  · cases plain

end CatalogSearch.Number
