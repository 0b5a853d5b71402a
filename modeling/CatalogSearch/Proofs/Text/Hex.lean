import CatalogSearch.Text.Hex

/-! # Hexadecimal digits of numbers

A padded number is written digit by digit, and each digit has its value.
-/

namespace CatalogSearch.Text

theorem hexValue?_digitChar {digit : Nat} (small : digit < 16) : hexValue? digit.digitChar = some digit := by
  revert digit
  decide

private theorem hexPadded_one {n : Nat} (small : n < 16) : hexPadded 1 n = [n.digitChar] := by
  rw [hexPadded, Nat.toDigits_of_lt_base small]
  rfl

/-- The last digit of a padded number stands behind those of its sixteenth. -/
theorem hexPadded_succ (width n : Nat) :
    hexPadded (width + 2) n = hexPadded (width + 1) (n / 16) ++ [(n % 16).digitChar] := by
  unfold hexPadded
  by_cases small : n < 16
  · rw [Nat.toDigits_of_lt_base small, Nat.div_eq_of_lt small, Nat.mod_eq_of_lt small, Nat.toDigits_zero]
    simp [List.replicate_succ']
  · rw [Nat.toDigits_of_base_le (by decide) (Nat.not_lt.mp small)]
    simp

theorem hexPadded_four {n : Nat} (small : n < 0x10000) :
    hexPadded 4 n = [(n / 16 / 16 / 16).digitChar, (n / 16 / 16 % 16).digitChar, (n / 16 % 16).digitChar,
      (n % 16).digitChar] := by
  rw [hexPadded_succ, hexPadded_succ, hexPadded_succ, hexPadded_one (by omega)]
  rfl

end CatalogSearch.Text
