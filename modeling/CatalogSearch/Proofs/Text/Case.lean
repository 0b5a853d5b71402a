import CatalogSearch.Text.Case

/-! # Letter case in ASCII

The small form of an ASCII text is that of its characters, one by one and whatever stands beside them.
-/

namespace CatalogSearch.Text

theorem toNat_lt_of_isAlpha {c : Char} (letter : c.isAlpha = true) : c.toNat < 128 := by
  have ranges : (decide (65 ≤ c.val ∧ c.val ≤ 90) || (decide (97 ≤ c.val) && decide (c.val ≤ 122))) = true := letter
  simp only [Bool.or_eq_true, Bool.and_eq_true, decide_eq_true_eq, UInt32.le_iff_toNat_le, UInt32.reduceToNat] at ranges
  change c.val.toNat < 128
  omega

/-- Only letters of ASCII become small letters of ASCII, as far as ASCII alone is changed. -/
theorem isAlpha_of_toLower {c : Char} (small : c.toLower.isLower = true) : c.isAlpha = true := by
  have either : c.isAlpha = (c.isUpper || c.isLower) := rfl
  rw [either, Bool.or_eq_true]
  by_cases upper : c.isUpper = true
  · exact .inl upper
  · have same : c.toLower = c := by
      apply dif_neg
      intro inside
      apply upper
      exact decide_eq_true inside
    rw [same] at small
    exact .inr small

theorem toList_toLower (text : String) : text.toLower.toList = text.toList.map Char.toLower :=
  String.toList_map

private theorem lowerFrom_of_ascii {text : List Char} (ascii : ∀ c ∈ text, c.toNat < 128) (before : List Char) :
    lowerFrom before text = text.map Char.toLower := by
  induction text generalizing before with
  | nil => rfl
  | cons c rest ih =>
    have small : c.toNat < 128 := ascii c List.mem_cons_self
    have sigma : c.toNat ≠ 0x3A3 := by omega
    have later := ih (fun other member => ascii other (List.mem_cons_of_mem c member)) (c :: before)
    rw [lowerFrom, if_neg sigma, lowerChar, if_pos small, later]
    rfl

theorem lower_of_ascii {text : String} (ascii : ∀ c ∈ text.toList, c.toNat < 128) : lower text = text.toLower := by
  apply String.toList_injective
  rw [lower, lowerChars, lowerFrom_of_ascii ascii, String.toList_ofList, toList_toLower]

/-- What is no letter stays where it is in small letters. -/
theorem mem_lowerFrom {c : Char} (ascii : c.toNat < 128) (same : c.toLower = c) {text : List Char} (member : c ∈ text)
    (before : List Char) : c ∈ lowerFrom before text := by
  induction text generalizing before with
  | nil => cases member
  | cons first rest ih =>
    rw [lowerFrom]
    rcases List.mem_cons.mp member with rfl | later
    · have sigma : c.toNat ≠ 0x3A3 := by omega
      rw [if_neg sigma, lowerChar, if_pos ascii, same]
      exact List.mem_append_left _ List.mem_cons_self
    · exact List.mem_append_right _ (ih later (first :: before))

end CatalogSearch.Text
