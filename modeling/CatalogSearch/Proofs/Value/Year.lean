import CatalogSearch.Value.Year

/-! # Texts that are read as years

A text is tried as a number when it consists of minus signs and digits of any kind. Only a part of such texts
are numerals: there may be one minus sign at most, every digit has to have a decimal value, and there is a bound
on their count. What is in between, such as a superscript or a doubled minus sign, is not left out as other
texts are but refused.
-/

namespace CatalogSearch

namespace Number

/-- Decimal digits of any script, at least one and no more than a number may have. -/
structure Digits (text : List Char) : Prop where
  nonempty : text ≠ []
  bounded : text.length ≤ maxDigits
  decimal : ∀ c ∈ text, (Text.decimalValue? c).isSome = true

/-- The numerals: digits, with one minus sign at most. -/
def Numeral (text : List Char) : Prop :=
  ∃ digits, Digits digits ∧ (text = digits ∨ text = '-' :: digits)

theorem leadingDigits_of_decimal {text : List Char} (decimal : ∀ c ∈ text, (Text.decimalValue? c).isSome = true) :
    (leadingDigits text).1.length = text.length ∧ (leadingDigits text).2 = [] := by
  induction text with
  | nil => exact ⟨rfl, rfl⟩
  | cons c rest ih =>
    obtain ⟨digit, value⟩ := Option.isSome_iff_exists.mp (decimal c List.mem_cons_self)
    obtain ⟨length, tail⟩ := ih fun other member => decimal other (List.mem_cons_of_mem c member)
    simp only [leadingDigits, value, List.length_cons, length, tail, and_self]

private theorem decimal_of_leadingDigits {text : List Char} (whole : (leadingDigits text).2 = []) :
    ∀ c ∈ text, (Text.decimalValue? c).isSome = true := by
  induction text with
  | nil => simp
  | cons c rest ih =>
    cases value : Text.decimalValue? c with
    | none => simp [leadingDigits, value] at whole
    | some digit =>
      simp only [leadingDigits, value] at whole
      intro other member
      rcases List.mem_cons.mp member with rfl | later
      · simp [value]
      · exact ih whole other later

/-- The conditions under which the digits of a number are taken. -/
theorem digits_iff {text : List Char} :
    Digits text ↔ (leadingDigits text).1.length ≤ maxDigits ∧
      ((leadingDigits text).1.isEmpty || !(leadingDigits text).2.isEmpty) = false := by
  constructor
  · rintro ⟨nonempty, bounded, decimal⟩
    obtain ⟨length, tail⟩ := leadingDigits_of_decimal decimal
    refine ⟨length ▸ bounded, ?_⟩
    have some : (leadingDigits text).1 ≠ [] := by
      rw [← List.length_pos_iff, length]
      exact List.length_pos_iff.mpr nonempty
    simpa [tail] using some
  · rintro ⟨bounded, taken⟩
    obtain ⟨some, tail⟩ : (leadingDigits text).1 ≠ [] ∧ (leadingDigits text).2 = [] := by simpa using taken
    have decimal := decimal_of_leadingDigits tail
    obtain ⟨length, _⟩ := leadingDigits_of_decimal decimal
    refine ⟨?_, length ▸ bounded, decimal⟩
    rw [← List.length_pos_iff, ← length]
    exact List.length_pos_iff.mpr some

private theorem exists_ok_iff {text : List Char} (body : List Char) (negative : Bool)
    (read : readInteger text = if maxDigits < (leadingDigits body).1.length then
        .error (.tooManyDigits (leadingDigits body).1.length)
      else if (leadingDigits body).1.isEmpty || !(leadingDigits body).2.isEmpty then
        .error (.notANumber (String.ofList text))
      else .ok (if negative then -(ofDigits (leadingDigits body).1 : Int) else ofDigits (leadingDigits body).1)) :
    (∃ n, readInteger text = .ok n) ↔ Digits body := by
  rw [read, digits_iff]
  by_cases long : maxDigits < (leadingDigits body).1.length
  · simp [if_pos long, Nat.not_le.mpr long]
  · rw [if_neg long]
    cases taken : (leadingDigits body).1.isEmpty || !(leadingDigits body).2.isEmpty with
    | true => simp
    | false => simp [Nat.not_lt.mp long]

private theorem not_digits_minus (rest : List Char) : ¬Digits ('-' :: rest) := by
  intro digits
  have value := digits.decimal '-' List.mem_cons_self
  exact absurd value (by decide)

/-- Numbers are read from numerals and from nothing else. -/
theorem exists_readInteger_iff {text : List Char} : (∃ n, readInteger text = .ok n) ↔ Numeral text := by
  by_cases signed : ∃ rest, text = '-' :: rest
  · obtain ⟨rest, rfl⟩ := signed
    rw [exists_ok_iff rest true rfl]
    constructor
    · intro digits
      exact ⟨rest, digits, .inr rfl⟩
    · rintro ⟨digits, good, rfl | same⟩
      · exact absurd good (not_digits_minus rest)
      · rwa [(List.cons.inj same).2]
  · have plain : ∀ rest, text ≠ '-' :: rest := fun rest same => signed ⟨rest, same⟩
    rw [exists_ok_iff text false (by rw [readInteger]; exact plain)]
    constructor
    · intro digits
      exact ⟨text, digits, .inl rfl⟩
    · rintro ⟨digits, good, rfl | same⟩
      · exact good
      · exact absurd same (plain digits)

instance (text : List Char) : Decidable (Numeral text) :=
  decidable_of_iff ((readInteger text).isOk = true) <| by
    rw [← exists_readInteger_iff]
    cases readInteger text <;> simp [Except.isOk, Except.toBool]

end Number

namespace Value

open Number

/-- The texts that are tried as numbers: minus signs, and then digits of any kind. -/
def DigitLike (text : List Char) : Prop :=
  ∃ signs digits, text = List.replicate signs '-' ++ digits ∧ digits ≠ [] ∧
    ∀ c ∈ digits, Text.isAnyDigit c = true

/-- A text that is tried as a number, blanks around it aside, but is no numeral. -/
def Misleading (text : String) : Prop :=
  DigitLike (Text.strip text.toList) ∧ ¬Numeral (Text.strip text.toList)

theorem looksNumeric_iff {text : List Char} : looksNumeric text = true ↔ DigitLike text := by
  constructor
  · intro looks
    unfold looksNumeric at looks
    split at looks
    · cases looks
    · next digits some =>
      have signs : text.takeWhile (· == '-') = List.replicate (text.takeWhile (· == '-')).length '-' := by
        refine List.eq_replicate_iff.mpr ⟨rfl, fun c member => ?_⟩
        exact beq_iff_eq.mp (List.all_eq_true.mp List.all_takeWhile c member)
      refine ⟨(text.takeWhile (· == '-')).length, text.dropWhile (· == '-'), ?_, some, List.all_eq_true.mp looks⟩
      rw [← signs, List.takeWhile_append_dropWhile]
  · rintro ⟨signs, digits, rfl, nonempty, all⟩
    have rest : (List.replicate signs '-' ++ digits).dropWhile (· == '-') = digits := by
      rw [List.dropWhile_append_of_pos (by simp)]
      cases digits with
      | nil => rfl
      | cons c tail =>
        refine List.dropWhile_cons_of_neg fun same => ?_
        have digit := all c List.mem_cons_self
        rw [beq_iff_eq.mp same] at digit
        exact absurd digit (by decide)
    unfold looksNumeric
    rw [rest]
    split
    · exact absurd rfl nonempty
    · exact List.all_eq_true.mpr all

instance (text : List Char) : Decidable (DigitLike text) :=
  decidable_of_iff _ looksNumeric_iff

instance (text : String) : Decidable (Misleading text) :=
  inferInstanceAs (Decidable (_ ∧ _))

/-- A text is left out as no year unless it is tried as a number. -/
theorem yearOfText?_eq_none_iff {text : String} :
    yearOfText? text = .ok none ↔ ¬DigitLike (Text.strip text.toList) := by
  rw [← looksNumeric_iff, yearOfText?]
  split
  · next looks => cases readInteger (Text.strip text.toList) <;> simp [Except.map, looks]
  · next looks => simp [looks]

/-- A text is refused as a year exactly when it is tried as a number without being a numeral. -/
theorem exists_yearOfText?_iff {text : String} : (∃ year, yearOfText? text = .ok year) ↔ ¬Misleading text := by
  rw [Misleading, ← looksNumeric_iff, ← exists_readInteger_iff, yearOfText?]
  split
  · next looks => cases readInteger (Text.strip text.toList) <;> simp [Except.map, looks]
  · next looks => simp [looks]

/-- A value is refused as a year only if it is a misleading text. -/
theorem exists_year?_iff {value : Value} :
    (∃ year, value.year? = .ok year) ↔ ∀ text, value = .string text → ¬Misleading text := by
  cases value with
  | string text => simp [year?, exists_yearOfText?_iff]
  | null | bool | int | float | list | object => simp [year?]

/-- What is neither a whole number nor a numeral. -/
def NoYear (value : Value) : Prop :=
  (∀ n, value ≠ .int n) ∧ ∀ text, value = .string text → ¬Numeral (Text.strip text.toList)

/-- What is no year is left out, misleading texts aside. -/
theorem NoYear.year? {value : Value} (unusable : value.NoYear)
    (clear : ∀ text, value = .string text → ¬Misleading text) : value.year? = .ok none := by
  cases value with
  | int n => exact absurd rfl (unusable.1 n)
  | string text =>
    refine yearOfText?_eq_none_iff.mpr fun digits => ?_
    exact clear text rfl ⟨digits, unusable.2 text rfl⟩
  | null | bool | float | list | object => rfl

end Value

end CatalogSearch
