import CatalogSearch.Proofs.Json.Number
import CatalogSearch.Proofs.Text.Blank
import CatalogSearch.Proofs.Value.Year
import Mathlib.Tactic.Ring

/-! # Numbers of a fixed count of digits

Texts with the same count of digits stand in the order of their numbers, and there is one for each number. A number
that is padded to a width is such a text, as long as it has no more digits than that. A number that is written out is
read back as a year.
-/

namespace CatalogSearch

namespace Number

/-! ## The order of digits -/

/-- A number of digits of ASCII. -/
structure Places (count : Nat) (digits : List Char) : Prop where
  length : digits.length = count
  ascii : ∀ c ∈ digits, c.isDigit = true

theorem places_of_all {count : Nat} {digits : List Char} (length : digits.length = count)
    (all : digits.all Char.isDigit = true) : Places count digits :=
  ⟨length, fun c member => List.all_eq_true.mp all c member⟩

theorem Places.tail {count : Nat} {c : Char} {digits : List Char} (places : Places (count + 1) (c :: digits)) :
    c.isDigit = true ∧ Places count digits := by
  obtain ⟨length, ascii⟩ := places
  refine ⟨ascii c List.mem_cons_self, ?_, fun other member => ascii other (List.mem_cons_of_mem c member)⟩
  exact Nat.succ.inj length

private theorem ofDigits_cons (first : Nat) (digits : List Nat) :
    ofDigits (first :: digits) = first * 10 ^ digits.length + ofDigits digits := by
  induction digits using List.reverseRecOn with
  | nil => simp [ofDigits]
  | append_singleton front last ih =>
    rw [← List.cons_append, ofDigits_concat, ofDigits_concat, ih, List.length_append, List.length_singleton,
      Nat.pow_succ]
    ring

theorem digitsValue_cons (c : Char) (digits : List Char) :
    digitsValue (c :: digits) = (c.toNat - '0'.toNat) * 10 ^ digits.length + digitsValue digits := by
  rw [digitsValue, List.map_cons, ofDigits_cons, List.length_map, digitsValue]

theorem Places.value_lt {count : Nat} {digits : List Char} (places : Places count digits) :
    digitsValue digits < 10 ^ count := by
  have small : ∀ digit ∈ digits.map fun c => c.toNat - '0'.toNat, digit < 10 := by
    intro digit member
    obtain ⟨c, found, rfl⟩ := List.mem_map.mp member
    exact isDigit_sub_lt (places.ascii c found)
  have bound := ofDigits_lt small
  rwa [List.length_map, places.length] at bound

/-- A smaller digit makes a smaller number, whatever follows. -/
theorem Places.value_cons_lt {count : Nat} {c d : Char} {left right : List Char}
    (first : Places (count + 1) (c :: left)) (second : Places (count + 1) (d :: right)) (less : c < d) :
    digitsValue (c :: left) < digitsValue (d :: right) := by
  obtain ⟨digit, first⟩ := first.tail
  obtain ⟨_, second⟩ := second.tail
  have least : '0'.toNat ≤ c.toNat := (Char.isDigit_iff_toNat.mp digit).1
  have step : c.toNat - '0'.toNat + 1 ≤ d.toNat - '0'.toNat := by
    have order : c.toNat < d.toNat := less
    omega
  rw [digitsValue_cons, digitsValue_cons, first.length, second.length]
  calc (c.toNat - '0'.toNat) * 10 ^ count + digitsValue left
    _ < (c.toNat - '0'.toNat) * 10 ^ count + 10 ^ count := Nat.add_lt_add_left first.value_lt _
    _ = (c.toNat - '0'.toNat + 1) * 10 ^ count := (Nat.succ_mul _ _).symm
    _ ≤ (d.toNat - '0'.toNat) * 10 ^ count := Nat.mul_le_mul_right _ step
    _ ≤ (d.toNat - '0'.toNat) * 10 ^ count + digitsValue right := Nat.le_add_right _ _

/-- Digits in front decide on the order by their number, and what follows them only where they are the same. -/
theorem Places.append_lt_append_iff {count : Nat} {left right : List Char} (first : Places count left)
    (second : Places count right) (front back : List Char) :
    left ++ front < right ++ back ↔ digitsValue left < digitsValue right ∨ (left = right ∧ front < back) := by
  induction count generalizing left right with
  | zero =>
    obtain rfl := List.length_eq_zero_iff.mp first.length
    obtain rfl := List.length_eq_zero_iff.mp second.length
    simp
  | succ count ih =>
    obtain ⟨c, left, rfl⟩ := List.exists_cons_of_length_eq_add_one first.length
    obtain ⟨d, right, rfl⟩ := List.exists_cons_of_length_eq_add_one second.length
    rw [List.cons_append, List.cons_append, List.cons_lt_cons_iff, ih first.tail.2 second.tail.2]
    rcases Nat.lt_trichotomy c.toNat d.toNat with less | same | greater
    · have smaller := first.value_cons_lt second less
      have here : c < d := less
      simp only [here, smaller, true_or]
    · obtain rfl := Char.toNat_inj.mp same
      have stays : ¬c < c := Nat.lt_irrefl _
      rw [digitsValue_cons, digitsValue_cons, first.tail.2.length, second.tail.2.length, Nat.add_lt_add_iff_left]
      simp only [stays, false_or, true_and, List.cons.injEq]
    · have larger := second.value_cons_lt first greater
      have other : c ≠ d := fun same => absurd (same ▸ greater) (Nat.lt_irrefl _)
      have stays : ¬c < d := Nat.lt_asymm greater
      simp only [stays, other, Nat.lt_asymm larger, List.cons.injEq, false_and, or_self]

/-- There is one text of digits for each number. -/
theorem Places.eq_of_value_eq {count : Nat} {left right : List Char} (first : Places count left)
    (second : Places count right) (same : digitsValue left = digitsValue right) : left = right := by
  have order := first.append_lt_append_iff second [] []
  have turned := second.append_lt_append_iff first [] []
  simp only [List.append_nil, same, Nat.lt_irrefl, List.not_lt_nil, and_false, or_self, iff_false] at order turned
  exact List.le_antisymm (List.not_lt.mp turned) (List.not_lt.mp order)

/-- What is no smaller in front and no smaller behind is no smaller. -/
theorem Places.append_not_lt {count : Nat} {left right front back : List Char} (first : Places count left)
    (second : Places count right) (least : digitsValue left ≤ digitsValue right) (further : ¬back < front) :
    ¬right ++ back < left ++ front := by
  rw [second.append_lt_append_iff first]
  rintro (less | ⟨_, before⟩)
  · exact Nat.not_lt.mpr least less
  · exact further before

/-! ## Numbers that are written out -/

theorem isDigit_of_mem_toDigits {n : Nat} : ∀ c ∈ Nat.toDigits 10 n, c.isDigit = true := fun _ member =>
  Nat.isDigit_of_mem_toDigits (by decide) (by decide) member

private theorem digitsValue_replicate_append (count : Nat) (digits : List Char) :
    digitsValue (List.replicate count '0' ++ digits) = digitsValue digits := by
  induction count with
  | zero => rfl
  | succ count ih =>
    rw [List.replicate_succ, List.cons_append, digitsValue_cons, ih, Nat.sub_self, Nat.zero_mul, Nat.zero_add]

/-- A negative number starts with a minus sign, padded or not. -/
theorem toList_padded_of_neg (width : Nat) {n : Int} (negative : n < 0) :
    ∃ rest, (padded width n).toList = '-' :: rest := by
  simp only [padded, if_pos negative, String.toList_append]
  exact ⟨_, rfl⟩

theorem toList_padded (width n : Nat) :
    (padded width n).toList = List.replicate (width - (Nat.toDigits 10 n).length) '0' ++ Nat.toDigits 10 n := by
  have plain : ¬(n : Int) < 0 := Int.not_lt.mpr (Int.natCast_nonneg n)
  have digits : (toString n).toList = Nat.toDigits 10 n := Nat.toList_repr
  have length : (toString n).length = (Nat.toDigits 10 n).length := by rw [← String.length_toList, digits]
  simp only [padded, if_neg plain, Int.natAbs_natCast, String.toList_append, String.toList_ofList, digits, length]
  rfl

/-- A padded number is its digits. -/
theorem padded_isDigit (width n : Nat) : ∀ c ∈ (padded width n).toList, c.isDigit = true := by
  rw [toList_padded]
  intro c member
  rcases List.mem_append.mp member with zero | digit
  · rw [List.eq_of_mem_replicate zero]
    rfl
  · exact isDigit_of_mem_toDigits c digit

theorem digitsValue_padded (width n : Nat) : digitsValue (padded width n).toList = n := by
  rw [toList_padded, digitsValue_replicate_append, Json.digitsValue_toDigits]

/-- A number with no more digits than the width is padded to it. -/
theorem places_padded {width n : Nat} (positive : 0 < width) (small : n < 10 ^ width) :
    Places width (padded width n).toList := by
  have short : (Nat.toDigits 10 n).length ≤ width := (Nat.length_toDigits_le_iff (by decide) positive).mpr small
  refine ⟨?_, padded_isDigit width n⟩
  rw [toList_padded, List.length_append, List.length_replicate]
  omega

/-! ## Numbers that are read back -/

theorem leadingDigits_of_values {shown : List Char} {digits : List Nat}
    (values : shown.map Text.decimalValue? = digits.map some) : leadingDigits shown = (digits, []) := by
  induction shown generalizing digits with
  | nil =>
    obtain rfl := List.map_eq_nil_iff.mp values.symm
    rfl
  | cons c shown ih =>
    obtain ⟨digit, later, rfl, value, values⟩ := List.map_eq_cons_iff.mp values.symm
    rw [leadingDigits, ← value, ih values.symm]

/-- What stands behind the digits does not matter if it starts with none. -/
theorem leadingDigits_append (text : List Char) {rest : List Char}
    (stop : ∀ c ∈ rest.head?, Text.decimalValue? c = none) :
    leadingDigits (text ++ rest) = ((leadingDigits text).1, (leadingDigits text).2 ++ rest) := by
  induction text with
  | nil =>
    cases rest with
    | nil => rfl
    | cons c rest => simp only [List.nil_append, leadingDigits, stop c rfl]
  | cons c text ih =>
    rw [List.cons_append, leadingDigits, leadingDigits]
    cases Text.decimalValue? c with
    | none => rfl
    | some digit => simp only [ih]

/-- The digits at the start of a text are all that stand there. -/
theorem leadingDigits_eq_iff {text rest : List Char} {digits : List Nat} :
    leadingDigits text = (digits, rest) ↔ ∃ shown, text = shown ++ rest ∧
      shown.map Text.decimalValue? = digits.map some ∧ ∀ c ∈ rest.head?, Text.decimalValue? c = none := by
  constructor
  · intro read
    induction text generalizing digits with
    | nil =>
      cases read
      exact ⟨[], rfl, rfl, nofun⟩
    | cons c text ih =>
      rw [leadingDigits] at read
      cases value : Text.decimalValue? c with
      | none =>
        rw [value] at read
        cases read
        refine ⟨[], rfl, rfl, ?_⟩
        rintro _ ⟨⟩
        exact value
      | some digit =>
        rw [value] at read
        cases read
        obtain ⟨shown, split, values, stop⟩ := ih rfl
        exact ⟨c :: shown, congrArg (c :: ·) split, by rw [List.map_cons, value, values, List.map_cons], stop⟩
  · rintro ⟨shown, rfl, values, stop⟩
    rw [leadingDigits_append shown stop, leadingDigits_of_values values, List.nil_append]

theorem leadingDigits_of_ascii {digits : List Char} (ascii : ∀ c ∈ digits, c.isDigit = true) :
    leadingDigits digits = (digits.map fun c => c.toNat - '0'.toNat, []) := by
  apply leadingDigits_of_values
  rw [List.map_map]
  exact List.map_congr_left fun c member => if_pos (ascii c member)

/-- Digits, with or without a minus sign in front, are read as their number. -/
theorem readInteger_of_ascii {digits : List Char} (ascii : ∀ c ∈ digits, c.isDigit = true) (nonempty : digits ≠ [])
    (bounded : digits.length ≤ maxDigits) :
    readInteger digits = .ok (digitsValue digits) ∧
      readInteger ('-' :: digits) = .ok (-(digitsValue digits : Int)) := by
  have short : ¬maxDigits < (digits.map fun c => c.toNat - '0'.toNat).length := by
    rw [List.length_map]
    exact Nat.not_lt.mpr bounded
  have whole : ((digits.map fun c => c.toNat - '0'.toNat).isEmpty || !([] : List Char).isEmpty) = false := by
    simpa using nonempty
  constructor
  · have unsigned : ∀ rest, digits = '-' :: rest → False := by
      rintro rest rfl
      exact absurd (ascii '-' List.mem_cons_self) (by decide)
    rw [readInteger]
    · simp only [leadingDigits_of_ascii ascii, if_neg short, whole]
      rfl
    · exact unsigned
  · simp only [readInteger, leadingDigits_of_ascii ascii, if_neg short, whole]
    rfl

end Number

namespace Value

open Number

theorem isBlank_of_isDigit {c : Char} (digit : c.isDigit = true) : Text.isBlank c = false := by
  obtain ⟨least, most⟩ := Char.isDigit_iff_toNat.mp digit
  change 48 ≤ c.toNat at least
  change c.toNat ≤ 57 at most
  rw [Text.isBlank]
  simp only [Bool.or_eq_false_iff, Bool.and_eq_false_iff, decide_eq_false_iff_not, beq_eq_false_iff_ne]
  omega

/-- No blank is part of a whole number. -/
theorem trimmed_toString (n : Int) : Text.Trimmed (toString n).toList := by
  have solid : ∀ c ∈ (toString n).toList, Text.isBlank c = false := by
    have digits : ∀ c ∈ Nat.toDigits 10 n.natAbs, Text.isBlank c = false := by
      intro c member
      exact isBlank_of_isDigit (isDigit_of_mem_toDigits c member)
    rw [Json.toList_toString]
    split
    · exact List.forall_mem_cons.mpr ⟨by decide, digits⟩
    · exact digits
  constructor
  · intro c member
    exact solid c (List.mem_of_mem_head? member)
  · intro c member
    exact solid c (List.mem_of_getLast? member)

private theorem digitLike_toString (n : Int) : DigitLike (toString n).toList := by
  have digits : ∀ c ∈ Nat.toDigits 10 n.natAbs, Text.isAnyDigit c = true := by
    intro c member
    rw [Text.isAnyDigit, isDigit_of_mem_toDigits c member, Bool.true_or]
  rw [Json.toList_toString]
  split
  · exact ⟨1, Nat.toDigits 10 n.natAbs, rfl, Nat.toDigits_ne_nil, digits⟩
  · exact ⟨0, Nat.toDigits 10 n.natAbs, rfl, Nat.toDigits_ne_nil, digits⟩

/-- A whole number of bounded size that is written out is read as a year, whatever its sign is. -/
theorem yearOfText?_toString {n : Int} (writable : Number.Writable n) : yearOfText? (toString n) = .ok (some n) := by
  have short : (Nat.toDigits 10 n.natAbs).length ≤ maxDigits :=
    (Nat.length_toDigits_le_iff (by decide) (by decide)).mpr writable
  obtain ⟨plain, signed⟩ := readInteger_of_ascii isDigit_of_mem_toDigits Nat.toDigits_ne_nil short
  have read : readInteger (toString n).toList = .ok n := by
    rw [Json.toList_toString]
    rw [Json.digitsValue_toDigits] at plain signed
    split
    · next negative =>
      rw [signed]
      congr 1
      omega
    · next positive =>
      rw [plain]
      congr 1
      omega
  rw [yearOfText?, (trimmed_toString n).strip, if_pos (looksNumeric_iff.mpr (digitLike_toString n)), read]
  rfl

end Value

end CatalogSearch
