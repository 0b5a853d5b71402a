import CatalogSearch.Json.Parser
import CatalogSearch.Json.Printer
import CatalogSearch.Proofs.Json.String
import CatalogSearch.Proofs.Number.Size
import Mathlib.Data.List.TakeDrop

/-! # Whole numbers in JSON

A whole number is read back from its digits if it has no more of them than it may have, and if something follows that
does not go on with it.
-/

namespace CatalogSearch.Json

open Number

/-- What may follow a value inside a list or a table. -/
def Delimited (rest : List Char) : Prop :=
  ∀ c ∈ rest.head?, c = ',' ∨ c = ']' ∨ c = '\x7d'

theorem delimited_nil : Delimited [] := nofun

theorem spanDigits_append {digits rest : List Char} (ascii : ∀ c ∈ digits, c.isDigit = true)
    (stop : ∀ c ∈ rest.head?, c.isDigit = false) : spanDigits (digits ++ rest) = (digits, rest) := by
  rw [spanDigits, List.span_eq_takeWhile_dropWhile, List.takeWhile_append_of_pos ascii,
    List.dropWhile_append_of_pos ascii]
  cases rest with
  | nil => rw [List.takeWhile_nil, List.dropWhile_nil, List.append_nil]
  | cons c rest =>
    have other := stop c rfl
    rw [List.takeWhile_cons_of_neg (by simp [other]), List.dropWhile_cons_of_neg (by simp [other]), List.append_nil]

theorem Delimited.not_isDigit {rest : List Char} (delimited : Delimited rest) :
    ∀ c ∈ rest.head?, c.isDigit = false := by
  intro c member
  rcases delimited c member with rfl | rfl | rfl <;> rfl

theorem Delimited.spanPlaces {rest : List Char} (delimited : Delimited rest) : spanPlaces rest = ([], rest) := by
  unfold Json.spanPlaces
  split
  · rcases delimited '.' rfl with same | same | same <;> cases same
  · rfl

theorem Delimited.readExponent? {rest : List Char} (delimited : Delimited rest) : readExponent? rest = none := by
  cases rest with
  | nil => rfl
  | cons c rest => rcases delimited c rfl with rfl | rfl | rfl <;> rfl

/-- The digits of a number start with a zero only for zero itself. -/
theorem head_toDigits {n : Nat} (positive : 0 < n) : ∃ c rest, Nat.toDigits 10 n = c :: rest ∧ c ≠ '0' := by
  induction n using Nat.strongRecOn with
  | ind n ih =>
    by_cases small : n < 10
    · have nonzero : ∀ digit < 10, 0 < digit → digit.digitChar ≠ '0' := by decide
      exact ⟨n.digitChar, [], Nat.toDigits_of_lt_base small, nonzero n small positive⟩
    · obtain ⟨c, rest, front, nonzero⟩ := ih (n / 10) (by omega) (by omega)
      refine ⟨c, rest ++ [(n % 10).digitChar], ?_, nonzero⟩
      rw [Nat.toDigits_of_base_le (by decide) (Nat.not_lt.mp small), front, List.cons_append]

private theorem spanWhole_toDigits (n : Nat) {rest : List Char} (delimited : Delimited rest) :
    spanWhole (Nat.toDigits 10 n ++ rest) = (Nat.toDigits 10 n, rest) := by
  have ascii : ∀ c ∈ Nat.toDigits 10 n, c.isDigit = true := fun c member =>
    Nat.isDigit_of_mem_toDigits (by decide) (by decide) member
  rcases Nat.eq_zero_or_pos n with rfl | positive
  · rfl
  · obtain ⟨c, others, whole, nonzero⟩ := head_toDigits positive
    unfold spanWhole
    split
    · next same =>
      rw [whole] at same
      exact absurd (List.cons.inj same).1 nonzero
    · exact spanDigits_append ascii delimited.not_isDigit

theorem digitsValue_toDigits (n : Nat) : digitsValue (Nat.toDigits 10 n) = n := by
  rw [digitsValue, ofDigits, List.foldl_map]
  exact Nat.ofDigitChars_ten_toDigits

/-- A number is read from its digits behind the sign. -/
theorem readNumber_of_readMinus {text rest : List Char} {n : Nat} {negative : Bool}
    (signed : readMinus text = (negative, Nat.toDigits 10 n ++ rest)) (bounded : n < 10 ^ maxDigits)
    (delimited : Delimited rest) : readNumber text = .ok (.int (if negative then -n else n), rest) := by
  have short : (Nat.toDigits 10 n).length ≤ maxDigits :=
    (Nat.length_toDigits_le_iff (by decide) (by decide)).mpr bounded
  have spanned := spanWhole_toDigits n delimited
  have value := digitsValue_toDigits n
  obtain ⟨c, others, whole⟩ := List.exists_cons_of_ne_nil (Nat.toDigits_ne_nil (n := n) (b := 10))
  rw [whole] at short spanned value signed
  unfold readNumber
  split
  next found body same =>
    have parts : (found, body) = (negative, c :: others ++ rest) := by
      rw [← signed]
      split at same
      · exact same.symm
      · next unsigned =>
        rw [readMinus]
        · exact same.symm
        · exact unsigned
    cases parts
    rw [spanned]
    simp only [delimited.spanPlaces, delimited.readExponent?, List.isEmpty_nil, if_true, value]
    rw [if_neg (Nat.not_lt.mpr short)]

/-- The characters of a whole number: the digits of its size, behind a minus sign if it is negative. -/
theorem toList_toString (n : Int) :
    (toString n).toList = if n < 0 then '-' :: Nat.toDigits 10 n.natAbs else Nat.toDigits 10 n.natAbs := by
  cases n with
  | ofNat n =>
    rw [if_neg (by simp)]
    exact Nat.toList_repr
  | negSucc n =>
    rw [if_pos (Int.negSucc_lt_zero n)]
    change ("-" ++ Nat.repr (n + 1)).toList = _
    rw [String.toList_append, Nat.toList_repr]
    rfl

theorem isDigit_head_toDigits (n : Nat) : ∃ c rest, Nat.toDigits 10 n = c :: rest ∧ c.isDigit = true := by
  obtain ⟨c, rest, whole⟩ := List.exists_cons_of_ne_nil (Nat.toDigits_ne_nil (n := n) (b := 10))
  exact ⟨c, rest, whole, Nat.isDigit_of_mem_toDigits (by decide) (by decide) (whole ▸ List.mem_cons_self)⟩

/-- A whole number starts with a digit, or with a minus sign and a digit. -/
theorem readMinus_toString (n : Int) (rest : List Char) :
    readMinus ((toString n).toList ++ rest) = (decide (n < 0), Nat.toDigits 10 n.natAbs ++ rest) := by
  rw [toList_toString]
  by_cases negative : n < 0
  · rw [if_pos negative, decide_eq_true negative]
    rfl
  · rw [if_neg negative, decide_eq_false negative]
    obtain ⟨c, others, whole, digit⟩ := isDigit_head_toDigits n.natAbs
    rw [whole, List.cons_append, readMinus]
    intro tail same
    rw [(List.cons.inj same).1] at digit
    cases digit

/-- A text that starts with a digit, or with a minus sign and a digit, is no word. -/
theorem readScalar_of_isDigit {c : Char} (digit : c.isDigit = true) (rest : List Char) :
    readScalar (c :: rest) = readNumber (c :: rest) ∧
      readScalar ('-' :: c :: rest) = readNumber ('-' :: c :: rest) := by
  have other {letter : Char} (word : letter.isDigit = false) : c ≠ letter := by
    rintro rfl
    exact absurd digit (by simp [word])
  constructor
  · rw [readScalar]
    all_goals exact fun _ same => other rfl (List.cons.inj same).1
  · rw [readScalar]
    case x_6 => exact fun _ same => other rfl (List.cons.inj (List.cons.inj same).2).1
    all_goals exact nofun

/-- A whole number of bounded size is read back. -/
theorem readScalar_toString {n : Int} (writable : Writable n) {rest : List Char} (delimited : Delimited rest) :
    readScalar ((toString n).toList ++ rest) = .ok (.int n, rest) := by
  have read := readNumber_of_readMinus (readMinus_toString n rest) writable delimited
  have scalar : readScalar ((toString n).toList ++ rest) = readNumber ((toString n).toList ++ rest) := by
    obtain ⟨c, others, whole, digit⟩ := isDigit_head_toDigits n.natAbs
    rw [toList_toString, whole]
    split
    · exact (readScalar_of_isDigit digit _).2
    · exact (readScalar_of_isDigit digit _).1
  have value : (if decide (n < 0) = true then -(n.natAbs : Int) else n.natAbs) = n := by
    simp only [decide_eq_true_eq]
    omega
  rw [scalar, read, value]

theorem visible_toString (n : Int) : ∀ c ∈ (toString n).toList, Visible c := by
  have digits : ∀ c ∈ Nat.toDigits 10 n.natAbs, Visible c := fun c member => by
    obtain ⟨least, most⟩ := Char.isDigit_iff_toNat.mp (Nat.isDigit_of_mem_toDigits (by decide) (by decide) member)
    exact ⟨Nat.le_trans (by decide) least, Nat.lt_of_le_of_lt most (by decide)⟩
  rw [toList_toString]
  split
  · exact List.forall_mem_cons.mpr ⟨by decide, digits⟩
  · exact digits

end CatalogSearch.Json
