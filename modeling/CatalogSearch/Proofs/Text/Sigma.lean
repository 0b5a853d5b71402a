import CatalogSearch.Text.Case
import Mathlib.Data.List.Infix

/-! # Sigmas in small letters

The small form of a character stands for itself, with one exception: a capital sigma takes the final form where a
letter with case stands before it and none behind it, so that its form may change when its text becomes a part of a
longer one. A text whose sigmas are settled has the same small letters wherever it stands. Any other text has other
small letters behind a letter or in front of one.
-/

namespace CatalogSearch.Text

/-- The nearest character of a side that counts for case. -/
def nearest? (side : List Char) : Option Char :=
  (side.dropWhile caseIgnorable.contains).head?

private theorem nearest?_append (side further : List Char) :
    nearest? (side ++ further) = (nearest? side).or (nearest? further) := by
  induction side with
  | nil => rfl
  | cons c rest ih =>
    unfold nearest? at ih ⊢
    rw [List.cons_append, List.dropWhile_cons, List.dropWhile_cons]
    split
    · exact ih
    · rfl

/-- What stands further away counts only where nothing nearer does. -/
theorem besideCased_append (side further : List Char) :
    besideCased (side ++ further) = if (nearest? side).isSome then besideCased side else besideCased further := by
  change (nearest? (side ++ further)).any casedChars.contains = if (nearest? side).isSome then
    (nearest? side).any casedChars.contains else (nearest? further).any casedChars.contains
  rw [nearest?_append]
  cases nearest? side <;> rfl

theorem isSome_nearest? {side : List Char} (cased : besideCased side = true) : (nearest? side).isSome = true :=
  Option.isSome_of_any cased

/-- What stands beside a sigma in a text decides on its form: there is a letter with case behind it, or there are
characters that count on both sides, or one before it that is no letter with case. -/
def SettlesSigma (before behind : List Char) : Prop :=
  besideCased behind = true ∨
    ((nearest? before).isSome = true ∧ (besideCased before = true → (nearest? behind).isSome = true))

/-- The forms of all sigmas of a text are decided by the text itself. -/
def SigmasSettled (text : List Char) : Prop :=
  ∀ left right, text = left ++ 'Σ' :: right → SettlesSigma left.reverse right

private theorem SettlesSigma.final_append {before behind : List Char} (settles : SettlesSigma before behind)
    (front back : List Char) :
    (besideCased (before ++ front) && !besideCased (behind ++ back)) = (besideCased before && !besideCased behind) := by
  rw [besideCased_append, besideCased_append]
  rcases settles with cased | ⟨known, closed⟩
  · rw [if_pos (isSome_nearest? cased), cased, Bool.not_true, Bool.and_false, Bool.and_false]
  · rw [if_pos known]
    cases cased : besideCased before with
    | true => rw [if_pos (closed cased)]
    | false => rfl

def smallAt (before : List Char) (c : Char) (behind : List Char) : List Char :=
  if c.toNat = 0x3A3 then if besideCased before && !besideCased behind then ['ς'] else ['σ'] else lowerChar c

theorem smallAt_sigma (before behind : List Char) :
    smallAt before 'Σ' behind = if besideCased before && !besideCased behind then ['ς'] else ['σ'] := rfl

theorem lowerFrom_cons (before : List Char) (c : Char) (rest : List Char) :
    lowerFrom before (c :: rest) = smallAt before c rest ++ lowerFrom (c :: before) rest := rfl

/-- The small letters of the end of a text are the end of its small letters. -/
theorem exists_lowerFrom_append (before front rest : List Char) :
    ∃ start, lowerFrom before (front ++ rest) = start ++ lowerFrom (front.reverse ++ before) rest := by
  induction front generalizing before with
  | nil => exact ⟨[], rfl⟩
  | cons c front ih =>
    obtain ⟨start, later⟩ := ih (c :: before)
    refine ⟨smallAt before c (front ++ rest) ++ start, ?_⟩
    rw [List.cons_append, lowerFrom_cons, later, List.reverse_cons, List.append_assoc, List.append_assoc,
      List.singleton_append]

/-- A text with settled sigmas keeps its small letters between others. -/
theorem lowerFrom_append_of_settled {text before : List Char}
    (settled : ∀ left right, text = left ++ 'Σ' :: right → SettlesSigma (left.reverse ++ before) right)
    (front back : List Char) :
    lowerFrom (before ++ front) (text ++ back) =
      lowerFrom before text ++ lowerFrom (text.reverse ++ (before ++ front)) back := by
  induction text generalizing before with
  | nil => rfl
  | cons c rest ih =>
    have same : smallAt (before ++ front) c (rest ++ back) = smallAt before c rest := by
      unfold smallAt
      split
      · next sigma =>
        obtain rfl : c = 'Σ' := Char.toNat_inj.mp sigma
        have here : SettlesSigma before rest := settled [] rest rfl
        rw [here.final_append front back]
      · rfl
    have later : ∀ left right, rest = left ++ 'Σ' :: right → SettlesSigma (left.reverse ++ c :: before) right := by
      intro left right split
      have settles := settled (c :: left) right (by rw [split]; rfl)
      rwa [List.reverse_cons, List.append_assoc, List.singleton_append] at settles
    rw [List.cons_append, lowerFrom_cons, lowerFrom_cons, same, ← List.cons_append, ih later, List.append_assoc,
      List.reverse_cons, List.append_assoc, List.singleton_append, List.cons_append]

/-- The small letters of a text with settled sigmas stand in those of every text that holds it. -/
theorem SigmasSettled.infix_lowerChars {text whole : List Char} (settled : SigmasSettled text)
    (inside : text <:+: whole) : lowerChars text <:+: lowerChars whole := by
  obtain ⟨front, back, rfl⟩ := inside
  obtain ⟨start, split⟩ := exists_lowerFrom_append [] front (text ++ back)
  have alone : ∀ left right, text = left ++ 'Σ' :: right → SettlesSigma (left.reverse ++ []) right := by
    intro left right same
    rw [List.append_nil]
    exact settled left right same
  have kept := lowerFrom_append_of_settled alone front.reverse back
  rw [List.nil_append] at kept
  rw [List.append_nil, kept] at split
  unfold lowerChars
  rw [List.append_assoc, split]
  exact ⟨start, _, List.append_assoc _ _ _⟩

/-! ## Unsettled sigmas -/

/-- Between others, no character of a text gets a small form that it does not have in the text alone. -/
structure Spares (form : Char) (front back : List Char) : Prop where
  smallAt_le : ∀ before c behind,
    (smallAt (before ++ front) c (behind ++ back)).count form ≤ (smallAt before c behind).count form
  back_free : ∀ before, (lowerFrom before back).count form = 0

variable {form : Char} {front back : List Char}

theorem Spares.count_le (spares : Spares form front back) (before text : List Char) :
    (lowerFrom (before ++ front) (text ++ back)).count form ≤ (lowerFrom before text).count form := by
  induction text generalizing before with
  | nil =>
    rw [List.nil_append, spares.back_free]
    exact Nat.zero_le _
  | cons c rest ih =>
    have here := spares.smallAt_le before c rest
    have later := ih (c :: before)
    rw [List.cons_append, lowerFrom_cons, lowerFrom_cons, List.count_append, List.count_append]
    rw [List.cons_append] at later
    omega

/-- A sigma that loses the form makes a difference. -/
theorem Spares.count_lt (spares : Spares form front back) {before left right : List Char}
    (loses : (smallAt (left.reverse ++ before ++ front) 'Σ' (right ++ back)).count form <
      (smallAt (left.reverse ++ before) 'Σ' right).count form) :
    (lowerFrom (before ++ front) (left ++ 'Σ' :: right ++ back)).count form <
      (lowerFrom before (left ++ 'Σ' :: right)).count form := by
  induction left generalizing before with
  | nil =>
    have later := spares.count_le ('Σ' :: before) right
    rw [List.nil_append, List.cons_append, lowerFrom_cons, lowerFrom_cons, List.count_append, List.count_append]
    rw [List.cons_append] at later
    rw [List.reverse_nil, List.nil_append] at loses
    omega
  | cons c left ih =>
    have here := spares.smallAt_le before c (left ++ 'Σ' :: right)
    rw [List.reverse_cons, List.append_assoc left.reverse, List.singleton_append] at loses
    have later := ih loses
    rw [List.cons_append, List.cons_append, lowerFrom_cons, lowerFrom_cons, List.count_append, List.count_append]
    rw [List.cons_append] at later
    omega

/-- Behind a letter, no sigma gives up the final form. -/
theorem spares_front : Spares 'σ' ['a'] [] where
  smallAt_le before c behind := by
    rw [List.append_nil]
    unfold smallAt
    split
    · cases final : besideCased before && !besideCased behind with
      | true =>
        obtain ⟨cased, _⟩ := Bool.and_eq_true_iff.mp final
        have still : besideCased (before ++ ['a']) = besideCased before := by
          rw [besideCased_append, if_pos (isSome_nearest? cased)]
        rw [still, final]
      | false =>
        split <;> decide
    · exact Nat.le_refl _
  back_free _ := rfl

/-- In front of a letter, no sigma takes the final form. -/
theorem spares_back : Spares 'ς' [] ['a'] where
  smallAt_le before c behind := by
    rw [List.append_nil]
    unfold smallAt
    split
    · cases cased : besideCased behind with
      | true =>
        have still : besideCased (behind ++ ['a']) = true := by
          rw [besideCased_append, if_pos (isSome_nearest? cased), cased]
        rw [still]
      | false =>
        cases besideCased (behind ++ ['a']) with
        | true =>
          rw [Bool.not_true, Bool.and_false]
          exact Nat.zero_le _
        | false => exact Nat.le_refl _
    · exact Nat.le_refl _
  back_free _ := rfl

private theorem besideCased_letter : besideCased ['a'] = true := by decide

theorem besideCased_eq_false {side : List Char} (unknown : nearest? side = none) : besideCased side = false := by
  change (nearest? side).any casedChars.contains = false
  rw [unknown]
  rfl

theorem besideCased_append_letter {side : List Char} (unknown : nearest? side = none) :
    besideCased (side ++ ['a']) = true := by
  rw [besideCased_append, unknown]
  exact besideCased_letter

/-- Where nothing that counts stands before a sigma and no letter behind it, a letter in front makes it final. -/
theorem count_lowerChars_cons_lt {left right : List Char} (unknown : nearest? left.reverse = none)
    (plain : besideCased right = false) :
    (lowerChars ('a' :: (left ++ 'Σ' :: right))).count 'σ' < (lowerChars (left ++ 'Σ' :: right)).count 'σ' := by
  have loses : (smallAt (left.reverse ++ [] ++ ['a']) 'Σ' (right ++ [])).count 'σ' <
      (smallAt (left.reverse ++ []) 'Σ' right).count 'σ' := by
    rw [List.append_nil, List.append_nil, smallAt_sigma, smallAt_sigma, plain, besideCased_eq_false unknown,
      besideCased_append_letter unknown]
    decide
  have fewer := spares_front.count_lt loses
  rw [List.append_nil] at fewer
  exact fewer

/-- Where a letter stands before a sigma and nothing that counts behind it, a further letter keeps it from being
final. -/
theorem count_lowerChars_concat_lt {left right : List Char} (cased : besideCased left.reverse = true)
    (unknown : nearest? right = none) :
    (lowerChars (left ++ 'Σ' :: right ++ ['a'])).count 'ς' < (lowerChars (left ++ 'Σ' :: right)).count 'ς' := by
  have loses : (smallAt (left.reverse ++ [] ++ []) 'Σ' (right ++ ['a'])).count 'ς' <
      (smallAt (left.reverse ++ []) 'Σ' right).count 'ς' := by
    rw [List.append_nil, List.append_nil, smallAt_sigma, smallAt_sigma, cased, besideCased_eq_false unknown,
      besideCased_append_letter unknown]
    decide
  exact spares_back.count_lt loses

/-- A text with a sigma that is not settled has other small letters behind a letter, or in front of one. -/
theorem exists_not_infix {text : List Char} (unsettled : ¬SigmasSettled text) :
    ∃ whole, text <:+: whole ∧ ¬lowerChars text <:+: lowerChars whole := by
  simp only [SigmasSettled, not_forall] at unsettled
  obtain ⟨left, right, rfl, undecided⟩ := unsettled
  obtain ⟨plain, unclosed⟩ := not_or.mp undecided
  rw [Bool.not_eq_true] at plain
  cases before : nearest? left.reverse with
  | none =>
    refine ⟨'a' :: (left ++ 'Σ' :: right), (List.suffix_cons 'a' _).isInfix, fun inside => ?_⟩
    exact Nat.not_le_of_lt (count_lowerChars_cons_lt before plain) (inside.sublist.count_le 'σ')
  | some c =>
    rw [before, Option.isSome_some] at unclosed
    simp only [true_and, Classical.not_imp, Option.not_isSome_iff_eq_none] at unclosed
    obtain ⟨cased, behind⟩ := unclosed
    refine ⟨left ++ 'Σ' :: right ++ ['a'], (List.prefix_append _ _).isInfix, fun inside => ?_⟩
    exact Nat.not_le_of_lt (count_lowerChars_concat_lt cased behind) (inside.sublist.count_le 'ς')

/-- The small letters of a text stand in those of every text that holds it exactly if all of its sigmas are settled. -/
theorem sigmasSettled_iff {text : List Char} :
    SigmasSettled text ↔ ∀ whole, text <:+: whole → lowerChars text <:+: lowerChars whole := by
  constructor
  · intro settled whole inside
    exact settled.infix_lowerChars inside
  · intro always
    by_contra unsettled
    obtain ⟨whole, inside, outside⟩ := exists_not_infix unsettled
    exact outside (always whole inside)

end CatalogSearch.Text
