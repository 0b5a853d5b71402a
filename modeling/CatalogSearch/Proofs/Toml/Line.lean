import CatalogSearch.Proofs.Number.Digits
import CatalogSearch.Toml.Parser

/-! # The line that a message names

The message about a fault ends with the place of the fault. Whoever wants the line of it takes the first line that the
message names. The description in front of the place may quote a key of the document, and a key may hold anything: so
the line that is found is that of the fault unless the description names another one.
-/

namespace CatalogSearch.Toml

open Number (leadingDigits ofDigits maxDigits)

/-! ## Naming a line -/

/-- A text starts by naming a line: with the word "line" in any letter case, where the letter i may also be the
capital one with a dot or the small one without, with a blank, and with a number in digits of any script. -/
inductive NamesLine : List Char → List Nat → Prop where
  | intro {l i n e : Char} {shown rest : List Char} {digits : List Nat} (isL : l.toLower = 'l')
    (isI : i.toLower = 'i' ∨ i.toNat = 0x130 ∨ i.toNat = 0x131) (isN : n.toLower = 'n') (isE : e.toLower = 'e')
    (values : shown.map Text.decimalValue? = digits.map some) (nonempty : digits ≠ [])
    (stop : ∀ c ∈ rest.head?, Text.decimalValue? c = none) :
    NamesLine (l :: i :: n :: e :: ' ' :: (shown ++ rest)) digits

/-- A word may start behind a text: its last character belongs to no word. Behind an empty text that depends on what
is in front of it. -/
def Breaks (inWord : Bool) (text : List Char) : Prop :=
  text.getLast?.elim inWord Text.isWord = false

/-- A text names a line, at the start of a word. -/
def Names (inWord : Bool) (text : List Char) (digits : List Nat) : Prop :=
  ∃ before rest, text = before ++ rest ∧ Breaks inWord before ∧ NamesLine rest digits

/-- A text names a line, and names none farther in front. -/
def NamesFirst (inWord : Bool) (text : List Char) (digits : List Nat) : Prop :=
  ∃ before rest, text = before ++ rest ∧ Breaks inWord before ∧ NamesLine rest digits ∧
    ∀ front back other, text = front ++ back → front.length < before.length → Breaks inWord front →
      ¬NamesLine back other

theorem lineDigitsHere?_eq_some_iff {text : List Char} {digits : List Nat} :
    lineDigitsHere? text = some digits ↔ NamesLine text digits := by
  constructor
  · intro found
    unfold lineDigitsHere? at found
    split at found
    · next l i n e rest =>
      dsimp only at found
      split at found
      · next word =>
        simp only [Bool.and_eq_true, Bool.or_eq_true, beq_iff_eq] at word
        obtain ⟨⟨⟨isL, isI⟩, isN⟩, isE⟩ := word
        split at found
        · cases found
        · next number nonempty read =>
          cases found
          obtain ⟨shown, rfl, values, stop⟩ := Number.leadingDigits_eq_iff.mp read
          exact .intro isL isI isN isE values nonempty stop
      · cases found
    · cases found
  · rintro ⟨isL, isI, isN, isE, values, nonempty, stop⟩
    have read := Number.leadingDigits_eq_iff.mpr ⟨_, rfl, values, stop⟩
    have word {l i n e : Char} (isL : l.toLower = 'l') (isI : i.toLower = 'i' ∨ i.toNat = 0x130 ∨ i.toNat = 0x131)
        (isN : n.toLower = 'n') (isE : e.toLower = 'e') :
        (l.toLower == 'l' && (i.toLower == 'i' || (i.toNat == 0x130 || i.toNat == 0x131)) && n.toLower == 'n' &&
          e.toLower == 'e') = true := by
      simp [isL, isI, isN, isE]
    rw [lineDigitsHere?, if_pos (word isL isI isN isE), read]
    split
    · next none => exact absurd (congrArg Prod.fst none) nonempty
    · next some => exact congrArg _ (congrArg Prod.fst some).symm

theorem lineDigitsHere?_eq_none {text : List Char} (never : ∀ digits, ¬NamesLine text digits) :
    lineDigitsHere? text = none :=
  Option.eq_none_iff_forall_ne_some.mpr fun digits found => never digits (lineDigitsHere?_eq_some_iff.mp found)

theorem lineDigitsFrom?_cons (inWord : Bool) (c : Char) (text : List Char) :
    lineDigitsFrom? inWord (c :: text) =
      (if inWord then none else lineDigitsHere? (c :: text)).or (lineDigitsFrom? (Text.isWord c) text) :=
  rfl

/-- No line is named from a character on that does not start the word. -/
theorem lineDigitsFrom?_cons_of_ne {c : Char} (other : c.toLower ≠ 'l') (inWord : Bool) (text : List Char) :
    lineDigitsFrom? inWord (c :: text) = lineDigitsFrom? (Text.isWord c) text := by
  have here : lineDigitsHere? (c :: text) = none := lineDigitsHere?_eq_none fun _ (.intro isL _ _ _ _ _ _) => other isL
  rw [lineDigitsFrom?_cons, here, ite_self, Option.none_or]

theorem breaks_cons {inWord : Bool} {c : Char} {text : List Char} :
    Breaks inWord (c :: text) ↔ Breaks (Text.isWord c) text := by
  cases text with
  | nil => rfl
  | cons d text => rw [Breaks, List.getLast?_cons_cons, Breaks, List.getLast?_cons]; rfl

/-- The first line of a text is named where the text starts, or it is the first one behind its first character. -/
theorem namesFirst_cons_iff {inWord : Bool} {c : Char} {text : List Char} {digits : List Nat} :
    NamesFirst inWord (c :: text) digits ↔ (inWord = false ∧ NamesLine (c :: text) digits) ∨
      ((∀ other, ¬(inWord = false ∧ NamesLine (c :: text) other)) ∧ NamesFirst (Text.isWord c) text digits) := by
  constructor
  · rintro ⟨before, rest, split, breaks, named, first⟩
    cases before with
    | nil =>
      cases split
      exact .inl ⟨breaks, named⟩
    | cons d before =>
      obtain ⟨rfl, behind⟩ := List.cons.inj split
      refine .inr ⟨?_, before, rest, behind, breaks_cons.mp breaks, named, ?_⟩
      · exact fun other here => first [] (c :: text) other rfl (Nat.succ_pos _) here.1 here.2
      · intro front back other whole short opens
        exact first (c :: front) back other (congrArg (c :: ·) whole) (Nat.succ_lt_succ short) (breaks_cons.mpr opens)
  · rintro (⟨breaks, named⟩ | ⟨never, before, rest, rfl, breaks, named, first⟩)
    · exact ⟨[], c :: text, rfl, breaks, named, fun _ _ _ _ short => nomatch short⟩
    · refine ⟨c :: before, rest, rfl, breaks_cons.mpr breaks, named, ?_⟩
      intro front back other whole short opens sooner
      cases front with
      | nil =>
        cases whole
        exact never other ⟨opens, sooner⟩
      | cons d front =>
        obtain ⟨rfl, behind⟩ := List.cons.inj whole
        exact first front back other behind (Nat.lt_of_succ_lt_succ short) (breaks_cons.mp opens) sooner

theorem lineDigitsFrom?_eq_some_iff {inWord : Bool} {text : List Char} {digits : List Nat} :
    lineDigitsFrom? inWord text = some digits ↔ NamesFirst inWord text digits := by
  induction text generalizing inWord with
  | nil =>
    refine ⟨nofun, ?_⟩
    rintro ⟨before, rest, split, _, named, _⟩
    obtain ⟨rfl, rfl⟩ := List.nil_eq_append_iff.mp split
    cases named
  | cons c text ih =>
    have here (other : List Nat) : (if inWord then none else lineDigitsHere? (c :: text)) = some other ↔
        inWord = false ∧ NamesLine (c :: text) other := by
      rw [← lineDigitsHere?_eq_some_iff]
      cases inWord <;> simp
    rw [lineDigitsFrom?_cons, Option.or_eq_some_iff, Option.eq_none_iff_forall_ne_some, namesFirst_cons_iff, ih]
    simp only [ne_eq, here]

/-- One of the lines that a text names is named first. -/
theorem Names.exists_first {inWord : Bool} {text : List Char} {digits : List Nat} (names : Names inWord text digits) :
    ∃ digits, NamesFirst inWord text digits := by
  obtain ⟨before, rest, split, breaks, named⟩ := names
  induction length : before.length using Nat.strongRecOn generalizing before rest digits with
  | ind count ih =>
    by_cases earlier : ∃ front back other, text = front ++ back ∧ front.length < before.length ∧
        Breaks inWord front ∧ NamesLine back other
    · obtain ⟨front, back, other, whole, short, opens, sooner⟩ := earlier
      exact ih front.length (length ▸ short) front back whole opens sooner rfl
    · exact ⟨digits, before, rest, split, breaks, named, fun front back other whole short opens sooner =>
        earlier ⟨front, back, other, whole, short, opens, sooner⟩⟩

private theorem lineDigitsFrom?_eq_none_iff {inWord : Bool} {text : List Char} :
    lineDigitsFrom? inWord text = none ↔ ∀ digits, ¬Names inWord text digits := by
  rw [Option.eq_none_iff_forall_ne_some]
  constructor
  · intro none digits names
    obtain ⟨first, namesFirst⟩ := names.exists_first
    exact none first (lineDigitsFrom?_eq_some_iff.mpr namesFirst)
  · intro never digits found
    obtain ⟨before, rest, split, breaks, named, _⟩ := lineDigitsFrom?_eq_some_iff.mp found
    exact never digits ⟨before, rest, split, breaks, named⟩

/-! ## A description and a place -/

/-- A blank and a bracket behind a text belong to no word and to no number, so that it names what it names alone. -/
theorem lineDigitsHere?_append {text : List Char} (nonempty : text ≠ []) (more : List Char) :
    lineDigitsHere? (text ++ ' ' :: '(' :: more) = lineDigitsHere? text := by
  have stop : ∀ c ∈ (' ' :: '(' :: more).head?, Text.decimalValue? c = none := by
    rintro _ ⟨⟩
    rfl
  have notI : ¬(' '.toLower = 'i' ∨ ' '.toNat = 0x130 ∨ ' '.toNat = 0x131) := by decide
  have notN : ' '.toLower ≠ 'n' := by decide
  match text, nonempty with
  | [a], _ => exact lineDigitsHere?_eq_none fun _ (.intro _ isI _ _ _ _ _) => notI isI
  | [a, b], _ => exact lineDigitsHere?_eq_none fun _ (.intro _ _ isN _ _ _ _) => notN isN
  | [a, b, c], _ => exact lineDigitsHere?_eq_none nofun
  | [a, b, c, d], _ =>
    change (if _ then _ else _) = none
    split <;> rfl
  | a :: b :: c :: d :: e :: rest, _ =>
    by_cases blank : e = ' '
    · subst blank
      rw [List.cons_append, List.cons_append, List.cons_append, List.cons_append, List.cons_append, lineDigitsHere?,
        lineDigitsHere?, Number.leadingDigits_append rest stop]
      cases leadingDigits rest with
      | mk digits tail => cases digits <;> rfl
    · simp [lineDigitsHere?, blank]

private theorem lineDigitsFrom?_append (inWord : Bool) (text more : List Char) :
    lineDigitsFrom? inWord (text ++ ' ' :: '(' :: more) =
      (lineDigitsFrom? inWord text).or (lineDigitsFrom? false ('(' :: more)) := by
  induction text generalizing inWord with
  | nil => exact lineDigitsFrom?_cons_of_ne (by decide) inWord ('(' :: more)
  | cons c text ih =>
    have here := lineDigitsHere?_append (List.cons_ne_nil c text) more
    rw [List.cons_append] at here
    rw [List.cons_append, lineDigitsFrom?_cons inWord, here, ih, lineDigitsFrom?_cons inWord c text, Option.or_assoc]

/-- A message: a description, and the line and the column of its place. -/
def placed (description : String) (line column : Nat) : String :=
  description ++ " (at line " ++ toString line ++ ", column " ++ toString column ++ ")"

/-- The digits that a number is written with. -/
def digitsOf (n : Nat) : List Nat :=
  (Nat.toDigits 10 n).map fun c => c.toNat - '0'.toNat

private theorem toList_placed (description : String) (line column : Nat) : ∃ more,
    (placed description line column).toList =
      description.toList ++ ' ' :: '(' :: ("at line ".toList ++ (Nat.toDigits 10 line ++ ',' :: more)) := by
  refine ⟨(" column " ++ toString column ++ ")").toList, ?_⟩
  have digits : (toString line).toList = Nat.toDigits 10 line := Nat.toList_repr
  simp only [placed, String.toList_append, digits, List.append_assoc]
  rfl

private theorem lineDigitsFrom?_place (line : Nat) (more : List Char) :
    lineDigitsFrom? false ('(' :: ("at line ".toList ++ (Nat.toDigits 10 line ++ ',' :: more))) =
      some (digitsOf line) := by
  have stop : ∀ c ∈ (',' :: more).head?, Text.decimalValue? c = none := by
    rintro _ ⟨⟩
    rfl
  have read : leadingDigits (Nat.toDigits 10 line ++ ',' :: more) = (digitsOf line, ',' :: more) := by
    rw [Number.leadingDigits_append _ stop, Number.leadingDigits_of_ascii Number.isDigit_of_mem_toDigits]
    rfl
  have nonempty : digitsOf line ≠ [] := List.map_eq_nil_iff.not.mpr Nat.toDigits_ne_nil
  obtain ⟨shown, split, values, stop⟩ := Number.leadingDigits_eq_iff.mp read
  have named : lineDigitsHere? ('l' :: 'i' :: 'n' :: 'e' :: ' ' :: (shown ++ ',' :: more)) = some (digitsOf line) :=
    lineDigitsHere?_eq_some_iff.mpr (.intro rfl (.inl rfl) rfl rfl values nonempty stop)
  rw [split]
  calc lineDigitsFrom? false ('(' :: 'a' :: 't' :: ' ' :: 'l' :: 'i' :: 'n' :: 'e' :: ' ' :: (shown ++ ',' :: more))
    _ = lineDigitsFrom? false ('l' :: 'i' :: 'n' :: 'e' :: ' ' :: (shown ++ ',' :: more)) := by
      iterate 4 rw [lineDigitsFrom?_cons_of_ne (by decide)]
      rfl
    _ = some (digitsOf line) := by
      rw [lineDigitsFrom?_cons, if_neg Bool.false_ne_true, named, Option.some_or]

/-- A message names what its description names first, and else its own line. -/
theorem lineDigitsFrom?_placed_iff {description : String} {line column : Nat} {digits : List Nat} :
    lineDigitsFrom? false (placed description line column).toList = some digits ↔
      NamesFirst false description.toList digits ∨
        ((∀ other, ¬Names false description.toList other) ∧ digits = digitsOf line) := by
  obtain ⟨more, message⟩ := toList_placed description line column
  rw [message, lineDigitsFrom?_append, lineDigitsFrom?_place, Option.or_eq_some_iff, lineDigitsFrom?_eq_some_iff,
    lineDigitsFrom?_eq_none_iff, Option.some_inj, eq_comm (a := digitsOf line)]

private theorem namedLine?_eq_some_iff {message : String} {line : Nat} :
    namedLine? message = .ok (some line) ↔ ∃ digits, lineDigitsFrom? false message.toList = some digits ∧
      digits.length ≤ maxDigits ∧ ofDigits digits = line := by
  unfold namedLine?
  cases lineDigitsFrom? false message.toList with
  | none => exact ⟨nofun, nofun⟩
  | some digits =>
    dsimp only
    by_cases long : maxDigits < digits.length
    · rw [if_pos long]
      refine ⟨nofun, ?_⟩
      rintro ⟨_, ⟨⟩, short, _⟩
      exact absurd long (Nat.not_lt.mpr short)
    · rw [if_neg long]
      constructor
      · rintro ⟨⟩
        exact ⟨digits, rfl, Nat.not_lt.mp long, rfl⟩
      · rintro ⟨_, ⟨⟩, _, rfl⟩
        rfl

private theorem ofDigits_digitsOf (n : Nat) : ofDigits (digitsOf n) = n :=
  Json.digitsValue_toDigits n

/-- The line of a place is found behind a description: the description names no line, or it happens to name this one
first. A number has to be short enough to be read. -/
inductive FindsLine (description : List Char) (line : Nat) : Prop where
  | silent (never : ∀ digits, ¬Names false description digits) (short : (digitsOf line).length ≤ maxDigits)
  | same {digits : List Nat} (first : NamesFirst false description digits) (short : digits.length ≤ maxDigits)
    (equal : ofDigits digits = line)

theorem namedLine?_placed_iff {description : String} {line column : Nat} :
    namedLine? (placed description line column) = .ok (some line) ↔ FindsLine description.toList line := by
  rw [namedLine?_eq_some_iff]
  constructor
  · rintro ⟨digits, found, short, equal⟩
    rcases lineDigitsFrom?_placed_iff.mp found with first | ⟨never, rfl⟩
    · exact .same first short equal
    · exact .silent never short
  · rintro (⟨never, short⟩ | ⟨first, short, equal⟩)
    · exact ⟨digitsOf line, lineDigitsFrom?_placed_iff.mpr (.inr ⟨never, rfl⟩), short, ofDigits_digitsOf line⟩
    · exact ⟨_, lineDigitsFrom?_placed_iff.mpr (.inl first), short, equal⟩

/-- The message about a fault gives its place, unless the fault is at the end of the document. -/
theorem placed_of_parse {text : List Char} {message : String} (refused : parse text = .error (.malformed message)) :
    (∃ description, message = description ++ " (at end of document)") ∨
      ∃ description line column, message = placed description line column := by
  unfold parse at refused
  dsimp only at refused
  split at refused
  · cases refused
  · next fault left _ =>
    cases refused
    cases left with
    | nil =>
      have closing : " (at end of document)" = " (at " ++ ("end of document" ++ ")") := rfl
      exact .inl ⟨fault.description, by simp only [faultMessage, place, closing, String.append_assoc]⟩
    | cons c left =>
      have opening : " (at line " = " (at " ++ "line " := rfl
      exact .inr ⟨fault.description, _, _, by simp only [faultMessage, place, placed, opening, String.append_assoc]; rfl⟩
  · cases refused

end CatalogSearch.Toml
