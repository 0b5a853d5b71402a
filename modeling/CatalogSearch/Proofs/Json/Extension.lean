import CatalogSearch.Proofs.Json.Number

/-! # Reading a text that goes on

The reader takes no notice of what follows the part that it reads, unless that goes on with a number at the end. So
what is read of a text is read of every longer text as well, and only a fault may turn into something else.
-/

namespace CatalogSearch.Json

open Number

/-- Characters with which a number may go on. -/
def goesOn (c : Char) : Bool :=
  c.isDigit || c == '.' || c == 'e' || c == 'E' || c == '+' || c == '-'

/-- A text with which no number goes on. -/
def Stops (text : List Char) : Prop :=
  ∀ c ∈ text.head?, goesOn c = false

theorem stops_cons {c : Char} (stops : goesOn c = false) (rest : List Char) : Stops (c :: rest) := by
  rintro _ ⟨⟩
  exact stops

theorem Stops.ne {c : Char} {rest : List Char} (stops : Stops (c :: rest)) {other : Char}
    (numeral : goesOn other = true) : c ≠ other := by
  rintro rfl
  exact absurd (stops c rfl) (by simp [numeral])

theorem Stops.not_isDigit {more : List Char} (stops : Stops more) : ∀ c ∈ more.head?, c.isDigit = false := by
  intro c member
  have stop := stops c member
  simp only [goesOn, Bool.or_eq_false_iff] at stop
  exact stop.1.1.1.1.1

/-! ## Outcomes -/

section Extends

variable {α β : Type} {more : List Char}

/-- The longer text is read as the shorter one, with more left behind it, unless the shorter one is malformed. -/
def Extends (more : List Char) (short long : Except ReadError (α × List Char)) : Prop :=
  (∃ fault left, short = .error (.malformed fault left)) ∨
    long = short.map fun (found, rest) => (found, rest ++ more)

theorem extends_malformed (fault : Fault) (left : List Char) (long : Except ReadError (α × List Char)) :
    Extends more (.error (.malformed fault left)) long :=
  .inl ⟨fault, left, rfl⟩

theorem extends_ok (found : α) (rest : List Char) : Extends more (.ok (found, rest)) (.ok (found, rest ++ more)) :=
  .inr rfl

theorem extends_number (error : IntegerError) :
    Extends (α := α) more (.error (.number error)) (.error (.number error)) :=
  .inr rfl

/-- Steps that are taken one after the other. -/
theorem Extends.bind {short long : Except ReadError (α × List Char)}
    {next later : α × List Char → Except ReadError (β × List Char)} (first : Extends more short long)
    (step : ∀ found rest, short = .ok (found, rest) → Extends more (next (found, rest)) (later (found, rest ++ more))) :
    Extends more (short >>= next) (long >>= later) := by
  rcases first with ⟨fault, left, rfl⟩ | rfl
  · exact extends_malformed fault left _
  · cases short with
    | ok outcome => exact step outcome.1 outcome.2 rfl
    | error reason =>
      cases reason with
      | malformed fault left => exact extends_malformed fault left _
      | number error => exact extends_number error

end Extends

/-! ## Numbers -/

/-- The exponent behind its mark, after the sign of it. -/
def exponentFrom (signed : Bool × List Char) : Option (Int × List Char) :=
  match spanDigits signed.2 with
  | ([], _) => none
  | (digits, tail) => some (if signed.1 then -(digitsValue digits : Int) else digitsValue digits, tail)

theorem readExponent?_cons (mark : Char) (rest : List Char) :
    readExponent? (mark :: rest) = if mark = 'e' || mark = 'E' then exponentFrom (readSign rest) else none := by
  by_cases minus : ∃ more, rest = '-' :: more
  · obtain ⟨more, rfl⟩ := minus
    rfl
  by_cases plus : ∃ more, rest = '+' :: more
  · obtain ⟨more, rfl⟩ := plus
    rfl
  have noMinus (more : List Char) : rest ≠ '-' :: more := fun same => minus ⟨more, same⟩
  have noPlus (more : List Char) : rest ≠ '+' :: more := fun same => plus ⟨more, same⟩
  rw [readExponent?, readSign]
  · rfl
  all_goals assumption

/-- A number behind its sign; `text` is where it starts. -/
def numberFrom (text : List Char) (signed : Bool × List Char) : Except ReadError (Value × List Char) :=
  match spanWhole signed.2 with
  | ([], _) => .error (.malformed .expectingValue text)
  | (whole, rest) =>
    let (places, rest) := spanPlaces rest
    let digits := digitsValue (whole ++ places)
    match readExponent? rest with
    | some (exponent, rest) => .ok (.float (Double.ofDecimal signed.1 digits (exponent - places.length)), rest)
    | none =>
      if places.isEmpty then
        if maxDigits < whole.length then .error (.number (.tooManyDigits whole.length))
        else .ok (.int (if signed.1 then -(digitsValue whole : Int) else digitsValue whole), rest)
      else .ok (.float (Double.ofDecimal signed.1 digits (-(places.length : Int))), rest)

theorem readNumber_eq (text : List Char) : readNumber text = numberFrom text (readMinus text) := by
  by_cases minus : ∃ rest, text = '-' :: rest
  · obtain ⟨rest, rfl⟩ := minus
    rfl
  · have noMinus (rest : List Char) : text ≠ '-' :: rest := fun same => minus ⟨rest, same⟩
    rw [readNumber, readMinus]
    · rfl
    all_goals assumption

section Numbers

variable {more : List Char} (stops : Stops more)

include stops

theorem spanDigits_extend (text : List Char) :
    spanDigits (text ++ more) = ((spanDigits text).1, (spanDigits text).2 ++ more) := by
  simp only [spanDigits, List.span_eq_takeWhile_dropWhile]
  induction text with
  | nil =>
    have none : spanDigits ([] ++ more) = ([], more) := spanDigits_append (List.forall_mem_nil _) stops.not_isDigit
    rwa [spanDigits, List.span_eq_takeWhile_dropWhile] at none
  | cons c rest ih =>
    cases digit : c.isDigit with
    | true =>
      obtain ⟨taken, left⟩ := Prod.mk.inj ih
      simp only [List.cons_append, List.takeWhile_cons, List.dropWhile_cons, digit, if_true, taken, left]
    | false =>
      simp only [List.cons_append, List.takeWhile_cons, List.dropWhile_cons, digit, if_false, Bool.false_eq_true]

omit stops in
theorem spanWhole_of_ne {c : Char} (other : c ≠ '0') (rest : List Char) :
    spanWhole (c :: rest) = spanDigits (c :: rest) := by
  rw [spanWhole]
  exact fun _ same => other (List.cons.inj same).1

private theorem spanWhole_extend (text : List Char) :
    spanWhole (text ++ more) = ((spanWhole text).1, (spanWhole text).2 ++ more) := by
  cases text with
  | nil =>
    cases more with
    | nil => rfl
    | cons c rest =>
      rw [List.nil_append, spanWhole_of_ne (stops.ne (by decide))]
      exact spanDigits_extend stops []
  | cons c rest =>
    by_cases zero : c = '0'
    · subst zero
      rfl
    · rw [List.cons_append, spanWhole_of_ne zero, spanWhole_of_ne zero]
      exact spanDigits_extend stops (c :: rest)

omit stops in
theorem spanPlaces_of_ne {c : Char} (other : c ≠ '.') (rest : List Char) :
    spanPlaces (c :: rest) = ([], c :: rest) := by
  rw [spanPlaces]
  exact fun _ same => other (List.cons.inj same).1

private theorem spanPlaces_extend (text : List Char) :
    spanPlaces (text ++ more) = ((spanPlaces text).1, (spanPlaces text).2 ++ more) := by
  cases text with
  | nil =>
    cases more with
    | nil => rfl
    | cons c rest => exact spanPlaces_of_ne (stops.ne (by decide)) rest
  | cons c rest =>
    by_cases point : c = '.'
    · subst point
      rw [List.cons_append, spanPlaces, spanPlaces, spanDigits_extend stops]
      cases spanDigits rest with
      | mk places left => cases places <;> rfl
    · rw [List.cons_append, spanPlaces_of_ne point, spanPlaces_of_ne point]
      rfl

omit stops in
theorem readSign_of_ne {c : Char} (minus : c ≠ '-') (plus : c ≠ '+') (rest : List Char) :
    readSign (c :: rest) = (false, c :: rest) := by
  rw [readSign]
  · exact fun _ same => minus (List.cons.inj same).1
  · exact fun _ same => plus (List.cons.inj same).1

private theorem readSign_extend (text : List Char) :
    readSign (text ++ more) = ((readSign text).1, (readSign text).2 ++ more) := by
  cases text with
  | nil =>
    cases more with
    | nil => rfl
    | cons c rest => exact readSign_of_ne (stops.ne (by decide)) (stops.ne (by decide)) rest
  | cons c rest =>
    by_cases minus : c = '-'
    · subst minus
      rfl
    by_cases plus : c = '+'
    · subst plus
      rfl
    rw [List.cons_append, readSign_of_ne minus plus, readSign_of_ne minus plus]
    rfl

private theorem readExponent?_extend (text : List Char) :
    readExponent? (text ++ more) = (readExponent? text).map fun (exponent, rest) => (exponent, rest ++ more) := by
  cases text with
  | nil =>
    cases more with
    | nil => rfl
    | cons c rest =>
      have small : c ≠ 'e' := stops.ne (by decide)
      have large : c ≠ 'E' := stops.ne (by decide)
      rw [List.nil_append, readExponent?_cons, if_neg (by simp [small, large])]
      rfl
  | cons mark rest =>
    rw [List.cons_append, readExponent?_cons, readExponent?_cons, readSign_extend stops]
    split
    · rw [exponentFrom, exponentFrom, spanDigits_extend stops]
      cases spanDigits (readSign rest).2 with
      | mk digits left => cases digits <;> rfl
    · rfl

omit stops in
theorem readMinus_of_ne {c : Char} (minus : c ≠ '-') (rest : List Char) :
    readMinus (c :: rest) = (false, c :: rest) := by
  rw [readMinus]
  exact fun _ same => minus (List.cons.inj same).1

private theorem readMinus_extend (text : List Char) :
    readMinus (text ++ more) = ((readMinus text).1, (readMinus text).2 ++ more) := by
  cases text with
  | nil =>
    cases more with
    | nil => rfl
    | cons c rest => exact readMinus_of_ne (stops.ne (by decide)) rest
  | cons c rest =>
    by_cases minus : c = '-'
    · subst minus
      rfl
    · rw [List.cons_append, readMinus_of_ne minus, readMinus_of_ne minus]
      rfl

/-- A number is read in the same way whatever stands behind it. -/
theorem readNumber_extend (text : List Char) : Extends more (readNumber text) (readNumber (text ++ more)) := by
  rw [readNumber_eq, readNumber_eq, readMinus_extend stops, numberFrom, numberFrom, spanWhole_extend stops]
  cases spanWhole (readMinus text).2 with
  | mk whole rest =>
    cases whole with
    | nil => exact extends_malformed _ _ _
    | cons first others =>
      dsimp only
      rw [spanPlaces_extend stops, readExponent?_extend stops]
      cases readExponent? (spanPlaces rest).2 with
      | some found => exact extends_ok _ _
      | none =>
        dsimp only [Option.map_none]
        split
        · split
          · exact extends_number _
          · exact extends_ok _ _
        · exact extends_ok _ _

omit stops in
private theorem readMinus_cases (text : List Char) : text = (readMinus text).2 ∨ text = '-' :: (readMinus text).2 := by
  cases text with
  | nil => exact .inl rfl
  | cons c rest =>
    by_cases minus : c = '-'
    · subst minus
      exact .inr rfl
    · rw [readMinus_of_ne minus]
      exact .inl rfl

omit stops in
/-- A number starts with a digit or with a minus sign and a digit. -/
theorem starts_of_readNumber (text : List Char) :
    (∃ fault left, readNumber text = .error (.malformed fault left)) ∨
      ∃ c rest, c.isDigit = true ∧ (text = c :: rest ∨ text = '-' :: c :: rest) := by
  rw [readNumber_eq, numberFrom]
  have parts := readMinus_cases text
  cases body : (readMinus text).2 with
  | nil => exact .inl ⟨_, _, rfl⟩
  | cons c rest =>
    rw [body] at parts
    cases digit : c.isDigit with
    | true => exact .inr ⟨c, rest, digit, parts⟩
    | false =>
      have other : c ≠ '0' := by
        rintro rfl
        cases digit
      rw [spanWhole_of_ne other, spanDigits, List.span_eq_takeWhile_dropWhile,
        List.takeWhile_cons_of_neg (by simp [digit])]
      exact .inl ⟨_, _, rfl⟩

private theorem readScalar_extend (text : List Char) : Extends more (readScalar text) (readScalar (text ++ more)) := by
  unfold readScalar
  split
  case h_7 =>
    rcases starts_of_readNumber text with ⟨fault, left, same⟩ | ⟨c, rest, digit, starts⟩
    · rw [same]
      exact extends_malformed _ _ _
    · have number := readNumber_extend stops text
      obtain ⟨unsigned, signed⟩ := readScalar_of_isDigit digit (rest ++ more)
      change Extends more _ (readScalar (text ++ more))
      rcases starts with rfl | rfl
      · rwa [List.cons_append, unsigned]
      · rwa [List.cons_append, List.cons_append, signed]
  all_goals exact extends_ok _ _

end Numbers

/-! ## Strings -/

theorem hexUnit?_extend {text rest : List Char} {unit : Nat} (read : hexUnit? text = some (unit, rest))
    (more : List Char) : rest ≠ [] ∧ hexUnit? (text ++ more) = some (unit, rest ++ more) := by
  unfold hexUnit? at read
  split at read
  · simp only [Option.bind_eq_bind, Option.bind_eq_some_iff, Option.some.injEq, Prod.mk.injEq] at read
    obtain ⟨first, firstIs, second, secondIs, third, thirdIs, fourth, fourthIs, rfl, rfl⟩ := read
    refine ⟨List.cons_ne_nil _ _, ?_⟩
    simp only [List.cons_append, hexUnit?, firstIs, secondIs, thirdIs, fourthIs, Option.bind_eq_bind, Option.bind_some]
  · cases read

/-- Half an escape does not come about by text that follows, unless its backslash is all there was. -/
theorem not_escape {text : List Char} (some : text ≠ []) (single : text ≠ ['\\'])
    (lone : ∀ following, text = '\\' :: 'u' :: following → False) (more following : List Char) :
    text ++ more ≠ '\\' :: 'u' :: following := by
  intro same
  cases text with
  | nil => exact some rfl
  | cons c rest =>
    obtain ⟨rfl, tail⟩ := List.cons.inj same
    cases rest with
    | nil => exact single rfl
    | cons mark others =>
      obtain ⟨rfl, _⟩ := List.cons.inj tail
      exact lone others rfl

/-- More text makes no difference to an escaped unit, nor to a pair of them, unless a single backslash is left. -/
theorem readUnit_extend {start body rest : List Char} {found : Option Char}
    (read : readChar start ('\\' :: 'u' :: body) = .ok (found, rest)) :
    found.isSome ∧ (rest ≠ ['\\'] → ∀ start' more : List Char,
      readChar start' ('\\' :: 'u' :: (body ++ more)) = .ok (found, rest ++ more)) := by
  rw [readChar] at read
  split at read
  · cases read
  next unit left unitIs =>
    have longer := hexUnit?_extend unitIs
    split at read
    · next high =>
      split at read
      · next following =>
        split at read
        · cases read
        next second after secondIs =>
          have further := hexUnit?_extend secondIs
          split at read
          · next low =>
            cases read
            refine ⟨rfl, fun _ start' more => ?_⟩
            simp only [List.cons_append, readChar, (longer more).2, high, if_true, (further more).2, low]
          · next low =>
            cases read
            refine ⟨rfl, fun _ start' more => ?_⟩
            simp only [List.cons_append, readChar, (longer more).2, high, if_true, (further more).2, low, if_false,
              Bool.false_eq_true]
      · -- a high surrogate that stands alone has no second unit behind it in the longer text either
        next lone =>
        cases read
        refine ⟨rfl, fun single start' more => ?_⟩
        rw [readChar, (longer more).2]
        dsimp only
        rw [if_pos high]
        split
        · next following same => exact absurd same (not_escape (longer []).1 single lone more following)
        · rfl
    · next high =>
      cases read
      refine ⟨rfl, fun _ start' more => ?_⟩
      simp only [readChar, (longer more).2, high, if_false, Bool.false_eq_true]

/-- Behind a character other than a single backslash, more text makes no difference to it. -/
theorem readChar_extend {start text rest : List Char} {found : Option Char}
    (read : readChar start text = .ok (found, rest)) :
    (found = none ∧ text = '"' :: rest) ∨ found.isSome ∧ (rest ≠ ['\\'] → ∀ start' more : List Char,
      readChar start' (text ++ more) = .ok (found, rest ++ more)) := by
  unfold readChar at read
  split at read
  · cases read
  · cases read
    exact .inl ⟨rfl, rfl⟩
  · cases read
  · exact .inr (readUnit_extend read)
  · split at read
    · next escape =>
      cases read
      exact .inr ⟨rfl, fun _ start' more => readChar_short escape start' _⟩
    · cases read
  · next c _ quote single _ short =>
    split at read
    · cases read
    · next visible =>
      cases read
      refine .inr ⟨rfl, fun _ start' more => readChar_plain quote ?_ (Nat.not_lt.mp visible) start' _⟩
      intro backslash
      cases rest with
      | nil => exact single backslash rfl
      | cons mark others => exact short mark others backslash rfl

private theorem malformed_of_readChar {start text : List Char} {reason : ReadError}
    (read : readChar start text = .error reason) : ∃ fault left, reason = .malformed fault left := by
  unfold readChar at read
  split at read
  · cases read
    exact ⟨_, _, rfl⟩
  · cases read
  · cases read
    exact ⟨_, _, rfl⟩
  · split at read
    · cases read
      exact ⟨_, _, rfl⟩
    split at read
    · split at read
      · split at read
        · cases read
          exact ⟨_, _, rfl⟩
        · split at read <;> cases read
      · cases read
    · cases read
  · split at read
    · cases read
    · cases read
      exact ⟨_, _, rfl⟩
  · split at read
    · cases read
      exact ⟨_, _, rfl⟩
    · cases read

private theorem malformed_of_readString {start text : List Char} {fuel : Nat} (short : text = [] ∨ text = ['\\']) :
    readString start fuel text = .error (.malformed .unterminatedString start) := by
  cases fuel with
  | zero => rfl
  | succ fuel => rcases short with rfl | rfl <;> rfl

theorem readString_extend {start start' text : List Char} {fuel fuel' : Nat} (enough : fuel ≤ fuel')
    (more : List Char) :
    Extends more (readString start fuel text) (readString start' fuel' (text ++ more)) := by
  induction fuel generalizing fuel' text with
  | zero => exact extends_malformed _ _ _
  | succ fuel ih =>
    obtain ⟨fuel', rfl⟩ := Nat.exists_eq_add_of_le' (Nat.one_le_of_lt enough)
    rw [readString, readString]
    cases read : readChar start text with
    | error reason =>
      obtain ⟨fault, left, rfl⟩ := malformed_of_readChar read
      exact extends_malformed _ _ _
    | ok outcome =>
      obtain ⟨found, rest⟩ := outcome
      rcases readChar_extend read with ⟨rfl, rfl⟩ | ⟨isChar, longer⟩
      · exact extends_ok [] rest
      obtain ⟨c, rfl⟩ := Option.isSome_iff_exists.mp isChar
      by_cases single : rest = ['\\']
      · left
        refine ⟨.unterminatedString, start, ?_⟩
        change (readString start fuel rest >>= _) = _
        rw [malformed_of_readString (.inr single)]
        rfl
      · rw [longer single]
        exact (ih (Nat.le_of_succ_le_succ enough)).bind fun chars left _ => extends_ok (c :: chars) left

/-! ## Values -/

theorem skipSpace_extend {text : List Char} (solid : skipSpace text ≠ []) (more : List Char) :
    skipSpace (text ++ more) = skipSpace text ++ more := by
  rw [skipSpace, skipSpace, List.dropWhile_append, if_neg]
  rw [List.isEmpty_iff]
  exact solid

theorem skipSpace_extend_cons {text rest : List Char} {c : Char} (begun : skipSpace text = c :: rest)
    (more : List Char) : skipSpace (text ++ more) = c :: (rest ++ more) := by
  rw [skipSpace_extend (begun ▸ List.cons_ne_nil _ _), begun, List.cons_append]

theorem readValue_nil (fuel : Nat) : readValue fuel [] = .error (.malformed .expectingValue []) := by
  cases fuel <;> rfl

theorem readItems_nil (fuel : Nat) : readItems fuel [] = .error (.malformed .expectingValue []) := by
  cases fuel with
  | zero => rfl
  | succ fuel =>
    rw [readItems, readValue_nil]
    rfl

theorem readEntries_nil (fuel : Nat) : readEntries fuel [] = .error (.malformed .expectingName []) := by
  cases fuel <;> rfl

theorem readValue_scalar {c : Char} (quote : c ≠ '"') (bracket : c ≠ '[') (brace : c ≠ '\x7b') (fuel : Nat)
    (rest : List Char) : readValue (fuel + 1) (c :: rest) = readScalar (c :: rest) := by
  rw [readValue]
  · exact fun _ same => quote (List.cons.inj same).1
  · exact fun _ same => bracket (List.cons.inj same).1
  · exact fun _ same => brace (List.cons.inj same).1

/-- Behind an opening bracket the items follow, unless there is a closing one. -/
theorem readValue_bracket_cons {c : Char} (item : c ≠ ']') {text rest : List Char} (begun : skipSpace text = c :: rest)
    (fuel : Nat) :
    readValue (fuel + 1) ('[' :: text) =
      (readItems fuel (c :: rest) >>= fun (items, left) => .ok (.list items, left)) := by
  rw [readValue, begun]
  split
  · next same => exact absurd (List.cons.inj same).1 item
  · rfl

/-- Behind an opening brace the entries follow, unless there is a closing one. -/
theorem readValue_brace_cons {c : Char} (entry : c ≠ '\x7d') {text rest : List Char}
    (begun : skipSpace text = c :: rest) (fuel : Nat) :
    readValue (fuel + 1) ('\x7b' :: text) =
      (readEntries fuel (c :: rest) >>= fun (entries, left) => .ok (.object (Table.ofEntries entries), left)) := by
  rw [readValue, begun]
  split
  · next same => exact absurd (List.cons.inj same).1 entry
  · rfl

/-- What is done behind an item: the list ends, or another item follows. -/
def afterItem (fuel : Nat) : Value × List Char → Except ReadError (List Value × List Char) := fun (item, rest) =>
  match skipSpace rest with
  | ']' :: rest => .ok ([item], rest)
  | ',' :: rest => do
    let (items, rest) ← readItems fuel (skipSpace rest)
    .ok (item :: items, rest)
  | rest => .error (.malformed .expectingComma rest)

/-- What is done behind the value of an entry: the table ends, or another entry follows. -/
def afterEntry (fuel : Nat) (name : String) :
    Value × List Char → Except ReadError (List (String × Value) × List Char) := fun (value, rest) =>
  match skipSpace rest with
  | '\x7d' :: rest => .ok ([(name, value)], rest)
  | ',' :: rest => do
    let (entries, rest) ← readEntries fuel (skipSpace rest)
    .ok ((name, value) :: entries, rest)
  | rest => .error (.malformed .expectingComma rest)

/-- What is done behind the name of an entry: its value follows behind a colon. -/
def afterName (fuel : Nat) : List Char × List Char → Except ReadError (List (String × Value) × List Char) :=
  fun (name, rest) => match skipSpace rest with
  | ':' :: rest => readValue fuel (skipSpace rest) >>= afterEntry fuel (String.ofList name)
  | rest => .error (.malformed .expectingColon rest)

section Behind

variable {left rest : List Char}

theorem afterItem_closed (closed : skipSpace left = ']' :: rest) (fuel : Nat) (item : Value) :
    afterItem fuel (item, left) = .ok ([item], rest) := by
  rw [afterItem, closed]
  rfl

theorem afterItem_comma (comma : skipSpace left = ',' :: rest) (fuel : Nat) (item : Value) :
    afterItem fuel (item, left) =
      (readItems fuel (skipSpace rest) >>= fun (items, behind) => .ok (item :: items, behind)) := by
  rw [afterItem, comma]
  rfl

theorem afterEntry_closed (closed : skipSpace left = '\x7d' :: rest) (fuel : Nat) (name : String) (value : Value) :
    afterEntry fuel name (value, left) = .ok ([(name, value)], rest) := by
  rw [afterEntry, closed]
  rfl

theorem afterEntry_comma (comma : skipSpace left = ',' :: rest) (fuel : Nat) (name : String) (value : Value) :
    afterEntry fuel name (value, left) =
      (readEntries fuel (skipSpace rest) >>= fun (entries, behind) => .ok ((name, value) :: entries, behind)) := by
  rw [afterEntry, comma]
  rfl

theorem afterName_colon (colon : skipSpace left = ':' :: rest) (fuel : Nat) (name : List Char) :
    afterName fuel (name, left) = (readValue fuel (skipSpace rest) >>= afterEntry fuel (String.ofList name)) := by
  rw [afterName, colon]
  rfl

end Behind

theorem readItems_succ (fuel : Nat) (text : List Char) :
    readItems (fuel + 1) text = readValue fuel text >>= afterItem fuel := by
  rw [readItems]
  rfl

theorem readEntries_quote (fuel : Nat) (body : List Char) :
    readEntries (fuel + 1) ('"' :: body) = readString ('"' :: body) fuel body >>= afterName fuel := by
  rw [readEntries]
  rfl

theorem readEntries_other {c : Char} (quote : c ≠ '"') (fuel : Nat) (rest : List Char) :
    readEntries (fuel + 1) (c :: rest) = .error (.malformed .expectingName (c :: rest)) := by
  rw [readEntries]
  exact fun _ same => quote (List.cons.inj same).1

section Values

variable {more : List Char} (stops : Stops more)

include stops

private theorem readValue_extend_succ {fuel fuel' : Nat}
    (ofItems : ∀ text, Extends more (readItems fuel text) (readItems fuel' (text ++ more)))
    (ofEntries : ∀ text, Extends more (readEntries fuel text) (readEntries fuel' (text ++ more)))
    (enough : fuel ≤ fuel') (text : List Char) :
    Extends more (readValue (fuel + 1) text) (readValue (fuel' + 1) (text ++ more)) := by
  cases text with
  | nil => exact extends_malformed _ _ _
  | cons c rest =>
    rw [List.cons_append]
    by_cases quote : c = '"'
    · subst quote
      exact (readString_extend enough more).bind fun chars left _ => extends_ok _ left
    by_cases bracket : c = '['
    · subst bracket
      cases begun : skipSpace rest with
      | nil =>
        rw [readValue, begun]
        dsimp only
        rw [readItems_nil]
        exact extends_malformed _ _ _
      | cons first others =>
        have longer := skipSpace_extend_cons begun more
        by_cases closed : first = ']'
        · subst closed
          rw [readValue, readValue, begun, longer]
          exact extends_ok _ others
        · rw [readValue_bracket_cons closed begun, readValue_bracket_cons closed longer]
          exact (ofItems (first :: others)).bind fun items left _ => extends_ok _ left
    by_cases brace : c = '\x7b'
    · subst brace
      cases begun : skipSpace rest with
      | nil =>
        rw [readValue, begun]
        dsimp only
        rw [readEntries_nil]
        exact extends_malformed _ _ _
      | cons first others =>
        have longer := skipSpace_extend_cons begun more
        by_cases closed : first = '\x7d'
        · subst closed
          rw [readValue, readValue, begun, longer]
          exact extends_ok _ others
        · rw [readValue_brace_cons closed begun, readValue_brace_cons closed longer]
          exact (ofEntries (first :: others)).bind fun entries left _ => extends_ok _ left
    rw [readValue_scalar quote bracket brace, readValue_scalar quote bracket brace]
    exact readScalar_extend stops (c :: rest)

omit stops in
/-- Space in front of a part makes no difference, if the part cannot be empty. -/
theorem extends_skipSpace {α : Type} {read longer : List Char → Except ReadError (α × List Char)}
    (empty : ∃ fault left, read [] = .error (.malformed fault left))
    (extends' : ∀ text, Extends more (read text) (longer (text ++ more))) (text : List Char) :
    Extends more (read (skipSpace text)) (longer (skipSpace (text ++ more))) := by
  cases begun : skipSpace text with
  | nil =>
    obtain ⟨fault, left, malformed⟩ := empty
    rw [malformed]
    exact extends_malformed fault left _
  | cons c rest =>
    rw [skipSpace_extend_cons begun]
    exact extends' (c :: rest)

omit stops in
private theorem afterItem_extend {fuel fuel' : Nat}
    (ofItems : ∀ text, Extends more (readItems fuel text) (readItems fuel' (text ++ more))) (item : Value)
    (rest : List Char) : Extends more (afterItem fuel (item, rest)) (afterItem fuel' (item, rest ++ more)) := by
  rw [afterItem, afterItem]
  cases begun : skipSpace rest with
  | nil => exact extends_malformed _ _ _
  | cons mark tail =>
    rw [skipSpace_extend_cons begun]
    split
    · next same =>
      cases same
      exact extends_ok _ tail
    · next same =>
      cases same
      exact (extends_skipSpace ⟨_, _, readItems_nil fuel⟩ ofItems tail).bind fun items left _ => extends_ok _ left
    · exact extends_malformed _ _ _

omit stops in
private theorem afterEntry_extend {fuel fuel' : Nat}
    (ofEntries : ∀ text, Extends more (readEntries fuel text) (readEntries fuel' (text ++ more))) (name : String)
    (value : Value) (rest : List Char) :
    Extends more (afterEntry fuel name (value, rest)) (afterEntry fuel' name (value, rest ++ more)) := by
  rw [afterEntry, afterEntry]
  cases begun : skipSpace rest with
  | nil => exact extends_malformed _ _ _
  | cons mark tail =>
    rw [skipSpace_extend_cons begun]
    split
    · next same =>
      cases same
      exact extends_ok _ tail
    · next same =>
      cases same
      exact (extends_skipSpace ⟨_, _, readEntries_nil fuel⟩ ofEntries tail).bind fun entries left _ =>
        extends_ok _ left
    · exact extends_malformed _ _ _

omit stops in
private theorem afterName_extend {fuel fuel' : Nat}
    (ofValue : ∀ text, Extends more (readValue fuel text) (readValue fuel' (text ++ more)))
    (ofEntries : ∀ text, Extends more (readEntries fuel text) (readEntries fuel' (text ++ more)))
    (name rest : List Char) : Extends more (afterName fuel (name, rest)) (afterName fuel' (name, rest ++ more)) := by
  rw [afterName, afterName]
  cases begun : skipSpace rest with
  | nil => exact extends_malformed _ _ _
  | cons mark tail =>
    rw [skipSpace_extend_cons begun]
    split
    · next same =>
      cases same
      exact (extends_skipSpace ⟨_, _, readValue_nil fuel⟩ ofValue tail).bind fun value left _ =>
        afterEntry_extend ofEntries _ value left
    · exact extends_malformed _ _ _

/-- What is read of a text is read of each longer one, with any more fuel. -/
theorem read_extend {fuel fuel' : Nat} (enough : fuel ≤ fuel') :
    (∀ text, Extends more (readValue fuel text) (readValue fuel' (text ++ more))) ∧
      (∀ text, Extends more (readItems fuel text) (readItems fuel' (text ++ more))) ∧
      ∀ text, Extends more (readEntries fuel text) (readEntries fuel' (text ++ more)) := by
  -- the readers call each other with one less, so that all three are extended together
  induction fuel generalizing fuel' with
  | zero => exact ⟨fun _ => extends_malformed _ _ _, fun _ => extends_malformed _ _ _, fun _ => extends_malformed _ _ _⟩
  | succ fuel ih =>
    obtain ⟨fuel', rfl⟩ := Nat.exists_eq_add_of_le' (Nat.one_le_of_lt enough)
    have fewer := Nat.le_of_succ_le_succ enough
    obtain ⟨ofValue, ofItems, ofEntries⟩ := ih fewer
    refine ⟨readValue_extend_succ stops ofItems ofEntries fewer, ?_, ?_⟩
    · intro text
      rw [readItems_succ, readItems_succ]
      exact (ofValue text).bind fun item rest _ => afterItem_extend ofItems item rest
    · intro text
      cases text with
      | nil => exact extends_malformed _ _ _
      | cons c body =>
        by_cases quote : c = '"'
        · subst quote
          rw [List.cons_append, readEntries_quote, readEntries_quote]
          exact (readString_extend fewer more).bind fun name rest _ => afterName_extend ofValue ofEntries name rest
        · rw [readEntries_other quote]
          exact extends_malformed _ _ _

end Values

end CatalogSearch.Json
