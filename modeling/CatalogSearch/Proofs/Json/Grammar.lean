import CatalogSearch.Proofs.Json.Document

/-! # The grammar of JSON

The texts of the standard, with neither names for numbers that are not finite nor marks in front. Each of them is read
to its end, unless it holds a number that is too long.
-/

namespace CatalogSearch.Json

open Number

/-! ## Numbers and strings -/

/-- At least one digit. -/
structure IsDigits (text : List Char) : Prop where
  nonempty : text ≠ []
  ascii : ∀ c ∈ text, c.isDigit = true

/-- A zero, or digits that start with another one. -/
inductive IsWhole : List Char → Prop where
  | zero : IsWhole ['0']
  | digits {first : Char} {rest : List Char} (nonzero : first ≠ '0') (ascii : ∀ c ∈ first :: rest, c.isDigit = true) :
    IsWhole (first :: rest)

/-- The places behind a point, if there are any. -/
inductive IsFraction : List Char → Prop where
  | none : IsFraction []
  | places {digits : List Char} (ascii : IsDigits digits) : IsFraction ('.' :: digits)

/-- A power of ten, if there is one. -/
inductive IsExponent : List Char → Prop where
  | none : IsExponent []
  | power {mark : Char} {sign digits : List Char} (letter : mark = 'e' ∨ mark = 'E')
    (signed : sign = [] ∨ sign = ['+'] ∨ sign = ['-']) (ascii : IsDigits digits) :
    IsExponent (mark :: (sign ++ digits))

/-- A number. -/
inductive IsNumber : List Char → Prop where
  | parts {sign whole fraction exponent : List Char} (signed : sign = [] ∨ sign = ['-']) (isWhole : IsWhole whole)
    (isFraction : IsFraction fraction) (isExponent : IsExponent exponent) :
    IsNumber (sign ++ (whole ++ (fraction ++ exponent)))

/-- The characters between the quotes of a string: any that are visible, and escapes. -/
inductive IsBody : List Char → Prop where
  | nil : IsBody []
  | plain {c : Char} {rest : List Char} (quote : c ≠ '"') (backslash : c ≠ '\\') (visible : 0x20 ≤ c.toNat)
    (body : IsBody rest) : IsBody (c :: rest)
  | short {mark : Char} {rest : List Char} (known : mark ∈ ['"', '\\', '/', 'b', 'f', 'n', 'r', 't'])
    (body : IsBody rest) : IsBody ('\\' :: mark :: rest)
  | unit {a b c d : Char} {rest : List Char} (hex : ∀ digit ∈ [a, b, c, d], Text.isHex digit = true)
    (body : IsBody rest) : IsBody ('\\' :: 'u' :: a :: b :: c :: d :: rest)

/-! ## Values -/

/-- Blanks between the parts of a document. -/
def IsSpace (text : List Char) : Prop :=
  ∀ c ∈ text, isSpace c = true

mutual

/-- A value. -/
inductive IsValue : List Char → Prop where
  | nullWord : IsValue ['n', 'u', 'l', 'l']
  | trueWord : IsValue ['t', 'r', 'u', 'e']
  | falseWord : IsValue ['f', 'a', 'l', 's', 'e']
  | number {text : List Char} (isNumber : IsNumber text) : IsValue text
  | string {body : List Char} (isBody : IsBody body) : IsValue ('"' :: (body ++ ['"']))
  | emptyList {space : List Char} (blank : IsSpace space) : IsValue ('[' :: (space ++ [']']))
  | list {space items : List Char} (blank : IsSpace space) (areItems : IsItems items) :
    IsValue ('[' :: (space ++ items))
  | emptyTable {space : List Char} (blank : IsSpace space) : IsValue ('\x7b' :: (space ++ ['\x7d']))
  | table {space entries : List Char} (blank : IsSpace space) (areEntries : IsEntries entries) :
    IsValue ('\x7b' :: (space ++ entries))

/-- The items of a list, with its closing bracket. -/
inductive IsItems : List Char → Prop where
  | last {item space : List Char} (isItem : IsValue item) (blank : IsSpace space) : IsItems (item ++ (space ++ [']']))
  | more {item before after others : List Char} (isItem : IsValue item) (beforeBlank : IsSpace before)
    (afterBlank : IsSpace after) (areItems : IsItems others) : IsItems (item ++ (before ++ ',' :: (after ++ others)))

/-- The entries of a table, with its closing brace. -/
inductive IsEntries : List Char → Prop where
  | last {key before after value space : List Char} (isKey : IsBody key) (beforeBlank : IsSpace before)
    (afterBlank : IsSpace after) (isItem : IsValue value) (blank : IsSpace space) :
    IsEntries ('"' :: (key ++ '"' :: (before ++ ':' :: (after ++ (value ++ (space ++ ['\x7d']))))))
  | more {key before after value space next others : List Char} (isKey : IsBody key) (beforeBlank : IsSpace before)
    (afterBlank : IsSpace after) (isItem : IsValue value) (blank : IsSpace space) (nextBlank : IsSpace next)
    (areEntries : IsEntries others) :
    IsEntries ('"' :: (key ++ '"' :: (before ++ ':' :: (after ++ (value ++ (space ++ ',' :: (next ++ others)))))))

end

/-- A document: a value, with blanks around it. -/
inductive IsDocument : List Char → Prop where
  | around {before value after : List Char} (beforeBlank : IsSpace before) (isItem : IsValue value)
    (afterBlank : IsSpace after) : IsDocument (before ++ (value ++ after))

/-- Visible characters other than quotes and backslashes stand in a string as they are. -/
theorem isBody_of_all {text : List Char}
    (plain : text.all (fun c => decide (c ≠ '"' ∧ c ≠ '\\' ∧ 0x20 ≤ c.toNat)) = true) : IsBody text := by
  induction text with
  | nil => exact .nil
  | cons c rest ih =>
    rw [List.all_cons, Bool.and_eq_true] at plain
    obtain ⟨here, later⟩ := plain
    obtain ⟨quote, backslash, visible⟩ := of_decide_eq_true here
    exact .plain quote backslash visible (ih later)

/-! ## Reading numbers and strings -/

theorem IsDigits.exists_cons {text : List Char} (digits : IsDigits text) :
    ∃ c rest, text = c :: rest ∧ c.isDigit = true := by
  obtain ⟨c, rest, rfl⟩ := List.exists_cons_of_ne_nil digits.nonempty
  exact ⟨c, rest, rfl, digits.ascii c List.mem_cons_self⟩

/-- What stands behind the digits of a number does not go on with them. -/
theorem IsExponent.not_isDigit {text : List Char} (exponent : IsExponent text) :
    ∀ c ∈ text.head?, c.isDigit = false := by
  cases exponent with
  | none => exact nofun
  | power letter => rcases letter with rfl | rfl <;> rintro _ ⟨⟩ <;> rfl

private theorem not_isDigit_fraction {fraction exponent : List Char} (isFraction : IsFraction fraction)
    (isExponent : IsExponent exponent) : ∀ c ∈ (fraction ++ exponent).head?, c.isDigit = false := by
  cases isFraction with
  | none => exact isExponent.not_isDigit
  | places => rintro _ ⟨⟩; rfl

private theorem spanWhole_append {whole rest : List Char} (isWhole : IsWhole whole)
    (stop : ∀ c ∈ rest.head?, c.isDigit = false) : spanWhole (whole ++ rest) = (whole, rest) := by
  cases isWhole with
  | zero => rfl
  | digits nonzero ascii =>
    rw [List.cons_append, spanWhole_of_ne nonzero, ← List.cons_append]
    exact spanDigits_append ascii stop

private theorem spanPlaces_append {fraction exponent : List Char} (isFraction : IsFraction fraction)
    (isExponent : IsExponent exponent) : ∃ places, spanPlaces (fraction ++ exponent) = (places, exponent) := by
  cases isFraction with
  | none =>
    cases isExponent with
    | none => exact ⟨[], rfl⟩
    | power letter =>
      refine ⟨[], spanPlaces_of_ne ?_ _⟩
      rcases letter with rfl | rfl <;> decide
  | places ascii =>
    obtain ⟨c, rest, rfl, _⟩ := ascii.exists_cons
    refine ⟨c :: rest, ?_⟩
    rw [List.cons_append, spanPlaces, spanDigits_append ascii.ascii isExponent.not_isDigit]

private theorem readExponent?_of_isExponent {exponent : List Char} (isExponent : IsExponent exponent) :
    (readExponent? exponent = none ∧ exponent = []) ∨ ∃ power, readExponent? exponent = some (power, []) := by
  cases isExponent with
  | none => exact .inl ⟨rfl, rfl⟩
  | @power mark sign digits letter signed ascii =>
    right
    obtain ⟨c, rest, rfl, digit⟩ := ascii.exists_cons
    have spanned : spanDigits (c :: rest ++ []) = (c :: rest, []) := spanDigits_append ascii.ascii nofun
    have minus : c ≠ '-' := by
      rintro rfl
      cases digit
    have plus : c ≠ '+' := by
      rintro rfl
      cases digit
    have body : (readSign (sign ++ c :: rest)).2 = c :: rest := by
      rcases signed with rfl | rfl | rfl
      · exact congrArg Prod.snd (readSign_of_ne minus plus rest)
      · rfl
      · rfl
    rw [List.append_nil] at spanned
    rw [readExponent?_cons, if_pos (by simpa using letter), exponentFrom, body, spanned]
    exact ⟨_, rfl⟩

/-- A text is read up to what is left, or it holds a number that is too long. -/
def Taken {α : Type} (outcome : Except ReadError (α × List Char)) (left : List Char) : Prop :=
  (∃ found, outcome = .ok (found, left)) ∨ ∃ error, outcome = .error (.number error)

theorem taken_ok {α : Type} (found : α) (left : List Char) : Taken (.ok (found, left)) left :=
  .inl ⟨found, rfl⟩

theorem taken_number {α : Type} (error : IntegerError) (left : List Char) :
    Taken (α := α) (.error (.number error)) left :=
  .inr ⟨error, rfl⟩

theorem Taken.bind {α β : Type} {outcome : Except ReadError (α × List Char)}
    {next : α × List Char → Except ReadError (β × List Char)} {middle left : List Char} (taken : Taken outcome middle)
    (step : ∀ found, Taken (next (found, middle)) left) : Taken (outcome >>= next) left := by
  rcases taken with ⟨found, rfl⟩ | ⟨error, rfl⟩
  · exact step found
  · exact taken_number error left

/-- What is read whole is read in front of other text, with that left. -/
theorem Taken.extend {α : Type} {short long : Except ReadError (α × List Char)} {more : List Char}
    (taken : Taken short []) (longer : Extends more short long) : Taken long more := by
  rcases longer with ⟨fault, left, malformed⟩ | rfl
  · rcases taken with ⟨found, same⟩ | ⟨error, same⟩ <;> cases malformed.symm.trans same
  · rcases taken with ⟨found, rfl⟩ | ⟨error, rfl⟩
    · exact taken_ok found more
    · exact taken_number error more

theorem IsWhole.exists_cons {whole : List Char} (isWhole : IsWhole whole) :
    ∃ c rest, whole = c :: rest ∧ c.isDigit = true := by
  cases isWhole with
  | zero => exact ⟨'0', [], rfl, rfl⟩
  | digits _ ascii => exact ⟨_, _, rfl, ascii _ List.mem_cons_self⟩

theorem numberFrom_taken {whole fraction exponent : List Char} (isWhole : IsWhole whole)
    (isFraction : IsFraction fraction) (isExponent : IsExponent exponent) (text : List Char) (negative : Bool) :
    Taken (numberFrom text (negative, whole ++ (fraction ++ exponent))) [] := by
  have spanned := spanWhole_append isWhole (not_isDigit_fraction isFraction isExponent)
  obtain ⟨places, behind⟩ := spanPlaces_append isFraction isExponent
  obtain ⟨c, rest, rfl, _⟩ := isWhole.exists_cons
  unfold numberFrom
  rw [spanned]
  dsimp only
  rw [behind]
  dsimp only
  rcases readExponent?_of_isExponent isExponent with ⟨none, rfl⟩ | ⟨power, some⟩
  · rw [none]
    dsimp only
    split
    · split
      · exact taken_number _ _
      · exact taken_ok _ _
    · exact taken_ok _ _
  · rw [some]
    exact taken_ok _ _

theorem IsNumber.taken {text : List Char} (number : IsNumber text) : Taken (readNumber text) [] := by
  cases number with
  | @parts sign whole fraction exponent signed isWhole isFraction isExponent =>
    rw [readNumber_eq]
    rcases signed with rfl | rfl
    · obtain ⟨c, rest, same, digit⟩ := isWhole.exists_cons
      have minus : c ≠ '-' := by
        rintro rfl
        cases digit
      have unsigned : readMinus ([] ++ (whole ++ (fraction ++ exponent))) =
          (false, whole ++ (fraction ++ exponent)) := by
        rw [same]
        exact readMinus_of_ne minus _
      rw [unsigned]
      exact numberFrom_taken isWhole isFraction isExponent _ false
    · exact numberFrom_taken isWhole isFraction isExponent _ true

theorem IsNumber.exists_cons {text : List Char} (number : IsNumber text) :
    ∃ c rest, c.isDigit = true ∧ (text = c :: rest ∨ text = '-' :: c :: rest) := by
  cases number with
  | parts signed isWhole =>
    obtain ⟨c, rest, rfl, digit⟩ := isWhole.exists_cons
    rcases signed with rfl | rfl
    · exact ⟨c, _, digit, .inl rfl⟩
    · exact ⟨c, _, digit, .inr rfl⟩

/-- Four hexadecimal digits make a unit, if something follows them. -/
theorem exists_hexUnit? {a b c d : Char} (hex : ∀ digit ∈ [a, b, c, d], Text.isHex digit = true) :
    ∃ unit, ∀ text, text ≠ [] → hexUnit? (a :: b :: c :: d :: text) = some (unit, text) := by
  obtain ⟨first, firstIs⟩ := Option.isSome_iff_exists.mp (hex a (by simp))
  obtain ⟨second, secondIs⟩ := Option.isSome_iff_exists.mp (hex b (by simp))
  obtain ⟨third, thirdIs⟩ := Option.isSome_iff_exists.mp (hex c (by simp))
  obtain ⟨fourth, fourthIs⟩ := Option.isSome_iff_exists.mp (hex d (by simp))
  refine ⟨((first * 16 + second) * 16 + third) * 16 + fourth, ?_⟩
  intro text nonempty
  obtain ⟨next, rest, rfl⟩ := List.exists_cons_of_ne_nil nonempty
  simp only [hexUnit?, firstIs, secondIs, thirdIs, fourthIs, Option.bind_eq_bind, Option.bind_some]

/-- A unit stands alone if it is not the first half of a pair, or if no unit follows. -/
theorem readChar_alone {body text : List Char} {unit : Nat} (read : hexUnit? body = some (unit, text))
    (alone : isHighSurrogate unit = true → ∀ following, text ≠ '\\' :: 'u' :: following) (start : List Char) :
    readChar start ('\\' :: 'u' :: body) = .ok (some (unitChar unit), text) := by
  rw [readChar, read]
  dsimp only
  split
  · next high =>
    split
    · next following => exact absurd rfl (alone high following)
    · rfl
  · rfl

private theorem shortEscape?_of_mem {mark : Char} (known : mark ∈ ['"', '\\', '/', 'b', 'f', 'n', 'r', 't']) :
    ∃ decoded, shortEscape? mark = some decoded := by
  have each : ['"', '\\', '/', 'b', 'f', 'n', 'r', 't'].all (fun mark => (shortEscape? mark).isSome) = true := rfl
  exact Option.isSome_iff_exists.mp (List.all_eq_true.mp each mark known)

/-- A unit is read alone or with a second one. -/
theorem readChar_isBody_unit {a b c d : Char} {body : List Char}
    (hex : ∀ digit ∈ [a, b, c, d], Text.isHex digit = true) (isBody : IsBody body) :
    ∃ decoded behind, IsBody behind ∧ behind.length ≤ body.length ∧ ∀ start rest : List Char,
      readChar start ('\\' :: 'u' :: a :: b :: c :: d :: (body ++ '"' :: rest)) =
        .ok (some decoded, behind ++ '"' :: rest) := by
  obtain ⟨unit, read⟩ := exists_hexUnit? hex
  have solid : ∀ rest, body ++ '"' :: rest ≠ [] := by simp
  have alone : (isHighSurrogate unit = true → ∀ rest following, body ++ '"' :: rest ≠ '\\' :: 'u' :: following) →
      ∃ decoded behind, IsBody behind ∧ behind.length ≤ body.length ∧ ∀ start rest : List Char,
        readChar start ('\\' :: 'u' :: a :: b :: c :: d :: (body ++ '"' :: rest)) =
          .ok (some decoded, behind ++ '"' :: rest) := by
    intro single
    exact ⟨unitChar unit, body, isBody, Nat.le_refl _, fun start rest =>
      readChar_alone (read _ (solid rest)) (fun high => single high rest) start⟩
  cases high : isHighSurrogate unit with
  | false => exact alone fun same => by rw [high] at same; cases same
  | true =>
    cases isBody with
    | nil => exact alone fun _ _ _ same => by cases same
    | plain quote backslash => exact alone fun _ _ _ same => backslash (List.cons.inj same).1
    | short known =>
      refine alone fun _ _ _ same => ?_
      obtain ⟨rfl, _⟩ := List.cons.inj (List.cons.inj same).2
      exact absurd known (by decide)
    | @unit e f g h further hexToo isFurther =>
      obtain ⟨second, readToo⟩ := exists_hexUnit? hexToo
      have solidToo : ∀ rest, further ++ '"' :: rest ≠ [] := by simp
      cases low : isLowSurrogate second with
      | false =>
        refine ⟨unitChar unit, _, .unit hexToo isFurther, Nat.le_refl _, ?_⟩
        intro start rest
        simp only [List.cons_append, Json.readChar, read _ (List.cons_ne_nil _ _), high, readToo _ (solidToo rest), low,
          if_true, if_false, Bool.false_eq_true]
      | true =>
        refine ⟨Char.ofNat (0x10000 + (unit - 0xD800) * 0x400 + (second - 0xDC00)), further, isFurther, ?_, ?_⟩
        · simp only [List.length_cons]
          omega
        · intro start rest
          simp only [List.cons_append, Json.readChar, read _ (List.cons_ne_nil _ _), high, readToo _ (solidToo rest),
            low, if_true]

/-- A string goes on with a character, unless it is at its end. -/
theorem IsBody.readChar {body : List Char} (isBody : IsBody body) (nonempty : body ≠ []) :
    ∃ c behind, IsBody behind ∧ behind.length < body.length ∧ ∀ start rest : List Char,
      Json.readChar start (body ++ '"' :: rest) = .ok (some c, behind ++ '"' :: rest) := by
  cases isBody with
  | nil => exact absurd rfl nonempty
  | @plain c rest quote backslash visible body =>
    exact ⟨c, rest, body, Nat.lt_add_one _, fun start _ => readChar_plain quote backslash visible start _⟩
  | @short mark rest known body =>
    obtain ⟨decoded, escape⟩ := shortEscape?_of_mem known
    exact ⟨decoded, rest, body, Nat.lt_succ_of_lt (Nat.lt_succ_self _), fun start _ => readChar_short escape start _⟩
  | @unit a b c d rest hex body =>
    obtain ⟨decoded, behind, isBehind, shorter, read⟩ := readChar_isBody_unit hex body
    refine ⟨decoded, behind, isBehind, ?_, read⟩
    simp only [List.length_cons]
    omega

/-- A string is read up to its closing quote. -/
theorem IsBody.readString {body : List Char} (isBody : IsBody body) {fuel : Nat} (enough : body.length < fuel)
    (start rest : List Char) : ∃ chars, Json.readString start fuel (body ++ '"' :: rest) = .ok (chars, rest) := by
  induction fuel generalizing body with
  | zero => cases enough
  | succ fuel ih =>
    cases body with
    | nil => exact ⟨[], rfl⟩
    | cons first others =>
      obtain ⟨c, behind, isBehind, shorter, read⟩ := isBody.readChar (List.cons_ne_nil _ _)
      obtain ⟨chars, later⟩ := ih isBehind (by omega)
      refine ⟨c :: chars, ?_⟩
      rw [Json.readString]
      exact bind_eq_ok_iff.mpr ⟨_, read start rest, bind_eq_ok_iff.mpr ⟨_, later, rfl⟩⟩

/-! ## Reading values -/

def spaces : List Char :=
  [' ', '\t', '\n', '\r']

theorem mem_spaces {c : Char} (space : isSpace c = true) : c ∈ spaces := by
  simp only [isSpace, Bool.or_eq_true, decide_eq_true_eq] at space
  simp only [spaces, List.mem_cons, List.not_mem_nil, or_false]
  rcases space with ((space | space) | space) | space
  · exact .inl space
  · exact .inr (.inl space)
  · exact .inr (.inr (.inl space))
  · exact .inr (.inr (.inr space))

theorem not_isSpace_of_startsValue {c : Char} (starts : startsValue c = true) : isSpace c = false := by
  obtain ⟨least, _⟩ := toNat_of_startsValue starts
  have small : spaces.all (fun space => decide (space.toNat ≤ 0x20)) = true := rfl
  refine Bool.eq_false_iff.mpr fun space => ?_
  have most := of_decide_eq_true (List.all_eq_true.mp small c (mem_spaces space))
  omega

theorem skipSpace_of_solid {c : Char} (solid : isSpace c = false) (rest : List Char) :
    skipSpace (c :: rest) = c :: rest :=
  List.dropWhile_cons_of_neg (by simp [solid])

theorem IsSpace.skipSpace_append {space : List Char} (blank : IsSpace space) (rest : List Char) :
    skipSpace (space ++ rest) = skipSpace rest :=
  List.dropWhile_append_of_pos blank

theorem IsSpace.skipSpace_cons {space : List Char} (blank : IsSpace space) {c : Char} (solid : isSpace c = false)
    (rest : List Char) : skipSpace (space ++ c :: rest) = c :: rest := by
  rw [blank.skipSpace_append, skipSpace_of_solid solid]

/-- No number goes on behind blanks, or behind a mark after them. -/
theorem IsSpace.stops {space : List Char} (blank : IsSpace space) {rest : List Char} (stops : Stops rest) :
    Stops (space ++ rest) := by
  cases space with
  | nil => exact stops
  | cons c others =>
    have none : spaces.any goesOn = false := rfl
    have stop := List.any_eq_false.mp none c (mem_spaces (blank c List.mem_cons_self))
    exact stops_cons (Bool.eq_false_iff.mpr stop) _

theorem IsValue.starts {text : List Char} (isValue : IsValue text) :
    ∃ c rest, text = c :: rest ∧ startsValue c = true := by
  cases isValue with
  | number isNumber =>
    obtain ⟨c, rest, digit, rfl | rfl⟩ := isNumber.exists_cons
    · refine ⟨c, rest, rfl, ?_⟩
      rw [startsValue, digit, Bool.true_or]
    · exact ⟨'-', c :: rest, rfl, by decide⟩
  | nullWord | trueWord | falseWord | string | emptyList | list | emptyTable | table => exact ⟨_, _, rfl, by decide⟩

theorem IsItems.starts {text : List Char} (areItems : IsItems text) :
    ∃ c rest, text = c :: rest ∧ startsValue c = true := by
  cases areItems with
  | last isItem | more isItem =>
    obtain ⟨c, rest, rfl, starts⟩ := isItem.starts
    exact ⟨c, _, rfl, starts⟩

theorem IsEntries.starts {text : List Char} (areEntries : IsEntries text) : ∃ rest, text = '"' :: rest := by
  cases areEntries with
  | last | more => exact ⟨_, rfl⟩

/-- The two parts of an entry are read in turn. -/
theorem readEntries_entry {key before after : List Char} (isKey : IsBody key) (beforeBlank : IsSpace before)
    (afterBlank : IsSpace after) {fuel : Nat} (enough : key.length < fuel) {value : List Char} (isItem : IsValue value)
    (tail : List Char) :
    ∃ name, readEntries (fuel + 1) ('"' :: (key ++ '"' :: (before ++ ':' :: (after ++ (value ++ tail))))) =
      (readValue fuel (value ++ tail) >>= afterEntry fuel name) := by
  obtain ⟨chars, named⟩ := isKey.readString enough
    ('"' :: (key ++ '"' :: (before ++ ':' :: (after ++ (value ++ tail)))))
    (before ++ ':' :: (after ++ (value ++ tail)))
  obtain ⟨c, rest, rfl, starts⟩ := isItem.starts
  refine ⟨String.ofList chars, ?_⟩
  rw [readEntries_quote, named]
  refine (afterName_colon (beforeBlank.skipSpace_cons (by decide) _) fuel chars).trans ?_
  rw [List.cons_append, afterBlank.skipSpace_cons (not_isSpace_of_startsValue starts)]

section Reading

variable {fuel : Nat} (ofValue : ∀ {text}, IsValue text → text.length ≤ fuel → Taken (readValue fuel text) [])
  (ofItems : ∀ {text}, IsItems text → text.length ≤ fuel → Taken (readItems fuel text) [])
  (ofEntries : ∀ {text}, IsEntries text → text.length ≤ fuel → Taken (readEntries fuel text) [])

include ofItems ofEntries in
private theorem taken_readValue_succ {text : List Char} (isValue : IsValue text) (enough : text.length ≤ fuel + 1) :
    Taken (readValue (fuel + 1) text) [] := by
  cases isValue with
  | nullWord | trueWord | falseWord => exact taken_ok _ _
  | number isNumber =>
    obtain ⟨c, rest, digit, starts⟩ := isNumber.exists_cons
    obtain ⟨unsigned, signed⟩ := readScalar_of_isDigit digit rest
    have other : ∀ mark, mark.isDigit = false → c ≠ mark := by
      rintro mark noDigit rfl
      cases digit.symm.trans noDigit
    rcases starts with rfl | rfl
    · rw [readValue_scalar (other _ rfl) (other _ rfl) (other _ rfl), unsigned]
      exact isNumber.taken
    · rw [readValue_scalar (by decide) (by decide) (by decide), signed]
      exact isNumber.taken
  | @string body isBody =>
    simp only [List.length_cons, List.length_append, List.length_nil] at enough
    have shorter : body.length < fuel := by omega
    obtain ⟨chars, read⟩ := isBody.readString shorter ('"' :: (body ++ ['"'])) []
    rw [readValue, read]
    exact taken_ok _ _
  | emptyList blank =>
    rw [readValue, blank.skipSpace_cons (by decide)]
    exact taken_ok _ _
  | list blank areItems =>
    obtain ⟨c, rest, rfl, starts⟩ := areItems.starts
    have item : c ≠ ']' := by
      rintro rfl
      cases starts
    rw [readValue_bracket_cons item (blank.skipSpace_cons (not_isSpace_of_startsValue starts) rest)]
    simp only [List.length_cons, List.length_append] at enough
    exact (ofItems areItems (by rw [List.length_cons]; omega)).bind fun items => taken_ok _ _
  | emptyTable blank =>
    rw [readValue, blank.skipSpace_cons (by decide)]
    exact taken_ok _ _
  | table blank areEntries =>
    obtain ⟨rest, rfl⟩ := areEntries.starts
    rw [readValue_brace_cons (by decide) (blank.skipSpace_cons (by decide) rest)]
    simp only [List.length_cons, List.length_append] at enough
    exact (ofEntries areEntries (by rw [List.length_cons]; omega)).bind fun entries => taken_ok _ _

include ofValue in
/-- A value is read in front of what ends it. -/
theorem taken_readValue_append {value tail : List Char} (isValue : IsValue value) (enough : value.length ≤ fuel)
    (stops : Stops tail) : Taken (readValue fuel (value ++ tail)) tail :=
  (ofValue isValue enough).extend ((read_extend stops (Nat.le_refl fuel)).1 value)

include ofValue ofItems in
private theorem taken_readItems_succ {text : List Char} (areItems : IsItems text) (enough : text.length ≤ fuel + 1) :
    Taken (readItems (fuel + 1) text) [] := by
  rw [readItems_succ]
  cases areItems with
  | @last item space isItem blank =>
    simp only [List.length_append, List.length_cons] at enough
    have stops : Stops (space ++ [']']) := blank.stops (stops_cons rfl [])
    refine (taken_readValue_append ofValue isItem (by omega) stops).bind fun found => ?_
    rw [afterItem_closed (blank.skipSpace_cons (by decide) [])]
    exact taken_ok _ _
  | @more item before after others isItem beforeBlank afterBlank areOthers =>
    simp only [List.length_append, List.length_cons] at enough
    have stops : Stops (before ++ ',' :: (after ++ others)) := beforeBlank.stops (stops_cons rfl _)
    refine (taken_readValue_append ofValue isItem (by omega) stops).bind fun found => ?_
    obtain ⟨c, rest, rfl, starts⟩ := areOthers.starts
    rw [afterItem_comma (beforeBlank.skipSpace_cons (by decide) _),
      afterBlank.skipSpace_cons (not_isSpace_of_startsValue starts)]
    exact (ofItems areOthers (by omega)).bind fun items => taken_ok _ _

include ofValue ofEntries in
private theorem taken_readEntries_succ {text : List Char} (areEntries : IsEntries text)
    (enough : text.length ≤ fuel + 1) : Taken (readEntries (fuel + 1) text) [] := by
  cases areEntries with
  | @last key before after value space isKey beforeBlank afterBlank isItem blank =>
    simp only [List.length_append, List.length_cons] at enough
    have stops : Stops (space ++ ['\x7d']) := blank.stops (stops_cons rfl [])
    have shorter : key.length < fuel := by omega
    obtain ⟨name, entry⟩ := readEntries_entry isKey beforeBlank afterBlank shorter isItem (space ++ ['\x7d'])
    rw [entry]
    refine (taken_readValue_append ofValue isItem (by omega) stops).bind fun found => ?_
    rw [afterEntry_closed (blank.skipSpace_cons (by decide) [])]
    exact taken_ok _ _
  | @more key before after value space next others isKey beforeBlank afterBlank isItem blank nextBlank areOthers =>
    simp only [List.length_append, List.length_cons] at enough
    have stops : Stops (space ++ ',' :: (next ++ others)) := blank.stops (stops_cons rfl _)
    have shorter : key.length < fuel := by omega
    obtain ⟨name, entry⟩ :=
      readEntries_entry isKey beforeBlank afterBlank shorter isItem (space ++ ',' :: (next ++ others))
    rw [entry]
    refine (taken_readValue_append ofValue isItem (by omega) stops).bind fun found => ?_
    obtain ⟨rest, rfl⟩ := areOthers.starts
    rw [afterEntry_comma (blank.skipSpace_cons (by decide) _), nextBlank.skipSpace_cons (by decide)]
    exact (ofEntries areOthers (by omega)).bind fun entries => taken_ok _ _

end Reading

/-- Every text of the grammar is read whole, with fuel for each of its characters. -/
theorem taken_read (fuel : Nat) :
    (∀ {text}, IsValue text → text.length ≤ fuel → Taken (readValue fuel text) []) ∧
      (∀ {text}, IsItems text → text.length ≤ fuel → Taken (readItems fuel text) []) ∧
      ∀ {text}, IsEntries text → text.length ≤ fuel → Taken (readEntries fuel text) [] := by
  induction fuel with
  | zero =>
    -- no text of the grammar is empty, so that there is fuel for its first character
    refine ⟨fun isValue enough => ?_, fun areItems enough => ?_, fun areEntries enough => ?_⟩
    · obtain ⟨c, rest, rfl, _⟩ := isValue.starts
      cases enough
    · obtain ⟨c, rest, rfl, _⟩ := areItems.starts
      cases enough
    · obtain ⟨rest, rfl⟩ := areEntries.starts
      cases enough
  | succ fuel ih =>
    obtain ⟨ofValue, ofItems, ofEntries⟩ := ih
    exact ⟨taken_readValue_succ ofItems ofEntries, taken_readItems_succ ofValue ofItems,
      taken_readEntries_succ ofValue ofEntries⟩

/-- No document starts with a byte order mark. -/
theorem IsDocument.unmarked {text : List Char} (document : IsDocument text) :
    text.head? ≠ some (Char.ofNat 0xFEFF) := by
  cases document with
  | @around before value after beforeBlank isItem afterBlank =>
    obtain ⟨c, rest, rfl, starts⟩ := isItem.starts
    cases before with
    | nil =>
      rintro ⟨⟩
      exact absurd starts (by decide)
    | cons space others =>
      rintro ⟨⟩
      exact absurd (beforeBlank _ List.mem_cons_self) (by decide)

/-- Every document of the grammar is read, unless it holds a number that is too long. -/
theorem IsDocument.readable {text : List Char} (document : IsDocument text) : Readable text := by
  have unmarked := document.unmarked
  cases document with
  | @around before value after beforeBlank isItem afterBlank =>
    obtain ⟨c, rest, same, starts⟩ := isItem.starts
    have begun : skipSpace (before ++ (value ++ after)) = value ++ after := by
      rw [same]
      exact beforeBlank.skipSpace_cons (not_isSpace_of_startsValue starts) _
    have stops : Stops after := by
      rw [← List.append_nil after]
      exact afterBlank.stops nofun
    have ended : skipSpace after = [] := by
      rw [← List.append_nil after]
      exact afterBlank.skipSpace_append []
    intro fault left malformed
    rw [parseChars, if_neg unmarked, begun] at malformed
    have taken := (taken_read value.length).1 isItem (Nat.le_refl _)
    have enough : value.length ≤ (before ++ (value ++ after)).length + 1 := by
      simp only [List.length_append]
      omega
    rcases taken.extend ((read_extend stops enough).1 value) with ⟨found, read⟩ | ⟨error, read⟩
    · rw [read] at malformed
      simp only [bind, Except.bind, ended] at malformed
      cases malformed
    · rw [read] at malformed
      cases malformed

end CatalogSearch.Json
