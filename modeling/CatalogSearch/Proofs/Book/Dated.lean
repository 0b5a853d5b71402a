import CatalogSearch.Proofs.Book.Columns
import CatalogSearch.Proofs.Book.RoundTrip
import CatalogSearch.Proofs.Number.Digits

/-! # Books with a full date

A lookup of a year compares the date of a book with the first and the last day of the year, as texts. The year filter
compares the year that was taken from the date, as a number. Both select the same books with a full date: the bounds of
a lookup start with the padded year and a hyphen, so that a text lies between them only if it starts in the same way,
and there is one way to write a year with four digits. A negative year or one of five digits has bounds, too, but no
full date lies between them.
-/

namespace CatalogSearch

open Number

/-- Whatever lies between two texts with a common start has that start. -/
theorem Text.between_iff (start : List Char) {low high text : List Char} :
    ¬text < start ++ low ∧ ¬start ++ high < text ↔
      ∃ rest, text = start ++ rest ∧ ¬rest < low ∧ ¬high < rest := by
  induction start generalizing text with
  | nil => simp
  | cons c start ih =>
    rw [List.cons_append, List.cons_append]
    cases text with
    | nil =>
      constructor
      · rintro ⟨above, _⟩
        exact absurd (List.nil_lt_cons c (start ++ low)) above
      · rintro ⟨_, same, _⟩
        cases same
    | cons d text =>
      rw [List.cons_lt_cons_iff, List.cons_lt_cons_iff]
      constructor
      · rintro ⟨above, below⟩
        obtain ⟨notSmaller, further⟩ := not_or.mp above
        obtain ⟨notLarger, before⟩ := not_or.mp below
        obtain rfl : c = d := Char.toNat_inj.mp (Nat.le_antisymm (Nat.not_lt.mp notSmaller) (Nat.not_lt.mp notLarger))
        have inside : ¬text < start ++ low ∧ ¬start ++ high < text :=
          ⟨fun less => further ⟨rfl, less⟩, fun less => before ⟨rfl, less⟩⟩
        obtain ⟨rest, rfl, between⟩ := ih.mp inside
        exact ⟨rest, rfl, between⟩
      · rintro ⟨rest, same, between⟩
        obtain ⟨rfl, rfl⟩ := List.cons.inj same
        obtain ⟨further, before⟩ := ih.mpr ⟨rest, rfl, between⟩
        have stays : ¬d < d := Nat.lt_irrefl _
        exact ⟨fun less => less.elim stays fun ⟨_, less⟩ => further less,
          fun less => less.elim stays fun ⟨_, less⟩ => before less⟩

/-! ## Full dates -/

/-- The digits of a full date: a year of four, a month from 01 to 12 and a day from 01 to 31. -/
structure FullDate where
  year : List Char
  month : List Char
  day : List Char
  yearPlaces : Places 4 year
  monthPlaces : Places 2 month
  dayPlaces : Places 2 day
  monthBounds : 1 ≤ digitsValue month ∧ digitsValue month ≤ 12
  dayBounds : 1 ≤ digitsValue day ∧ digitsValue day ≤ 31

namespace FullDate

/-- The date as a text, such as 1965-08-01. -/
def text (date : FullDate) : String :=
  String.ofList (date.year ++ '-' :: (date.month ++ '-' :: date.day))

/-- Months and days stand in the order of their numbers. -/
theorem monthDay_not_lt {month day laterMonth laterDay : List Char} (first : Places 2 month)
    (second : Places 2 laterMonth) (third : Places 2 day) (fourth : Places 2 laterDay)
    (months : digitsValue month ≤ digitsValue laterMonth) (days : digitsValue day ≤ digitsValue laterDay) :
    ¬laterMonth ++ '-' :: laterDay < month ++ '-' :: day := by
  apply first.append_not_lt second months
  rw [List.cons_lt_cons_iff]
  rintro (less | ⟨_, less⟩)
  · exact Nat.lt_irrefl _ less
  · have order := third.append_not_lt fourth days (List.not_lt_nil [])
    rw [List.append_nil, List.append_nil] at order
    exact order less

/-- Every full date is one of the days of its year. -/
theorem within (date : FullDate) :
    ¬date.month ++ '-' :: date.day < "01-01".toList ∧ ¬"12-31".toList < date.month ++ '-' :: date.day := by
  have one : Places 2 ['0', '1'] := places_of_all rfl rfl
  have twelve : Places 2 ['1', '2'] := places_of_all rfl rfl
  have last : Places 2 ['3', '1'] := places_of_all rfl rfl
  constructor
  · exact monthDay_not_lt one date.monthPlaces one date.dayPlaces date.monthBounds.1 date.dayBounds.1
  · exact monthDay_not_lt date.monthPlaces twelve date.dayPlaces last date.monthBounds.2 date.dayBounds.2

/-- The year of a full date is padded already. -/
theorem toList_padded_year (date : FullDate) : (padded 4 (digitsValue date.year : Int)).toList = date.year := by
  apply Places.eq_of_value_eq
  · exact places_padded (by decide) date.yearPlaces.value_lt
  · exact date.yearPlaces
  · exact digitsValue_padded 4 _

/-- A full date that starts with a padded year and a hyphen is of that year. -/
theorem eq_year_of_starts (date : FullDate) {y : Int} {rest : List Char}
    (starts : date.text.toList = (padded 4 y).toList ++ '-' :: rest) : y = digitsValue date.year := by
  rw [text, String.toList_ofList] at starts
  rcases Int.lt_or_le y 0 with negative | positive
  · -- The sign of a negative year stands where the date has its first digit.
    obtain ⟨tail, signed⟩ := toList_padded_of_neg 4 negative
    obtain ⟨c, others, first⟩ := List.exists_cons_of_length_eq_add_one date.yearPlaces.length
    have digit := date.yearPlaces.ascii c (first ▸ List.mem_cons_self)
    rw [first, signed, List.cons_append, List.cons_append] at starts
    rw [(List.cons.inj starts).1] at digit
    exact absurd digit (by decide)
  · obtain ⟨n, rfl⟩ := Int.eq_ofNat_of_zero_le positive
    have hyphen : ∀ rest : List Char, ∀ c ∈ ('-' :: rest).head?, c.isDigit = false := by
      rintro rest c ⟨⟩
      rfl
    -- Both sides are digits up to the first hyphen.
    have digits := Json.spanDigits_append date.yearPlaces.ascii (hyphen (date.month ++ '-' :: date.day))
    have found := Json.spanDigits_append (padded_isDigit 4 n) (hyphen rest)
    rw [starts, found] at digits
    obtain ⟨year, _⟩ := Prod.mk.inj digits
    rw [← year, digitsValue_padded]

/-- A full date lies between the bounds of a lookup exactly if it is of that year. -/
theorem inBounds_iff (date : FullDate) (y : Int) :
    Predicate.rangeHolds (.string (padded 4 y ++ "-01-01")) (.string (padded 4 y ++ "-12-31"))
      (.string date.text) = true ↔ y = digitsValue date.year := by
  have bounds : Predicate.rangeHolds (.string (padded 4 y ++ "-01-01")) (.string (padded 4 y ++ "-12-31"))
      (.string date.text) = true ↔
      ¬date.text < padded 4 y ++ "-01-01" ∧ ¬padded 4 y ++ "-12-31" < date.text := by
    simp [Predicate.rangeHolds, Value.isNull, Value.less?]
  have low : (padded 4 y ++ "-01-01").toList = ((padded 4 y).toList ++ ['-']) ++ "01-01".toList := by
    rw [String.toList_append, List.append_assoc]
    rfl
  have high : (padded 4 y ++ "-12-31").toList = ((padded 4 y).toList ++ ['-']) ++ "12-31".toList := by
    rw [String.toList_append, List.append_assoc]
    rfl
  rw [bounds, String.lt_iff, String.lt_iff, low, high, Text.between_iff]
  constructor
  · rintro ⟨rest, starts, _⟩
    rw [List.append_assoc, List.singleton_append] at starts
    exact date.eq_year_of_starts starts
  · rintro rfl
    refine ⟨date.month ++ '-' :: date.day, ?_, date.within⟩
    rw [text, String.toList_ofList, toList_padded_year, List.append_assoc, List.singleton_append]

/-- The year of a full date is read from its first four characters. -/
theorem yearOfDate?_text (date : FullDate) :
    Book.yearOfDate? date.text = .ok (some (digitsValue date.year : Int)) := by
  have head : date.text.toList.take 4 = date.year := by
    rw [text, String.toList_ofList]
    exact List.take_left' date.yearPlaces.length
  have nonempty : date.year ≠ [] := by
    rw [← List.length_pos_iff, date.yearPlaces.length]
    decide
  have digits : date.year.all Text.isAnyDigit = true := by
    rw [List.all_eq_true]
    intro c member
    rw [Text.isAnyDigit, date.yearPlaces.ascii c member, Bool.true_or]
  have short : date.year.length ≤ maxDigits := by
    rw [date.yearPlaces.length]
    decide
  have taken : (date.year.isEmpty || !date.year.all Text.isAnyDigit) = false := by
    simpa [digits] using nonempty
  rw [Book.yearOfDate?, head, if_neg (by rw [taken]; exact Bool.false_ne_true),
    (readInteger_of_ascii date.yearPlaces.ascii nonempty short).1]
  rfl

end FullDate

/-! ## Their books -/

namespace Book

private theorem publishedDate_withYear {book filled : Book} (valid : book.withYear = .valid filled) :
    filled.publishedDate = book.publishedDate := by
  rcases withYear_eq_valid valid with rfl | ⟨_, _, _, _, _, rfl⟩ <;> rfl

/-- A book without a year of its own has the year of its full date. -/
theorem publishedYear_of_check {table : Table} {book : Book} {date : FullDate}
    (valid : check (.object table) = .valid book) (absent : table.column "published_year" = .null)
    (dated : book.publishedDate = some date.text) : book.publishedYear = some (digitsValue date.year : Int) := by
  obtain ⟨base, columns, filled⟩ := Checked.andThen_eq_valid_iff.mp valid
  have missing : base.publishedYear = none := by
    have checked := (ofColumns_eq_valid_iff.mp columns).publishedYear
    rw [Table.optional_of_null absent] at checked
    exact (Checked.valid.inj checked).symm
  rw [publishedDate_withYear filled] at dated
  rw [withYear, missing, dated] at filled
  simp only [date.yearOfDate?_text] at filled
  rw [← Checked.valid.inj filled]

end Book

/-! ## Both ways to ask for a year -/

/-- A year between equal bounds is that year. -/
theorem Predicate.rangeHolds_int_iff (y year : Int) :
    rangeHolds (.int y) (.int y) (.int year) = true ↔ y = year := by
  simp only [rangeHolds, Value.isNull, Value.less?, Value.quantity?, Value.Quantity.less, Bool.not_false,
    Bool.false_or, Bool.true_and, Bool.and_eq_true, beq_iff_eq, Option.some.injEq, decide_eq_false_iff_not]
  omega

/-- The lookup of a year that is written out has the condition on the dates of that year. -/
theorem Field.clause_year {y : Int} (writable : Writable y) :
    clause "year" (toString y) = .ok (some (yearClause "published_date" y)) := by
  have found : find? "year" = some ⟨"year", .year "published_date"⟩ := by decide +kernel
  simp only [clause, found, ruleClause, Value.yearOfText?_toString writable]
  rfl

/-- A book that was accepted without a year of its own but with a full date is found under the same years by a lookup
and by the year filter: under the year of its date and under no other one, be it negative or of five digits. -/
theorem Book.year_lookup_eq_filter {table : Table} {book : Book} {date : FullDate} {y : Int} (criteria : Criteria)
    (valid : check (.object table) = .valid book) (absent : table.column "published_year" = .null)
    (dated : book.publishedDate = some date.text) (writable : Writable y) :
    ∃ lookup refinement, Field.clause "year" (toString y) = .ok (some lookup) ∧
      ({ criteria with yearFrom := .int y, yearTo := .int y } : Criteria).refinements =
        criteria.textClauses.map (refinement :: ·) ∧
      lookup.holdsIn book.toTable = refinement.holdsIn book.toTable ∧
      refinement.holdsIn book.toTable = .ok (decide (y = digitsValue date.year)) := by
  have year := publishedYear_of_check valid absent dated
  have byDate : (Field.yearClause "published_date" y).holdsIn book.toTable =
      .ok (decide (y = digitsValue date.year)) := by
    have column : book.toTable.column "published_date" = .string date.text := by
      rw [column_toTable]
      change Value.ofText? book.publishedDate = .string date.text
      rw [dated, Value.ofText?]
    rw [Predicate.holdsIn, Field.yearClause, Predicate.holds, column]
    exact congrArg Except.ok (Bool.eq_iff_iff.mpr ((date.inBounds_iff y).trans decide_eq_true_iff.symm))
  have byYear : (Predicate.range "published_year" (.int y) (.int y)).holdsIn book.toTable =
      .ok (decide (y = digitsValue date.year)) := by
    have column : book.toTable.column "published_year" = .int (digitsValue date.year) := by
      rw [column_toTable]
      change Value.ofInt? book.publishedYear = .int (digitsValue date.year)
      rw [year, Value.ofInt?]
    have same := Predicate.rangeHolds_int_iff y (digitsValue date.year)
    rw [Predicate.holdsIn, Predicate.holds, column]
    exact congrArg Except.ok (Bool.eq_iff_iff.mpr (same.trans decide_eq_true_iff.symm))
  refine ⟨Field.yearClause "published_date" y, .range "published_year" (.int y) (.int y), ?_, ?_, ?_, byYear⟩
  · exact Field.clause_year writable
  · change (criteria.textClauses >>= fun texts => .ok ([.range "published_year" (.int y) (.int y)] ++ texts)) = _
    cases criteria.textClauses <;> rfl
  · exact byDate.trans byYear.symm

/-- The last day of the year 116. -/
def lastDay : FullDate where
  year := ['0', '1', '1', '6']
  month := ['1', '2']
  day := ['3', '1']
  yearPlaces := places_of_all rfl rfl
  monthPlaces := places_of_all rfl rfl
  dayPlaces := places_of_all rfl rfl
  monthBounds := by decide
  dayBounds := by decide

/-- What a catalog says about a book of that day. -/
def annalsTable : Table :=
  [("id", .string "annals"), ("title", .string "Annals"), ("published_date", .string lastDay.text)]

def annals : Book :=
  { id := "annals", title := "Annals", publishedDate := some lastDay.text, publishedYear := some 116 }

/-- The book is found under its own year, and neither under the negative one nor under years whose digits start in the
same way. -/
theorem Book.year_lookup_eq_filter_annals :
    check (.object annalsTable) = .valid annals ∧ annalsTable.column "published_year" = .null ∧
      annals.publishedDate = some lastDay.text ∧
      ∀ y ∈ [116, -116, 1160, 11600], Writable y ∧
        ∃ lookup refinement, Field.clause "year" (toString y) = .ok (some lookup) ∧
          ({ yearFrom := .int y, yearTo := .int y } : Criteria).refinements = .ok [refinement] ∧
          lookup.holdsIn annals.toTable = .ok (decide (y = 116)) ∧
          refinement.holdsIn annals.toTable = .ok (decide (y = 116)) := by
  have valid : check (.object annalsTable) = .valid annals := by rfl
  have absent : annalsTable.column "published_year" = .null := by rfl
  refine ⟨valid, absent, rfl, ?_⟩
  intro y member
  have writable : Writable y := by
    apply writable_of_word
    all_goals simp only [List.mem_cons, List.not_mem_nil, or_false] at member
    all_goals omega
  obtain ⟨lookup, refinement, looked, refined, same, found⟩ := year_lookup_eq_filter {} valid absent rfl writable
  exact ⟨writable, lookup, refinement, looked, refined, same.trans found, found⟩

end CatalogSearch
