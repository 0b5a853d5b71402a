import CatalogSearch.Catalog.Reader
import CatalogSearch.Proofs.Book.RoundTrip
import CatalogSearch.Proofs.Outcome
import CatalogSearch.Proofs.Value.Year

/-! # Books with odd dates

A book without a date is accepted with nearly every text as its date: the year comes from decimal digits at the start
of the date, and other texts give none. What is refused are dates that start with digits of any kind, some of which have
no decimal value, such as superscripts. One of them in a book without a year is enough to refuse a whole catalog.
-/

namespace CatalogSearch

/-! ## Digits -/

/-- Membership does not change between characters that no change lies between. -/
theorem Text.CodeSet.contains_congr {set : CodeSet} {c d : Char}
    (between : ∀ flip ∈ set.flips, flip ≤ c.toNat ↔ flip ≤ d.toNat) : set.contains c = set.contains d := by
  obtain ⟨flips⟩ := set
  have same : flips.takeWhile (· ≤ c.toNat) = flips.takeWhile (· ≤ d.toNat) := by
    induction flips with
    | nil => rfl
    | cons flip rest ih =>
      obtain ⟨here, later⟩ := List.forall_mem_cons.mp between
      rw [List.takeWhile_cons, List.takeWhile_cons, ih later, decide_eq_decide.mpr here]
  rw [contains, contains, same]

/-- Decimal digits are among the digits of any kind. -/
theorem Text.isAnyDigit_of_decimalValue? {c : Char} {digit : Nat} (value : decimalValue? c = some digit) :
    isAnyDigit c = true := by
  -- every zero is a digit, and no change lies among its nine successors
  have runs : decimalZeros.all (fun first => Nat.ble 128 first && digitBeyondAscii.contains (Char.ofNat first) &&
      (Char.ofNat first).toNat.beq first &&
      digitBeyondAscii.flips.all fun flip => Nat.ble flip first || Nat.ble (first + 10) flip) = true := by
    decide +kernel
  rw [isAnyDigit, Bool.or_eq_true, Bool.and_eq_true, decide_eq_true_eq]
  unfold decimalValue? at value
  split at value
  · next ascii => exact .inl ascii
  split at value
  · cases value
  · obtain ⟨first, found, _⟩ := Option.map_eq_some_iff.mp value
    have run := List.all_eq_true.mp runs first (List.mem_of_find?_eq_some found)
    have range := List.find?_some found
    simp only [Bool.and_eq_true, Bool.or_eq_true, List.all_eq_true, Nat.ble_eq, Nat.beq_eq, decide_eq_true_eq]
      at run range
    obtain ⟨⟨⟨beyond, zero⟩, code⟩, apart⟩ := run
    refine .inr ⟨by omega, zero ▸ CodeSet.contains_congr fun flip member => ?_⟩
    rw [code]
    rcases apart flip member with before | behind <;> omega

namespace Number

/-- Every character is a digit with a decimal value. -/
def isDecimal (text : List Char) : Bool :=
  text.all fun c => (Text.decimalValue? c).isSome

theorem isDecimal_iff {text : List Char} :
    isDecimal text = true ↔ ∀ c ∈ text, (Text.decimalValue? c).isSome = true :=
  List.all_eq_true

private theorem leadingDigits_eq_filterMap {text : List Char}
    (decimal : ∀ c ∈ text, (Text.decimalValue? c).isSome = true) :
    leadingDigits text = (text.filterMap Text.decimalValue?, []) := by
  induction text with
  | nil => rfl
  | cons c rest ih =>
    obtain ⟨here, later⟩ := List.forall_mem_cons.mp decimal
    obtain ⟨digit, value⟩ := Option.isSome_iff_exists.mp here
    rw [leadingDigits, value, List.filterMap_cons_some value, ih later]

private theorem length_leadingDigits_le (text : List Char) : (leadingDigits text).1.length ≤ text.length := by
  induction text with
  | nil => exact Nat.le_refl 0
  | cons c rest ih =>
    rw [leadingDigits]
    split
    · exact Nat.succ_le_succ ih
    · exact Nat.zero_le _

/-- Digits of any kind, not too many of them, are a number if all of them have a decimal value. -/
theorem readInteger_of_isAnyDigit {text : List Char} (digits : ∀ c ∈ text, Text.isAnyDigit c = true)
    (nonempty : text ≠ []) (short : text.length ≤ maxDigits) :
    readInteger text = if isDecimal text = true
      then .ok (ofDigits (text.filterMap Text.decimalValue?) : Int)
      else .error (.notANumber (String.ofList text)) := by
  have plain : ∀ rest, text ≠ '-' :: rest := by
    rintro rest rfl
    exact absurd (digits '-' List.mem_cons_self) (by decide)
  have bounded : ¬maxDigits < (leadingDigits text).1.length :=
    Nat.not_lt.mpr (Nat.le_trans (length_leadingDigits_le text) short)
  rw [readInteger]
  · dsimp only
    rw [if_neg bounded]
    by_cases all : isDecimal text = true
    · have decimal := isDecimal_iff.mp all
      have taken := (digits_iff.mp ⟨nonempty, short, decimal⟩).2
      rw [taken, if_neg Bool.false_ne_true, if_neg Bool.false_ne_true, if_pos all,
        leadingDigits_eq_filterMap decimal]
    · have refused : ((leadingDigits text).1.isEmpty || !(leadingDigits text).2.isEmpty) = true := by
        by_contra taken
        have good := digits_iff.mpr ⟨Nat.not_lt.mp bounded, Bool.eq_false_iff.mpr taken⟩
        exact all (isDecimal_iff.mpr good.decimal)
      rw [if_pos refused, if_neg all]
  · exact plain

end Number

namespace Book

/-- Where a date has its year: its first four characters. -/
def yearPart (date : String) : List Char :=
  date.toList.take 4

/-- The year that a date writes: decimal digits alone, of any script. -/
def yearWritten? (date : String) : Option Int :=
  if (yearPart date).isEmpty || !Number.isDecimal (yearPart date) then none
  else some (Number.ofDigits ((yearPart date).filterMap Text.decimalValue?))

/-- There are digits alone where the date has its year, but one of them has no decimal value. -/
structure Misdated (date : String) : Prop where
  digits : (yearPart date).all Text.isAnyDigit = true
  odd : Number.isDecimal (yearPart date) = false

instance (date : String) : Decidable (Misdated date) :=
  decidable_of_iff ((yearPart date).all Text.isAnyDigit = true ∧ Number.isDecimal (yearPart date) = false)
    ⟨fun ⟨digits, odd⟩ => ⟨digits, odd⟩, fun ⟨digits, odd⟩ => ⟨digits, odd⟩⟩

/-- A date gives the year that it writes, or it is refused. -/
theorem yearOfDate?_eq (date : String) :
    yearOfDate? date = if Misdated date then .error (.notANumber (String.ofList (yearPart date)))
      else .ok (yearWritten? date) := by
  have short : (yearPart date).length ≤ Number.maxDigits :=
    Nat.le_trans (List.length_take_le 4 _) (by decide)
  rw [yearOfDate?]
  change (if (yearPart date).isEmpty || !(yearPart date).all Text.isAnyDigit then _ else
    (Number.readInteger (yearPart date)).map some) = _
  rw [yearWritten?]
  by_cases empty : yearPart date = []
  · have dated : ¬Misdated date := by
      rintro ⟨_, odd⟩
      rw [empty] at odd
      cases odd
    rw [if_neg dated, empty]
    rfl
  have some : (yearPart date).isEmpty = false := List.isEmpty_eq_false_iff.mpr empty
  rw [some, Bool.false_or, Bool.false_or]
  cases digits : (yearPart date).all Text.isAnyDigit with
  | true =>
    have read := Number.readInteger_of_isAnyDigit (List.all_eq_true.mp digits) empty short
    cases decimal : Number.isDecimal (yearPart date) with
    | true =>
      have dated : ¬Misdated date := fun misdated => Bool.false_ne_true (misdated.odd.symm.trans decimal)
      rw [decimal, if_pos rfl] at read
      rw [if_neg dated, read]
      rfl
    | false =>
      rw [decimal, if_neg Bool.false_ne_true] at read
      have misdated : Misdated date := ⟨digits, decimal⟩
      rw [if_pos misdated, read]
      rfl
  | false =>
    have dated : ¬Misdated date := fun misdated => Bool.false_ne_true (digits.symm.trans misdated.digits)
    have plain : Number.isDecimal (yearPart date) = false := by
      refine Bool.eq_false_iff.mpr fun decimal => ?_
      obtain ⟨c, member, other⟩ := List.all_eq_false.mp digits
      obtain ⟨_, value⟩ := Option.isSome_iff_exists.mp (Number.isDecimal_iff.mp decimal c member)
      exact other (Text.isAnyDigit_of_decimalValue? value)
    rw [if_neg dated, plain]
    rfl

/-! ## Dated books -/

variable {table : Table} {book : Book}

/-- A date that is put into a table without one is a column of the book, and no other column changes. -/
theorem Columns.set_date (columns : Columns table book) (date : String) :
    Columns (table.set "published_date" (.string date)) { book with publishedDate := some date } := by
  have text {key : String} (apart : key ≠ "published_date") :
      textColumn (table.set "published_date" (.string date)) key = textColumn table key :=
    Table.optional_set_of_ne apart
  exact {
    id := (Table.required_set_of_ne (by decide)).trans columns.id
    title := (Table.required_set_of_ne (by decide)).trans columns.title
    author := (Table.optional_set_of_ne (by decide)).trans columns.author
    publisher := (text (by decide)).trans columns.publisher
    description := (text (by decide)).trans columns.description
    isbn := (text (by decide)).trans columns.isbn
    externalId := (text (by decide)).trans columns.externalId
    narrator := (text (by decide)).trans columns.narrator
    language := (text (by decide)).trans columns.language
    genre := (text (by decide)).trans columns.genre
    categories := (Table.optional_set_of_ne (by decide)).trans columns.categories
    type := (text (by decide)).trans columns.type
    fictionType := (text (by decide)).trans columns.fictionType
    ebookFormat := (text (by decide)).trans columns.ebookFormat
    audioFormat := (text (by decide)).trans columns.audioFormat
    fileSize := (text (by decide)).trans columns.fileSize
    publishedDate := Table.optional_of_get? none (by rw [Table.get?_set, if_pos rfl]) rfl
    publishedYear := (Table.optional_set_of_ne (by decide)).trans columns.publishedYear
    createdAt := (text (by decide)).trans columns.createdAt
    extra := (Table.filter_set_of_not (!columnNames.contains ·) (by decide) table _).trans columns.extra }

/-- The date of a book fills in the year that is missing, or the book is refused. -/
theorem withYear_of_publishedDate {date : String} (dated : book.publishedDate = some date) :
    book.withYear =
      if book.publishedYear = none ∧ Misdated date
      then .complain (.badNumber (.notANumber (String.ofList (yearPart date))))
      else .valid { book with publishedYear := book.publishedYear.or (yearWritten? date) } := by
  cases year : book.publishedYear with
  | none =>
    rw [withYear, year, dated]
    dsimp only
    rw [yearOfDate?_eq]
    by_cases misdated : Misdated date
    · rw [if_pos misdated, if_pos ⟨rfl, misdated⟩]
    · rw [if_neg misdated, if_neg fun both => misdated both.2]
      rfl
  | some known =>
    have kept : { book with publishedYear := some known } = book := by rw [← year]
    rw [if_neg (by rintro ⟨⟨⟩, _⟩), Option.some_or, kept, withYear, year]

/-- What becomes of a book that is given a date. -/
theorem check_set_date (valid : check (.object table) = .valid book)
    (undated : table.column "published_date" = .null) (date : String) :
    check (.object (table.set "published_date" (.string date))) =
      if book.publishedYear = none ∧ Misdated date
      then .complain (.badNumber (.notANumber (String.ofList (yearPart date))))
      else .valid { book with
        publishedDate := some date, publishedYear := book.publishedYear.or (yearWritten? date) } := by
  obtain ⟨base, made, filled⟩ := Checked.andThen_eq_valid_iff.mp valid
  have columns := ofColumns_eq_valid_iff.mp made
  have missing : base.publishedDate = none := by
    have checked := columns.publishedDate
    rw [textColumn, Table.optional_of_null undated] at checked
    exact (Checked.valid.inj checked).symm
  obtain rfl : book = base := by
    rcases withYear_eq_valid filled with same | ⟨_, _, _, given, _⟩
    · exact same
    · cases missing.symm.trans given
  rw [check, Value.checkTable, ofColumns_eq_valid_iff.mpr (columns.set_date date),
    Checked.andThen_valid]
  exact withYear_of_publishedDate rfl

end Book

/-! ## Their catalogs -/

namespace Catalog

variable {before after : List Value} {entry : Value}

private theorem exists_checkEntries {entries : List Value}
    (valid : ∀ entry ∈ entries, ∃ book, Book.check entry = .valid book) :
    ∃ books, checkEntries entries = .ok books := by
  apply exists_mapM_eq_ok
  rintro ⟨entry, position⟩ member
  obtain ⟨book, passed⟩ := valid entry (List.fst_mem_of_mem_zipIdx member)
  exact ⟨book, by dsimp only; rw [passed]⟩

/-- One entry that is no book is enough to refuse a catalog. -/
theorem checkEntries_of_invalid (valid : ∀ entry ∈ before, ∃ book, Book.check entry = .valid book)
    {problems : List Problem} (invalid : Book.check entry = .invalid problems) :
    checkEntries (before ++ entry :: after) = .error (.invalidBook before.length problems) := by
  apply mapM_eq_error_iff.mpr
  refine ⟨before.zipIdx, (entry, before.length), after.zipIdx (before.length + 1), ?_, ?_, ?_⟩
  · rw [List.zipIdx_append, Nat.zero_add, List.zipIdx_cons]
  · rintro ⟨earlier, position⟩ member
    obtain ⟨book, passed⟩ := valid earlier (List.fst_mem_of_mem_zipIdx member)
    exact ⟨book, by dsimp only; rw [passed]⟩
  · dsimp only
    rw [invalid]

end Catalog

namespace Book

/-- A book without a date is accepted with any date that is not misdated, and with every date if it has a year of its
own. It is the same book with the date, and with the year that the date writes if it has none. A misdated date is the
only thing that is wrong with its book, and it makes a catalog of other books be refused. -/
theorem check_dated_iff {table : Table} {book : Book} (valid : check (.object table) = .valid book)
    (undated : table.column "published_date" = .null) (date : String) :
    (∀ dated, check (.object (table.set "published_date" (.string date))) = .valid dated ↔
        ¬(book.publishedYear = none ∧ Misdated date) ∧ dated = { book with
          publishedDate := some date, publishedYear := book.publishedYear.or (yearWritten? date) }) ∧
      (book.publishedYear = none ∧ Misdated date →
        check (.object (table.set "published_date" (.string date))) =
          .invalid [⟨[], .badNumber (.notANumber (String.ofList (yearPart date)))⟩]) ∧
      ∀ before after, (∀ entry ∈ before ++ after, ∃ other, check entry = .valid other) →
        ((∃ books, Catalog.checkEntries
            (before ++ .object (table.set "published_date" (.string date)) :: after) = .ok books) ↔
          ¬(book.publishedYear = none ∧ Misdated date)) := by
  have checked := check_set_date valid undated date
  refine ⟨fun dated => ?_, fun refused => ?_, fun before after others => ?_⟩
  · rw [checked]
    split
    · next refused => exact ⟨nofun, fun passed => absurd refused passed.1⟩
    · next passed =>
      rw [Checked.valid.injEq, eq_comm]
      exact (and_iff_right passed).symm
  · rw [checked, if_pos refused]
    rfl
  · obtain ⟨earlier, later⟩ := List.forall_mem_append.mp others
    constructor
    · rintro ⟨books, done⟩ refused
      rw [if_pos refused] at checked
      cases done.symm.trans (Catalog.checkEntries_of_invalid earlier checked)
    · intro passed
      rw [if_neg passed] at checked
      apply Catalog.exists_checkEntries
      exact List.forall_mem_append.mpr ⟨earlier, List.forall_mem_cons.mpr ⟨⟨_, checked⟩, later⟩⟩

/-- What a catalog says about a book without a date. -/
def plainTable : Table :=
  [("id", .string "a"), ("title", .string "T")]

/-- A year in the digits of another script. -/
theorem check_dated_iff_arabic :
    check (.object plainTable) = .valid { id := "a", title := "T" } ∧ plainTable.column "published_date" = .null ∧
      check (.object (plainTable.set "published_date" (.string "١٩٦٥-٠٨"))) =
        .valid { id := "a", title := "T", publishedDate := some "١٩٦٥-٠٨", publishedYear := some 1965 } := by
  have valid : check (.object plainTable) = .valid { id := "a", title := "T" } := by rfl
  have undated : plainTable.column "published_date" = .null := by rfl
  have read : ¬Misdated "١٩٦٥-٠٨" := by decide +kernel
  have year : yearWritten? "١٩٦٥-٠٨" = some 1965 := by decide +kernel
  refine ⟨valid, undated, ((check_dated_iff valid undated "١٩٦٥-٠٨").1 _).mpr ⟨fun both => read both.2, ?_⟩⟩
  rw [year]
  rfl

/-- A superscript is a digit without a decimal value. As a date it writes no year, but it is refused, and so is a
catalog with another book in front. -/
theorem check_superscript_date :
    check (.object plainTable) = .valid { id := "a", title := "T" } ∧ yearWritten? "²" = none ∧
      check (.object (plainTable.set "published_date" (.string "²"))) =
        .invalid [⟨[], .badNumber (.notANumber "²")⟩] ∧
      Catalog.checkEntries [.object plainTable, .object (plainTable.set "published_date" (.string "²"))] =
        .error (.invalidBook 1 [⟨[], .badNumber (.notANumber "²")⟩]) := by
  have valid : check (.object plainTable) = .valid { id := "a", title := "T" } := by rfl
  have refused : check (.object (plainTable.set "published_date" (.string "²"))) =
      .invalid [⟨[], .badNumber (.notANumber "²")⟩] := by
    rw [check_set_date valid (by rfl) "²", if_pos ⟨rfl, by decide +kernel⟩]
    rfl
  have front : ∀ entry ∈ [Value.object plainTable], ∃ book, check entry = .valid book :=
    List.forall_mem_singleton.mpr ⟨_, valid⟩
  exact ⟨valid, by decide +kernel, refused, Catalog.checkEntries_of_invalid front refused⟩

end Book

end CatalogSearch
