import CatalogSearch.Book.Basic
import CatalogSearch.Proofs.Json.RoundTrip
import CatalogSearch.Proofs.Validation.Checked

/-! # Books and their tables

A book that was checked once is accepted again from its own table, as the same book.
-/

namespace CatalogSearch

namespace Book

/-- What holds of every book that was checked: its year of publication is of bounded size, and is only missing if its
date of publication gives none; what the catalog says besides the columns is sound and under names of its own. -/
structure WellFormed (book : Book) : Prop where
  writable : ∀ year ∈ book.publishedYear, Number.Writable year
  dated : book.withYear = .valid book
  nodup : book.extra.keys.Nodup
  apart : ∀ key ∈ book.extra.keys, key ∉ columnNames
  sound : ∀ entry ∈ book.extra, entry.2.Sound

private theorem filter_toTable {book : Book} (apart : ∀ key ∈ book.extra.keys, key ∉ columnNames) :
    book.toTable.filter (fun (key, _) => !columnNames.contains key) = book.extra := by
  have kept : book.extra.filter (fun (key, _) => !columnNames.contains key) = book.extra :=
    List.filter_eq_self.mpr fun entry member => by
      simpa using apart entry.1 (List.mem_map_of_mem member)
  rw [toTable, List.filter_append, kept]
  rfl

/-- The text of a column that may be missing. -/
def textColumn (table : Table) (key : String) : Checked (Option String) :=
  table.optional key none (Value.checkOptional Value.checkText)

/-- The columns of a table say what the book has in them. -/
structure Columns (table : Table) (book : Book) : Prop where
  id : table.required "id" Value.checkText = .valid book.id
  title : table.required "title" Value.checkText = .valid book.title
  author : table.optional "author" "" Value.checkText = .valid book.author
  publisher : textColumn table "publisher" = .valid book.publisher
  description : textColumn table "description" = .valid book.description
  isbn : textColumn table "isbn" = .valid book.isbn
  externalId : textColumn table "external_id" = .valid book.externalId
  narrator : textColumn table "narrator" = .valid book.narrator
  language : textColumn table "language" = .valid book.language
  genre : textColumn table "genre" = .valid book.genre
  categories : table.optional "categories" [] (Value.checkList Value.checkText) = .valid book.categories
  type : textColumn table "type" = .valid book.type
  fictionType : textColumn table "fiction_type" = .valid book.fictionType
  ebookFormat : textColumn table "ebook_format" = .valid book.ebookFormat
  audioFormat : textColumn table "audio_format" = .valid book.audioFormat
  fileSize : textColumn table "file_size" = .valid book.fileSize
  publishedDate : textColumn table "published_date" = .valid book.publishedDate
  publishedYear :
    table.optional "published_year" none (Value.checkOptional Value.checkInt) = .valid book.publishedYear
  createdAt : textColumn table "created_at" = .valid book.createdAt
  extra : table.filter (fun (key, _) => !columnNames.contains key) = book.extra

/-- A table passes with the book that its columns say. -/
theorem ofColumns_eq_valid_iff {table : Table} {book : Book} : ofColumns table = .valid book ↔ Columns table book := by
  constructor
  · intro valid
    obtain ⟨_, extra, upTo, filtered, _⟩ := Checked.seq_eq_valid_iff.mp valid
    iterate 18 obtain ⟨_, _, upTo, _, _⟩ := Checked.seq_eq_valid_iff.mp upTo
    obtain ⟨_, _, _⟩ := Checked.map_eq_valid_iff.mp upTo
    cases filtered
    subst_vars
    constructor <;> first | assumption | rfl
  · intro columns
    have rest : (pure (table.filter fun (key, _) => !columnNames.contains key) : Checked Table) = .valid book.extra :=
      congrArg Checked.valid columns.extra
    -- The checks succeed column by column, in the order in which they are made.
    have upTo := Checked.map_of_valid mk columns.id
    replace upTo := Checked.seq_of_valid (Checked.seq_of_valid upTo columns.title) columns.author
    replace upTo := Checked.seq_of_valid (Checked.seq_of_valid upTo columns.publisher) columns.description
    replace upTo := Checked.seq_of_valid (Checked.seq_of_valid upTo columns.isbn) columns.externalId
    replace upTo := Checked.seq_of_valid (Checked.seq_of_valid upTo columns.narrator) columns.language
    replace upTo := Checked.seq_of_valid (Checked.seq_of_valid upTo columns.genre) columns.categories
    replace upTo := Checked.seq_of_valid (Checked.seq_of_valid upTo columns.type) columns.fictionType
    replace upTo := Checked.seq_of_valid (Checked.seq_of_valid upTo columns.ebookFormat) columns.audioFormat
    replace upTo := Checked.seq_of_valid (Checked.seq_of_valid upTo columns.fileSize) columns.publishedDate
    replace upTo := Checked.seq_of_valid (Checked.seq_of_valid upTo columns.publishedYear) columns.createdAt
    exact Checked.seq_of_valid upTo rest

private theorem ofColumns_toTable {book : Book} (apart : ∀ key ∈ book.extra.keys, key ∉ columnNames) :
    ofColumns book.toTable = .valid book := by
  have text {key : String} {text : Option String} (found : book.toTable.get? key = some (.ofText? text)) :
      textColumn book.toTable key = .valid text :=
    Table.optional_of_get? none found (Value.checkOptional_ofText? text)
  exact ofColumns_eq_valid_iff.mpr {
    id := Table.required_of_get? rfl rfl
    title := Table.required_of_get? rfl rfl
    author := Table.optional_of_get? "" rfl rfl
    publisher := text rfl
    description := text rfl
    isbn := text rfl
    externalId := text rfl
    narrator := text rfl
    language := text rfl
    genre := text rfl
    categories := Table.optional_of_get? [] rfl (Value.checkList_checkText book.categories)
    type := text rfl
    fictionType := text rfl
    ebookFormat := text rfl
    audioFormat := text rfl
    fileSize := text rfl
    publishedDate := text rfl
    publishedYear := Table.optional_of_get? none rfl (Value.checkOptional_ofInt? book.publishedYear)
    createdAt := text rfl
    extra := filter_toTable apart }

/-- A well-formed book is what its table says. -/
theorem WellFormed.check_toTable {book : Book} (formed : book.WellFormed) :
    check (.object book.toTable) = .valid book := by
  rw [check, Value.checkTable, ofColumns_toTable formed.apart]
  exact formed.dated

private theorem writable_yearOfDate? {date : String} {year : Option Int} (read : yearOfDate? date = .ok year) :
    ∀ n ∈ year, Number.Writable n := by
  unfold yearOfDate? at read
  dsimp only at read
  split at read
  · cases read
    exact nofun
  · cases found : Number.readInteger (date.toList.take 4) with
    | error reason =>
      rw [found] at read
      cases read
    | ok n =>
      rw [found] at read
      cases read
      rintro _ ⟨⟩
      exact Number.writable_readInteger found

/-- Filling in the year leaves the book alone or takes the year from its date. -/
theorem withYear_eq_valid {book filled : Book} (valid : book.withYear = .valid filled) :
    filled = book ∨ ∃ date year, book.publishedYear = none ∧ book.publishedDate = some date ∧
      yearOfDate? date = .ok year ∧ filled = { book with publishedYear := year } := by
  unfold withYear at valid
  split at valid
  · next date missing given =>
    split at valid
    · next year read =>
      cases valid
      exact .inr ⟨date, year, missing, given, read, rfl⟩
    · cases valid
  · cases valid
    exact .inl rfl

/-- A year is filled in once. -/
theorem withYear_idem {book filled : Book} (valid : book.withYear = .valid filled) :
    filled.withYear = .valid filled := by
  rcases withYear_eq_valid valid with rfl | ⟨date, year, missing, given, read, rfl⟩
  · exact valid
  · cases year with
    | none =>
      have same : { book with publishedYear := none } = book := by rw [← missing]
      rw [same] at valid ⊢
      exact valid
    | some year => rfl

private theorem extra_withYear {book filled : Book} (valid : book.withYear = .valid filled) :
    filled.extra = book.extra := by
  rcases withYear_eq_valid valid with rfl | ⟨_, _, _, _, _, rfl⟩ <;> rfl

private theorem writable_withYear {book filled : Book} (valid : book.withYear = .valid filled)
    (writable : ∀ year ∈ book.publishedYear, Number.Writable year) :
    ∀ year ∈ filled.publishedYear, Number.Writable year := by
  rcases withYear_eq_valid valid with rfl | ⟨_, _, _, _, read, rfl⟩
  · exact writable
  · exact writable_yearOfDate? read

/-- Every book that was checked is well-formed. -/
theorem wellFormed_of_check {value : Value} {book : Book} (sound : value.Sound) (valid : check value = .valid book) :
    book.WellFormed := by
  cases sound with
  | @object table nodup each =>
    obtain ⟨base, columns, filled⟩ := Checked.andThen_eq_valid_iff.mp valid
    have said := ofColumns_eq_valid_iff.mp columns
    have extra := said.extra.symm
    rw [← extra_withYear filled] at extra
    have kept : book.extra.Sublist table := extra ▸ List.filter_sublist
    exact {
      writable := writable_withYear filled fun n given => by
        rcases Table.optional_eq_valid said.publishedYear with missing | ⟨_, member, checked⟩
        · rw [missing] at given
          cases given
        · exact (each _ member).writable_checkOptional checked n given
      dated := withYear_idem filled
      nodup := nodup.sublist (kept.map Prod.fst)
      apart := fun key member => by
        obtain ⟨entry, stays, rfl⟩ := List.mem_map.mp member
        rw [extra] at stays
        simpa using (List.mem_filter.mp stays).2
      sound := fun entry member => each entry (kept.subset member) }
  | null | bool | int | float | string | list => cases valid

/-! ## The table of a book -/

private theorem keys_toTable (book : Book) : book.toTable.keys = columnNames ++ book.extra.keys := by
  rw [Table.keys, toTable, List.map_append]
  rfl

/-- What holds of texts, null, the categories, the year and the further values holds of every value in the table. -/
theorem forall_toTable {book : Book} {P : Value → Prop} (text : ∀ text, P (.string text)) (null : P .null)
    (categories : P (.list (book.categories.map .string))) (year : P (.ofInt? book.publishedYear))
    (extra : ∀ entry ∈ book.extra, P entry.2) : ∀ entry ∈ book.toTable, P entry.2 := by
  have optional (given : Option String) : P (.ofText? given) := by
    cases given with
    | none => exact null
    | some given => exact text given
  refine List.forall_mem_append.mpr ⟨?_, extra⟩
  simp only [List.forall_mem_cons, text, optional, categories, year, true_and]
  exact nofun

/-- The table of a well-formed book is sound. -/
theorem WellFormed.sound_toTable {book : Book} (formed : book.WellFormed) : (Value.object book.toTable).Sound := by
  have texts : ∀ item ∈ book.categories.map Value.string, item.Sound :=
    List.forall_mem_map.mpr fun text _ => .string text
  have year : (Value.ofInt? book.publishedYear).Sound := by
    cases given : book.publishedYear with
    | none => exact .null
    | some n => exact .int (formed.writable n given)
  refine .object ?_ (forall_toTable .string .null (.list texts) year formed.sound)
  rw [keys_toTable, List.nodup_append]
  exact ⟨by decide, formed.nodup, fun _ column _ key same => formed.apart _ key (same ▸ column)⟩

theorem floatless_toTable {book : Book} (floatless : ∀ entry ∈ book.extra, entry.2.Floatless) :
    (Value.object book.toTable).Floatless := by
  have texts : ∀ item ∈ book.categories.map Value.string, item.Floatless :=
    List.forall_mem_map.mpr fun text _ => .string text
  have year : (Value.ofInt? book.publishedYear).Floatless := by
    cases book.publishedYear with
    | none => exact .null
    | some n => exact .int n
  exact .object (forall_toTable .string .null (.list texts) year floatless)

end Book

end CatalogSearch
