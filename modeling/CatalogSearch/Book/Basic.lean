import CatalogSearch.Text.Digit
import CatalogSearch.Validation.Checked

/-! # Books

A book of a catalog: its columns, and whatever else the catalog says about it. The year of publication is
taken from the date of publication where it is not given.
-/

namespace CatalogSearch

/-- A book of a catalog. -/
structure Book where
  id : String
  title : String
  author : String := ""
  publisher : Option String := none
  description : Option String := none
  isbn : Option String := none
  externalId : Option String := none
  narrator : Option String := none
  language : Option String := none
  genre : Option String := none
  categories : List String := []
  type : Option String := none
  fictionType : Option String := none
  ebookFormat : Option String := none
  audioFormat : Option String := none
  fileSize : Option String := none
  publishedDate : Option String := none
  publishedYear : Option Int := none
  createdAt : Option String := none
  extra : Table := []
  deriving Repr, Inhabited

namespace Book

def columnNames : List String :=
  ["id", "title", "author", "publisher", "description", "isbn", "external_id", "narrator", "language", "genre",
    "categories", "type", "fiction_type", "ebook_format", "audio_format", "file_size", "published_date",
    "published_year", "created_at"]

/-- The value of a column, null for one that the book lacks. -/
def column (book : Book) : String → Value
  | "id" => .string book.id
  | "title" => .string book.title
  | "author" => .string book.author
  | "publisher" => .ofText? book.publisher
  | "description" => .ofText? book.description
  | "isbn" => .ofText? book.isbn
  | "external_id" => .ofText? book.externalId
  | "narrator" => .ofText? book.narrator
  | "language" => .ofText? book.language
  | "genre" => .ofText? book.genre
  | "categories" => .list (book.categories.map .string)
  | "type" => .ofText? book.type
  | "fiction_type" => .ofText? book.fictionType
  | "ebook_format" => .ofText? book.ebookFormat
  | "audio_format" => .ofText? book.audioFormat
  | "file_size" => .ofText? book.fileSize
  | "published_date" => .ofText? book.publishedDate
  | "published_year" => .ofInt? book.publishedYear
  | "created_at" => .ofText? book.createdAt
  | other => book.extra.column other

/-- The book as a table: every column in order, then the rest. -/
def toTable (book : Book) : Table :=
  [("id", .string book.id), ("title", .string book.title), ("author", .string book.author),
    ("publisher", .ofText? book.publisher), ("description", .ofText? book.description),
    ("isbn", .ofText? book.isbn), ("external_id", .ofText? book.externalId),
    ("narrator", .ofText? book.narrator), ("language", .ofText? book.language),
    ("genre", .ofText? book.genre), ("categories", .list (book.categories.map .string)),
    ("type", .ofText? book.type), ("fiction_type", .ofText? book.fictionType),
    ("ebook_format", .ofText? book.ebookFormat), ("audio_format", .ofText? book.audioFormat),
    ("file_size", .ofText? book.fileSize), ("published_date", .ofText? book.publishedDate),
    ("published_year", .ofInt? book.publishedYear), ("created_at", .ofText? book.createdAt)] ++ book.extra

/-- The year at the start of a date, when its first four characters are digits. -/
def yearOfDate? (date : String) : Except Number.IntegerError (Option Int) :=
  let head := date.toList.take 4
  if head.isEmpty || !head.all Text.isAnyDigit then .ok none
  else (Number.readInteger head).map some

/-- Fill in the year of publication from the date of publication. -/
def withYear (book : Book) : Checked Book :=
  match book.publishedYear, book.publishedDate with
  | none, some date => match yearOfDate? date with
    | .ok year => .valid { book with publishedYear := year }
    | .error error => .complain (.badNumber error)
  | _, _ => .valid book

def ofColumns (table : Table) : Checked Book :=
  let text (key : String) := table.optional key none (Value.checkOptional Value.checkText)
  Book.mk <$> table.required "id" Value.checkText <*> table.required "title" Value.checkText
    <*> table.optional "author" "" Value.checkText <*> text "publisher" <*> text "description"
    <*> text "isbn" <*> text "external_id" <*> text "narrator" <*> text "language" <*> text "genre"
    <*> table.optional "categories" [] (Value.checkList Value.checkText) <*> text "type"
    <*> text "fiction_type" <*> text "ebook_format" <*> text "audio_format" <*> text "file_size"
    <*> text "published_date" <*> table.optional "published_year" none (Value.checkOptional Value.checkInt)
    <*> text "created_at" <*> pure (table.filter fun (key, _) => !columnNames.contains key)

def check : Value → Checked Book :=
  Value.checkTable "Book" fun table => (ofColumns table).andThen withYear

end Book

end CatalogSearch
