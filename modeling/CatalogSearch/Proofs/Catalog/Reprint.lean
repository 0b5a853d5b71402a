import CatalogSearch.Catalog.Plugin
import CatalogSearch.Proofs.Book.RoundTrip
import CatalogSearch.Report

/-! # Results that are read as a catalog

The lines that are written for books make up a catalog of the same books. Nothing that a book says can break its line
in two, since what is not visible ASCII is escaped.
-/

namespace CatalogSearch

namespace Catalog

/-! ## Entries -/

private theorem sound_documentEntries {text : List Char} {found : List Value}
    (read : documentEntries text = .ok found) : ∀ entry ∈ found, entry.Sound := by
  unfold documentEntries at read
  split at read
  · cases read
    exact List.forall_mem_nil _
  · split at read
    · cases read
    · cases read
    · next parsed =>
      cases read
      cases Json.sound_parseChars parsed with
      | list each => exact each
    · next table parsed =>
      split at read
      · cases read
        exact List.forall_mem_nil _
      · next under =>
        cases read
        cases Json.sound_parseChars parsed with
        | object _ each =>
          cases each _ (Table.mem_of_get? under) with
          | list entries => exact entries
      · cases read
    · cases read

private theorem sound_lineEntry {line : List Char} {number : Nat} {entry : Value}
    (read : lineEntry line number = .ok entry) : entry.Sound := by
  unfold lineEntry at read
  split at read
  · cases read
  · cases read
  · next parsed =>
    cases read
    exact Json.sound_parseChars parsed

private theorem sound_entries {layout : Layout} {text : List Char} {found : List Value}
    (read : entries layout text = .ok found) : ∀ entry ∈ found, entry.Sound := by
  cases layout with
  | document => exact sound_documentEntries read
  | lines =>
    intro entry member
    obtain ⟨⟨line, number⟩, _, here⟩ := exists_of_mapM_eq_ok read member
    exact sound_lineEntry here

/-- Every book of a catalog is well-formed. -/
theorem wellFormed_of_read {files : Files} {path : PathName} {books : List Book} (loaded : read files path = .ok books)
    {book : Book} (member : book ∈ books) : book.WellFormed := by
  unfold read at loaded
  split at loaded
  · unfold parseBytes at loaded
    split at loaded
    · cases loaded
    · obtain ⟨found, listed, checked⟩ := bind_eq_ok_iff.mp loaded
      obtain ⟨⟨entry, position⟩, present, valid⟩ := exists_of_mapM_eq_ok checked member
      have sound := sound_entries listed entry (List.fst_mem_of_mem_zipIdx present)
      dsimp only at valid
      split at valid
      · next accepted =>
        cases valid
        exact Book.wellFormed_of_check sound accepted
      · cases valid
  · cases loaded
  · cases loaded

/-! ## Lines -/

private theorem endsLine_of_visible {c : Char} (visible : Json.Visible c) : endsLine c = false := by
  obtain ⟨least, most⟩ := visible
  simp only [endsLine, Bool.or_eq_false_iff, Bool.and_eq_false_iff, decide_eq_false_iff_not, beq_eq_false_iff_ne]
  omega

/-- A line without line ends in it is split off from what follows its end. -/
theorem splitLines_append {line : List Char} (inside : ∀ c ∈ line, endsLine c = false) {mark : Char}
    (ends : endsLine mark = true) (rest : List Char) : splitLines (line ++ mark :: rest) = line :: splitLines rest := by
  induction line with
  | nil => rw [List.nil_append, splitLines, if_pos ends]
  | cons c line ih =>
    obtain ⟨here, later⟩ := List.forall_mem_cons.mp inside
    rw [List.cons_append, splitLines, here, ih later]
    rfl

private theorem splitLines_flatMap {lines : List (List Char)}
    (inside : ∀ line ∈ lines, ∀ c ∈ line, endsLine c = false) : splitLines (lines.flatMap (· ++ ['\n'])) = lines := by
  induction lines with
  | nil => rfl
  | cons line lines ih =>
    obtain ⟨here, later⟩ := List.forall_mem_cons.mp inside
    rw [List.flatMap_cons, List.append_assoc, List.singleton_append, splitLines_append here rfl, ih later]

theorem unifyLineEnds_of_not_mem {text : List Char} (absent : '\r' ∉ text) : unifyLineEnds text = text := by
  induction text with
  | nil => rfl
  | cons c rest ih =>
    obtain ⟨other, later⟩ := not_or.mp (mt List.mem_cons.mpr absent)
    rw [unifyLineEnds, ih later]
    · exact fun _ same _ => other same.symm
    · exact fun same => other same.symm

private theorem not_blank_printChars {value : Value} (sound : value.Sound) (floatless : value.Floatless) :
    (Json.printChars value).all Text.isBlank = false := by
  obtain ⟨c, rest, whole, opens⟩ := (Json.readsBack_of_sound sound floatless).opens
  have visible := Json.visible_printChars floatless
  rw [whole] at visible ⊢
  obtain ⟨least, most⟩ := visible c List.mem_cons_self
  have other : c.toNat ≠ ' '.toNat := fun same => by
    rw [Char.toNat_inj.mp same] at opens
    exact absurd opens (by decide)
  have solid : Text.isBlank c = false := by
    simp only [Text.isBlank, Bool.or_eq_false_iff, Bool.and_eq_false_iff, decide_eq_false_iff_not, beq_eq_false_iff_ne]
    simp only [Char.reduceToNat] at other
    omega
  rw [List.all_cons, solid, Bool.false_and]

/-- Lines of JSON have the entries that they were written for. -/
theorem lineEntries_printLines {values : List Value} (sound : ∀ value ∈ values, value.Sound)
    (floatless : ∀ value ∈ values, value.Floatless) :
    lineEntries ((values.map Json.printChars).flatMap (· ++ ['\n'])) = .ok values := by
  have whole : splitLines ((values.map Json.printChars).flatMap (· ++ ['\n'])) = values.map Json.printChars :=
    splitLines_flatMap <| List.forall_mem_map.mpr fun value member c inside =>
      endsLine_of_visible (Json.visible_printChars (floatless value member) c inside)
  rw [lineEntries, whole, List.filter_eq_self.mpr]
  · refine mapM_zipIdx_of_forall (fun value member number => ?_) 1
    simp only [lineEntry, Json.parseChars_printChars (sound value member) (floatless value member)]
  · rintro ⟨line, number⟩ member
    obtain ⟨value, present, rfl⟩ := List.mem_map.mp (List.fst_mem_of_mem_zipIdx member)
    simp only [not_blank_printChars (sound value present) (floatless value present), Bool.not_false]

theorem toList_jsonLines (items : List Value) :
    (Report.jsonLines items).toList = (items.map Json.printChars).flatMap (· ++ ['\n']) := by
  rw [Report.jsonLines, String.toList_join, List.flatMap_map, List.flatMap_map]
  refine List.flatMap_congr fun item _ => ?_
  rw [String.toList_append, Json.print, String.toList_ofList]
  rfl

private theorem not_mem_jsonLines {items : List Value} (floatless : ∀ item ∈ items, item.Floatless) :
    '\r' ∉ (Report.jsonLines items).toList := by
  rw [toList_jsonLines]
  intro found
  obtain ⟨line, written, inside⟩ := List.mem_flatMap.mp found
  obtain ⟨item, present, rfl⟩ := List.mem_map.mp written
  rcases List.mem_append.mp inside with member | ending
  · exact absurd (Json.visible_printChars (floatless item present) '\r' member) (by decide)
  · exact absurd ending (by decide)

/-! ## Books -/

/-- A file is read in the layout that its suffix announces. -/
theorem load_of_file {files : Files} {path : PathName} {bytes : List UInt8}
    (found : files.at? path = some (.file bytes)) :
    Plugin.json.load files path = parseBytes ((layout? path.suffix).getD .document) bytes := by
  change read files path = _
  rw [read, found]

/-- Books are accepted from their tables. -/
theorem checkEntries_toTable {books : List Book} (formed : ∀ book ∈ books, book.WellFormed) :
    checkEntries (books.map fun book => .object book.toTable) = .ok books := by
  refine mapM_zipIdx_of_forall (fun book member position => ?_) 0
  simp only [(formed book member).check_toTable]

/-- The bytes of the lines for books hold these books. -/
theorem parseBytes_jsonLines {books : List Book} (formed : ∀ book ∈ books, book.WellFormed)
    (floatless : ∀ book ∈ books, ∀ entry ∈ book.extra, entry.2.Floatless) :
    parseBytes .lines (Text.utf8Bytes (Report.jsonLines (books.map fun book => .object book.toTable)).toList) =
      .ok books := by
  have sound : ∀ value ∈ books.map fun book => Value.object book.toTable, value.Sound :=
    List.forall_mem_map.mpr fun book member => (formed book member).sound_toTable
  have plain : ∀ value ∈ books.map fun book => Value.object book.toTable, value.Floatless :=
    List.forall_mem_map.mpr fun book member => Book.floatless_toTable (floatless book member)
  rw [parseBytes, Text.decodeUtf8?_utf8Bytes]
  dsimp only
  rw [unifyLineEnds_of_not_mem (not_mem_jsonLines plain), toList_jsonLines]
  exact bind_eq_ok_iff.mpr ⟨_, lineEntries_printLines sound plain, checkEntries_toTable formed⟩

end Catalog

/-- A book that was loaded from some catalog in JSON. -/
def Book.Loaded (book : Book) : Prop :=
  ∃ files path books, Plugin.json.load files path = .ok books ∧ book ∈ books

/-- What is written for loaded books without floating-point numbers among their further values, line by line as JSON,
loads as the same books in the same order from every file of lines that it is written to. -/
theorem Catalog.printed_results_load_back {books : List Book} (loaded : ∀ book ∈ books, book.Loaded)
    (floatless : ∀ book ∈ books, ∀ entry ∈ book.extra, entry.2.Floatless) (title : String) (hasMore : Bool) :
    ∃ written, Report.write .json title (books.map fun book => .object book.toTable) hasMore = .ok written ∧
      written.displays = [] ∧
      ∀ (files : Files) (path : PathName), files.at? path = some (.file (Text.utf8Bytes written.text.toList)) →
        Catalog.layout? path.suffix = some .lines → Plugin.json.load files path = .ok books := by
  have formed : ∀ book ∈ books, book.WellFormed := fun book member => by
    obtain ⟨files, path, others, read, found⟩ := loaded book member
    exact wellFormed_of_read read found
  refine ⟨_, rfl, rfl, fun files path found suffix => ?_⟩
  rw [load_of_file found, suffix, Option.getD_some, parseBytes_jsonLines formed floatless]

/-- What a catalog says about a book, with quotes, a line end, a line separator and a character of two units. -/
def oddValue : Value :=
  .object [("no\nte", .list [.int (-1), .null, .string "\u2028😀"]), ("title", .string "\"Odd\""), ("id", .string "7")]

/-- That book. -/
def oddBook : Book where
  id := "7"
  title := "\"Odd\""
  extra := [("no\nte", .list [.int (-1), .null, .string "\u2028😀"])]

/-- A document that lists the odd book, with other escapes than those that are written for it. -/
def oddCatalog : List Char :=
  "[\x7b\"no\\u000Ate\" : [-1, null, \"\u2028\\ud83d\\ude00\"], \"title\":\"\\\"Odd\\\"\", \"id\":\"7\"\x7d]".toList

private theorem loaded_oddBook : oddBook.Loaded := by
  refine ⟨{ nodes := [(["work", "odd.json"], .file (Text.utf8Bytes oddCatalog))] }, ⟨"", ["odd.json"]⟩, [oddBook], ?_,
    List.mem_cons_self⟩
  have listed : Catalog.entries .document (Catalog.unifyLineEnds oddCatalog) = .ok [oddValue] := by
    unfold oddCatalog
    simp only [String.reduceToList]
    rfl
  have checked : Book.check oddValue = .valid oddBook := rfl
  rw [Catalog.load_of_file rfl, Catalog.parseBytes, Text.decodeUtf8?_utf8Bytes]
  refine bind_eq_ok_iff.mpr ⟨_, listed, mapM_eq_ok_iff.mpr (.cons ?_ .nil)⟩
  simp only [checked]

/-- The odd book loads from the line that is written for it. -/
theorem Catalog.printed_results_load_back_oddBook :
    ∃ written, Report.write .json "All books" [.object oddBook.toTable] false = .ok written ∧
      Plugin.json.load { nodes := [(["work", "results.jsonl"], .file (Text.utf8Bytes written.text.toList))] }
        ⟨"", ["results.jsonl"]⟩ = .ok [oddBook] := by
  have floatless : ∀ entry ∈ oddBook.extra, entry.2.Floatless := List.forall_mem_singleton.mpr <|
    .list <| List.forall_mem_cons.mpr ⟨.int (-1), List.forall_mem_cons.mpr ⟨.null, List.forall_mem_singleton.mpr <|
      .string "\u2028😀"⟩⟩
  obtain ⟨written, wrote, _, loads⟩ := Catalog.printed_results_load_back (List.forall_mem_singleton.mpr loaded_oddBook)
    (List.forall_mem_singleton.mpr floatless) "All books" false
  exact ⟨written, wrote, loads _ _ rfl rfl⟩

end CatalogSearch
