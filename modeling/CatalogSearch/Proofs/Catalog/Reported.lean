import CatalogSearch.Proofs.Catalog.Layouts
import CatalogSearch.Proofs.CommandLine.Failure
import CatalogSearch.Proofs.Json.Within
import CatalogSearch.Proofs.Text.Utf8

/-! # Catalogs that are refused

Whatever bytes a catalog has, reading it gives books or an error. The error is one that catalogs are refused with as
long as the bytes are UTF-8 and the reader does not come to a whole number that is too long; there is no such number
without its digits in the file, side by side.
-/

namespace CatalogSearch.Catalog

open Number (IntegerError TooLongIn)

variable {text line : List Char}

/-! ## Lines -/

theorem unified_unifyLineEnds (text : List Char) : Text.Unified text (unifyLineEnds text) := by
  fun_induction unifyLineEnds text with
  | case1 rest ih => exact ih.pair
  | case2 rest _ ih => exact ih.single
  | case3 c rest _ _ ih => exact ih.keep c
  | case4 => exact .nil

private theorem prefix_of_splitLines {others : List (List Char)} (cut : splitLines text = line :: others) : line <+:
    text := by
  induction text generalizing line others with
  | nil => cases cut
  | cons c rest ih =>
    rw [splitLines] at cut
    split at cut
    · cases cut
      exact List.nil_prefix
    split at cut
    · next first more later =>
      cases cut
      exact List.cons_prefix_cons.mpr ⟨rfl, ih later⟩
    · cases cut
      exact ⟨rest, rfl⟩

/-- A line stands in its text. -/
theorem infix_of_mem_splitLines (member : line ∈ splitLines text) : line <:+: text := by
  induction text with
  | nil => cases member
  | cons c rest ih =>
    have behind (found : line ∈ splitLines rest) : line <:+: c :: rest :=
      (ih found).trans (List.suffix_cons c rest).isInfix
    cases cut : splitLines (c :: rest) with
    | nil =>
      rw [cut] at member
      cases member
    | cons first others =>
      rw [cut] at member
      rcases List.mem_cons.mp member with rfl | later
      · exact (prefix_of_splitLines cut).isInfix
      · refine behind ?_
        rw [splitLines] at cut
        split at cut
        · cases cut
          exact later
        split at cut
        · next whole =>
          cases cut
          rw [whole]
          exact List.mem_cons_of_mem _ later
        · cases cut
          cases later

/-! ## Numbers that are too long -/

/-- The reader comes to a whole number that is too long, before any fault. -/
inductive ComesToTooLong : Layout → List Char → IntegerError → Prop
  | document {text : List Char} {error : IntegerError} (stopped : Json.parseChars text = .error (.number error)) :
    ComesToTooLong .document text error
  | lines {text line : List Char} {before after : List (List Char)} {error : IntegerError}
    (cut : (splitLines text).filter (fun line => !line.all Text.isBlank) = before ++ line :: after)
    (read : ∀ earlier ∈ before, ∃ value, Json.parseChars earlier = .ok value)
    (stopped : Json.parseChars line = .error (.number error)) : ComesToTooLong .lines text error

private theorem ComesToTooLong.tooLongIn {layout : Layout} {error : IntegerError}
    (comes : ComesToTooLong layout text error) : TooLongIn (fun _ => false) text error := by
  cases comes with
  | document stopped => exact Json.tooLongIn_of_parseChars stopped
  | @lines _ line before after _ cut _ stopped =>
    have member : line ∈ (splitLines text).filter fun line => !line.all Text.isBlank := by
      rw [cut]
      exact List.mem_append_right before List.mem_cons_self
    exact (Json.tooLongIn_of_parseChars stopped).of_part (infix_of_mem_splitLines (List.mem_filter.mp member).1)

theorem isBlank_of_isDigit {c : Char} (digit : c.isDigit = true) : Text.isBlank c = false :=
  Json.not_isBlank_of_startsValue (by rw [Json.startsValue, digit, Bool.true_or])

private theorem not_all_isBlank_of_tooLongIn {error : IntegerError} (long : TooLongIn (fun _ => false) text error) :
    text.all Text.isBlank = false := by
  obtain ⟨run, inside, _, count, _⟩ := long
  obtain ⟨c, member, digit⟩ := List.countP_pos_iff.mp (Nat.zero_lt_of_lt count)
  refine Bool.eq_false_iff.mpr fun blank => ?_
  have here := List.all_eq_true.mp blank c (inside.subset member)
  exact absurd here (by simp [isBlank_of_isDigit digit])

theorem documentEntries_eq_number_iff {error : IntegerError} :
    documentEntries text = .error (.number error) ↔ Json.parseChars text = .error (.number error) := by
  constructor
  · intro failed
    unfold documentEntries at failed
    split at failed
    · cases failed
    split at failed
    · cases failed
    · next stopped =>
      cases failed
      exact stopped
    · cases failed
    · split at failed <;> cases failed
    · cases failed
  · intro stopped
    have solid := not_all_isBlank_of_tooLongIn (Json.tooLongIn_of_parseChars stopped)
    rw [documentEntries, solid, if_neg Bool.false_ne_true, stopped]

theorem lineEntry_eq_number_iff {number : Nat} {error : IntegerError} :
    lineEntry line number = .error (.number error) ↔ Json.parseChars line = .error (.number error) := by
  unfold lineEntry
  split
  · next failed => exact ⟨nofun, fun stopped => nomatch failed.symm.trans stopped⟩
  · next failed =>
    rw [failed, Except.error.injEq, Except.error.injEq, CatalogError.number.injEq, Json.ReadError.number.injEq]
  · next parsed => exact ⟨nofun, fun stopped => nomatch parsed.symm.trans stopped⟩

/-- The lines with entries, without their numbers. -/
theorem map_fst_numbered (text : List Char) :
    (((splitLines text).zipIdx 1).filter fun (line, _) => !line.all Text.isBlank).map Prod.fst =
      (splitLines text).filter fun line => !line.all Text.isBlank := by
  conv_rhs => rw [← List.zipIdx_map_fst 1 (splitLines text), List.filter_map]
  rfl

private theorem lineEntries_eq_number_iff {error : IntegerError} :
    lineEntries text = .error (.number error) ↔ ComesToTooLong .lines text error := by
  rw [lineEntries, mapM_eq_error_iff]
  have lines := map_fst_numbered text
  constructor
  · rintro ⟨before, ⟨line, number⟩, after, cut, read, stopped⟩
    rw [cut, List.map_append, List.map_cons] at lines
    refine .lines lines.symm ?_ (lineEntry_eq_number_iff.mp stopped)
    rintro earlier member
    obtain ⟨⟨earlier, place⟩, here, rfl⟩ := List.mem_map.mp member
    obtain ⟨entry, done⟩ := read _ here
    exact ⟨entry, lineEntry_eq_ok_iff.mp done⟩
  · intro comes
    cases comes with
    | @lines _ line before after _ cut read stopped =>
    rw [cut] at lines
    obtain ⟨front, back, whole, rfl, rest⟩ := List.map_eq_append_iff.mp lines
    obtain ⟨⟨line, number⟩, last, rfl, rfl, _⟩ := List.map_eq_cons_iff.mp rest
    refine ⟨front, (line, number), last, whole, ?_, lineEntry_eq_number_iff.mpr stopped⟩
    rintro ⟨earlier, place⟩ member
    obtain ⟨value, done⟩ := read earlier (List.mem_map_of_mem member)
    exact ⟨value, lineEntry_eq_ok_iff.mpr done⟩

theorem entries_eq_number_iff {layout : Layout} {error : IntegerError} :
    entries layout text = .error (.number error) ↔ ComesToTooLong layout text error := by
  cases layout with
  | document =>
    constructor
    · exact fun failed => .document (documentEntries_eq_number_iff.mp failed)
    · rintro ⟨stopped⟩
      exact documentEntries_eq_number_iff.mpr stopped
  | lines => exact lineEntries_eq_number_iff

/-! ## Bytes -/

variable {layout : Layout} {bytes : List UInt8} {error : CatalogError}

private theorem isReported_or_number_of_entries (failed : entries layout text = .error error) :
    error.isReported = true ∨ ∃ own, error = .number own := by
  cases layout with
  | document =>
    rw [entries, documentEntries] at failed
    repeat' split at failed
    all_goals cases failed
    · exact .inl rfl
    · exact .inr ⟨_, rfl⟩
    · exact .inl rfl
    · exact .inl rfl
  | lines =>
    obtain ⟨⟨line, number⟩, _, here⟩ := exists_of_mapM_eq_error failed
    dsimp only at here
    unfold lineEntry at here
    split at here
    all_goals cases here
    · exact .inl rfl
    · exact .inr ⟨_, rfl⟩

private theorem isReported_of_checkEntries {found : List Value} (failed : checkEntries found = .error error) :
    error.isReported = true := by
  have judged : Judged (checkEntries found) := judged_checkFrom 0 found
  rw [failed] at judged
  cases judged
  rfl

/-- The errors that no catalog is refused with, and the bytes that they are found in: those of no text, or those of a
text with a number that is too long. -/
inductive Stops (layout : Layout) (bytes : List UInt8) : CatalogError → Prop
  | notText (broken : ∀ text, bytes ≠ Text.utf8Bytes text) : Stops layout bytes .notText
  | number {text : List Char} {error : IntegerError} (isText : bytes = Text.utf8Bytes text)
    (comes : ComesToTooLong layout (unifyLineEnds text) error) (stands : TooLongIn (fun _ => false) text error) :
    Stops layout bytes (.number error)

/-- Bytes are read neither as books nor refused exactly if they stop the reader. -/
theorem stops_iff :
    Stops layout bytes error ↔ parseBytes layout bytes = .error error ∧ error.isReported = false := by
  rw [parseBytes]
  constructor
  · intro stops
    cases stops with
    | notText broken =>
      rw [Text.decodeUtf8?_eq_none_iff.mpr broken]
      exact ⟨rfl, rfl⟩
    | number isText comes =>
      rw [isText, Text.decodeUtf8?_utf8Bytes]
      exact ⟨bind_eq_error_iff.mpr (.inl (entries_eq_number_iff.mpr comes)), rfl⟩
  · rintro ⟨failed, unreported⟩
    cases decoded : Text.decodeUtf8? bytes with
    | none =>
      rw [decoded] at failed
      cases failed
      exact .notText (Text.decodeUtf8?_eq_none_iff.mp decoded)
    | some text =>
      rw [decoded] at failed
      rcases bind_eq_error_iff.mp failed with here | ⟨found, _, later⟩
      · rcases isReported_or_number_of_entries here with reported | ⟨own, rfl⟩
        · cases unreported.symm.trans reported
        · have comes := entries_eq_number_iff.mp here
          exact .number (Text.decodeUtf8?_eq_some_iff.mp decoded) comes
            (comes.tooLongIn.of_unified rfl (unified_unifyLineEnds text))
      · cases unreported.symm.trans (isReported_of_checkEntries later)

/-- Whatever bytes stand in a file, it is read as books or refused exactly if they do not stop the reader. A search ends
with a failure of its catalog exactly if they do and the plugin for JSON is the one that is used. -/
theorem load_reported_iff {files : Files} {path : PathName} (file : files.at? path = some (.file bytes)) :
    (((∃ books, Plugin.json.load files path = .ok books) ∨
        ∃ error, Plugin.json.load files path = .error error ∧ error.isReported = true) ↔
      ∀ error, ¬Stops ((layout? path.suffix).getD .document) bytes error) ∧
    (∀ error, Stops ((layout? path.suffix).getD .document) bytes error ↔
      Plugin.json.load files path = .error error ∧ error.isReported = false) ∧
    ∀ (config : Config) (options : CommandLine.Options) (catalog : String) (error : CatalogError),
      PathName.ofText catalog = path →
        ((CommandLine.searchCatalog files config options catalog).failure = some (.load (.catalog error)) ↔
          Registry.TakesJson files path ((Request.nonempty options.plugin).or config.catalog.defaultPlugin) ∧
            Stops ((layout? path.suffix).getD .document) bytes error) := by
  rw [load_of_file file]
  refine ⟨ok_or_error_iff fun error => ?_, fun error => stops_iff, ?_⟩
  · rw [stops_iff, Bool.not_eq_true]
  · rintro config options catalog error rfl
    rw [stops_iff, ← load_of_file file]
    exact CommandLine.failure_searchCatalog_iff

/-! ## Files that are neither read nor refused -/

/-- A catalog with some bytes in the working directory. -/
def catalogFile (bytes : List UInt8) : Files where
  nodes := [(["work", "catalog.json"], .file bytes)]

theorem at?_catalogFile (bytes : List UInt8) :
    (catalogFile bytes).at? (.ofText "catalog.json") = some (.file bytes) :=
  rfl

/-- An opening bracket, and a byte that stands in no text. -/
def brokenBytes : List UInt8 :=
  [0x5B, 0xFF]

theorem stops_brokenBytes : Stops .document brokenBytes .notText := by
  have undecoded : Text.decodeUtf8? brokenBytes = none := by
    unfold brokenBytes
    decide +kernel
  exact .notText (Text.decodeUtf8?_eq_none_iff.mp undecoded)

private theorem takesJson_brokenBytes : Registry.TakesJson (catalogFile brokenBytes) (.ofText "catalog.json") none := by
  have decoded : Text.decodeLenient brokenBytes = ['[', Char.ofNat 0xFFFD] := by
    unfold brokenBytes
    decide +kernel
  have sure : headConfidence brokenBytes = .ofDecimal false 9 (-1) := by
    rw [headConfidence, decoded]
    rfl
  change Registry.isSure (headConfidence brokenBytes) = true
  rw [sure]
  rfl

/-- A command line that names a catalog alone searches it. -/
theorem run_catalogFile (bytes : List UInt8) :
    CommandLine.run (catalogFile bytes) ["catalog.json"] =
      CommandLine.searchCatalog (catalogFile bytes) {} { catalog := some "catalog.json" } "catalog.json" :=
  rfl

theorem load_reported_iff_brokenBytes :
    ¬((∃ books, Plugin.json.load (catalogFile brokenBytes) (.ofText "catalog.json") = .ok books) ∨
        ∃ error, Plugin.json.load (catalogFile brokenBytes) (.ofText "catalog.json") = .error error ∧
          error.isReported = true) := by
  intro judged
  exact (load_reported_iff (at?_catalogFile brokenBytes)).1.mp judged _ stops_brokenBytes

/-- The digits of a number that is one digit too long. -/
def longDigits : List Char :=
  List.replicate 4301 '1'

theorem parseChars_longDigits : Json.parseChars longDigits = .error (.number (.tooManyDigits 4301)) := by
  have ascii : ∀ c ∈ longDigits, c.isDigit = true := fun c member => List.eq_of_mem_replicate member ▸ rfl
  have whole : ∀ c ∈ longDigits.head?, c ≠ '0' := by
    rintro c ⟨⟩
    decide
  have count : longDigits.length = 4301 := List.length_replicate
  have long : Number.maxDigits < longDigits.length := by
    rw [count]
    decide
  rw [Json.parseChars_of_tooManyDigits ascii whole long, count]

/-- A list of that number. -/
def longNumber : List UInt8 :=
  Text.utf8Bytes (documentText [longDigits])

theorem stops_longNumber : Stops .document longNumber (.number (.tooManyDigits 4301)) := by
  have readable : ∀ text ∈ [longDigits], Json.Readable text := by
    rintro text member fault left malformed
    rw [List.mem_singleton.mp member, parseChars_longDigits] at malformed
    cases malformed
  have stopped : Json.parseChars (documentText [longDigits]) = .error (.number (.tooManyDigits 4301)) := by
    rw [documentText, Json.parseChars_list readable, List.mapM_cons, parseChars_longDigits]
    rfl
  have inside : '\r' ∉ longDigits := fun member => absurd (List.eq_of_mem_replicate member) (by decide)
  have oneLine : '\r' ∉ documentText [longDigits] := by
    simp [documentText, List.intercalate_singleton, inside]
  have comes : ComesToTooLong .document (unifyLineEnds (documentText [longDigits])) (.tooManyDigits 4301) := by
    rw [unifyLineEnds_of_not_mem oneLine]
    exact .document stopped
  exact .number rfl comes (Json.tooLongIn_of_parseChars stopped)

/-- Neither a catalog that is no text nor one with a number that is too long is refused. The command line that searches
one of them fails. -/
theorem catalogs_not_refused :
    Plugin.json.load (catalogFile brokenBytes) (.ofText "catalog.json") = .error .notText ∧
      Plugin.json.load (catalogFile longNumber) (.ofText "catalog.json") = .error (.number (.tooManyDigits 4301)) ∧
      CatalogError.isReported .notText = false ∧ CatalogError.isReported (.number (.tooManyDigits 4301)) = false ∧
      (CommandLine.run (catalogFile brokenBytes) ["catalog.json"]).failure = some (.load (.catalog .notText)) := by
  have broken : Plugin.json.load (catalogFile brokenBytes) (.ofText "catalog.json") = .error .notText := by
    rw [load_of_file (at?_catalogFile brokenBytes)]
    exact (stops_iff.mp stops_brokenBytes).1
  refine ⟨broken, ?_, rfl, rfl, ?_⟩
  · rw [load_of_file (at?_catalogFile longNumber)]
    exact (stops_iff.mp stops_longNumber).1
  · rw [run_catalogFile]
    exact CommandLine.failure_searchCatalog_iff.mpr ⟨takesJson_brokenBytes, broken, rfl⟩

end CatalogSearch.Catalog
