import CatalogSearch.Proofs.CommandLine.Failure
import CatalogSearch.Proofs.Config.Blame
import CatalogSearch.Proofs.Toml.Within

/-! # Settings that are refused

Whatever bytes a settings file has, loading it gives settings or an error. The error is one that names the file as
refused as long as the bytes are UTF-8 and no whole number is too long: none of the document, and none that stands for
a line in the message about a fault, which may quote a key. Of several files each that is read has to be like that.
-/

namespace CatalogSearch

theorem Toml.unified_unifyLineEnds (text : List Char) : Text.Unified text (unifyLineEnds text) := by
  fun_induction unifyLineEnds text with
  | case1 rest ih => exact ih.pair
  | case2 c rest _ ih => exact ih.keep c
  | case3 => exact .nil

namespace Config

open Number (IntegerError TooLongIn)

/-! ## One file -/

section File

variable {files : Files} {path : PathName} {bytes : List UInt8} {name : String} {error : ConfigError}

/-- The errors that no settings file is refused with, and the bytes that they are found in: those of no text, of a text
with a number that is too long, or of one with a fault whose message names such a number as its line. -/
inductive Stops (bytes : List UInt8) : ConfigError → Prop
  | notText (broken : ∀ text, bytes ≠ Text.utf8Bytes text) : Stops bytes .notText
  | number {text : List Char} {error : IntegerError} (isText : bytes = Text.utf8Bytes text)
    (stopped : Toml.parse text = .error (.number error)) (stands : TooLongIn Toml.isUnderscore text error) :
    Stops bytes (.number error)
  | line {text : List Char} {message : String} {error : IntegerError} (isText : bytes = Text.utf8Bytes text)
    (malformed : Toml.parse text = .error (.malformed message)) (named : Toml.namedLine? message = .error error) :
    Stops bytes (.number error)

/-- Bytes are read neither as tables nor refused exactly if they stop the reader. -/
theorem stops_iff (name : String) :
    Stops bytes error ↔ parseBytes name bytes = .error error ∧ error.isReported = false := by
  rw [parseBytes]
  constructor
  · intro stops
    cases stops with
    | notText broken =>
      rw [Text.decodeUtf8?_eq_none_iff.mpr broken]
      exact ⟨rfl, rfl⟩
    | number isText stopped =>
      rw [isText, Text.decodeUtf8?_utf8Bytes]
      dsimp only
      rw [stopped]
      exact ⟨rfl, rfl⟩
    | line isText malformed named =>
      rw [isText, Text.decodeUtf8?_utf8Bytes]
      dsimp only
      rw [malformed]
      dsimp only
      rw [named]
      exact ⟨rfl, rfl⟩
  · rintro ⟨failed, unreported⟩
    split at failed
    · next decoded =>
      cases failed
      exact .notText (Text.decodeUtf8?_eq_none_iff.mp decoded)
    next text decoded =>
      have isText := Text.decodeUtf8?_eq_some_iff.mp decoded
      split at failed
      · cases failed
      · next malformed =>
        split at failed
        · cases failed
          cases unreported
        · next named =>
          cases failed
          exact .line isText malformed named
      · next stopped =>
        cases failed
        exact .number isText stopped
          ((Toml.tooLongIn_of_parse stopped).of_unified rfl (Toml.unified_unifyLineEnds text))

private theorem path?_of_parseBytes (failed : parseBytes name bytes = .error error)
    (reported : error.isReported = true) : error.path? = some name := by
  unfold parseBytes at failed
  split at failed
  · cases failed
    cases reported
  split at failed
  · cases failed
  · split at failed
    · cases failed
      rfl
    · cases failed
      cases reported
  · cases failed
    cases reported

theorem exists_invalid_of_validate {table : Table} {blamed : Option String}
    (failed : validate blamed table = .error error) : ∃ problems, error = .invalid blamed problems := by
  unfold validate at failed
  split at failed
  · cases failed
  · cases failed
    exact ⟨_, rfl⟩

theorem load_of_file (file : files.at? path = some (.file bytes)) :
    load files path = parseBytes path.text bytes >>= validate (some path.text) := by
  rw [load, file]

theorem stops_iff_load (file : files.at? path = some (.file bytes)) :
    Stops bytes error ↔ load files path = .error error ∧ error.isReported = false := by
  rw [stops_iff path.text, load_of_file file, bind_eq_error_iff]
  refine and_congr_left fun unreported => ⟨.inl, ?_⟩
  rintro (failed | ⟨table, _, later⟩)
  · exact failed
  · obtain ⟨problems, rfl⟩ := exists_invalid_of_validate later
    cases unreported

/-- A file is refused under its own path. -/
theorem path?_of_load (file : files.at? path = some (.file bytes)) (failed : load files path = .error error)
    (reported : error.isReported = true) : error.path? = some path.text := by
  rw [load_of_file file] at failed
  rcases bind_eq_error_iff.mp failed with own | ⟨table, _, later⟩
  · exact path?_of_parseBytes own reported
  · obtain ⟨problems, rfl⟩ := exists_invalid_of_validate later
    rfl

end File

/-! ## Several files -/

section Files

variable {files : Files} {start location : Location} {error : ConfigError}

/-- The file is read: it is found, and all that are found before it have tables. -/
def Reached (files : Files) (start location : Location) : Prop :=
  ∃ before after merged, discover files start = before ++ location :: after ∧ mergeFiles files before = .ok merged

/-- One of the files that are read stops the reader. -/
def StopsAt (files : Files) (start : Location) (error : ConfigError) : Prop :=
  ∃ location bytes, Reached files start location ∧ files.fileAt? location = some bytes ∧ Stops bytes error

theorem mergeFiles_discover_eq_error_iff :
    mergeFiles files (discover files start) = .error error ↔ ∃ location bytes, Reached files start location ∧
      files.fileAt? location = some bytes ∧ parseBytes (files.shown location) bytes = .error error := by
  rw [mergeFiles, foldlM_eq_error_iff]
  constructor
  · rintro ⟨before, location, after, merged, found, read, failed⟩
    have member : location ∈ discover files start := found ▸ List.mem_append_right before List.mem_cons_self
    obtain ⟨bytes, file⟩ := Option.isSome_iff_exists.mp (isSome_of_mem_discover member)
    rw [file, Option.getD_some] at failed
    rcases bind_eq_error_iff.mp failed with own | ⟨table, _, done⟩
    · exact ⟨location, bytes, ⟨before, after, merged, found, read⟩, file, own⟩
    · cases done
  · rintro ⟨location, bytes, ⟨before, after, merged, found, read⟩, file, own⟩
    refine ⟨before, location, after, merged, found, read, ?_⟩
    rw [file, Option.getD_some]
    exact bind_eq_error_iff.mpr (.inl own)

theorem stopsAt_iff :
    StopsAt files start error ↔ loadMerged files start = .error error ∧ error.isReported = false := by
  rw [loadMerged, bind_eq_error_iff, mergeFiles_discover_eq_error_iff]
  constructor
  · rintro ⟨location, bytes, reached, file, stops⟩
    obtain ⟨failed, unreported⟩ := (stops_iff (files.shown location)).mp stops
    exact ⟨.inl ⟨location, bytes, reached, file, failed⟩, unreported⟩
  · rintro ⟨⟨location, bytes, reached, file, failed⟩ | ⟨table, _, later⟩, unreported⟩
    · exact ⟨location, bytes, reached, file, (stops_iff (files.shown location)).mpr ⟨failed, unreported⟩⟩
    · obtain ⟨problems, rfl⟩ := exists_invalid_of_validate later
      cases unreported

end Files

/-- Whatever bytes stand in a file, it is loaded or refused under its own path exactly if they do not stop the reader.
The files that are found from a directory are loaded or refused exactly if none of those that are read stops the reader.
A command line ends with a failure of its settings exactly if they are needed and their reading is stopped. -/
theorem settings_reported_iff (files : Files) :
    (∀ (path : PathName) (bytes : List UInt8), files.at? path = some (.file bytes) →
      (((∃ config, load files path = .ok config) ∨ ∃ error, load files path = .error error ∧
          error.isReported = true ∧ error.path? = some path.text) ↔ ∀ error, ¬Stops bytes error) ∧
      ∀ error, Stops bytes error ↔ load files path = .error error ∧ error.isReported = false) ∧
    (∀ start,
      (((∃ config, loadMerged files start = .ok config) ∨
          ∃ error, loadMerged files start = .error error ∧ error.isReported = true) ↔
        ∀ error, ¬StopsAt files start error) ∧
      ∀ error, StopsAt files start error ↔ loadMerged files start = .error error ∧ error.isReported = false) ∧
    ∀ (options : CommandLine.Options) (error : ConfigError),
      (CommandLine.carryOut files options).failure = some (.config error) ↔
        options.flags.contains .version = false ∧ CommandLine.settings files options.config = .error error ∧
          error.isReported = false := by
  refine ⟨fun path bytes file => ⟨ok_or_error_iff fun error => ?_, fun error => stops_iff_load file⟩,
    fun start => ⟨ok_or_error_iff fun error => ?_, fun error => stopsAt_iff⟩,
    fun options error => CommandLine.failure_carryOut_iff⟩
  · rw [stops_iff_load file]
    refine and_congr_right fun failed => ?_
    constructor
    · exact fun unreported both => nomatch unreported.symm.trans both.1
    · intro unlike
      rw [← Bool.not_eq_true]
      exact fun reported => unlike ⟨reported, path?_of_load file failed reported⟩
  · rw [stopsAt_iff, Bool.not_eq_true]

/-! ## Files that are neither loaded nor refused -/

/-- A settings file with some bytes in the working directory. -/
def settingsFile (bytes : List UInt8) : Files where
  nodes := [(nearFile Location.work, .file bytes)]

theorem at?_settingsFile (bytes : List UInt8) :
    (settingsFile bytes).at? (.ofText "bookworm.toml") = some (.file bytes) :=
  rfl

theorem reached_settingsFile (bytes : List UInt8) :
    Reached (settingsFile bytes) Location.work (nearFile Location.work) ∧
      (settingsFile bytes).fileAt? (nearFile Location.work) = some bytes :=
  ⟨⟨[], [], [], rfl, rfl⟩, rfl⟩

/-- A byte that stands in no text. -/
def brokenByte : List UInt8 :=
  [0xFF]

theorem stops_brokenByte : Stops brokenByte .notText := by
  have undecoded : Text.decodeUtf8? brokenByte = none := by
    unfold brokenByte
    decide +kernel
  exact .notText (Text.decodeUtf8?_eq_none_iff.mp undecoded)

/-- A document with a number that is one digit too long. -/
def longNumber : List UInt8 :=
  Text.utf8Bytes (Toml.onesDocument 4301)

theorem stops_longNumber : Stops longNumber (.number (.tooManyDigits 4301)) := by
  have stopped : Toml.parse (Toml.onesDocument 4301) = .error (.number (.tooManyDigits 4301)) :=
    Toml.parse_onesDocument (by decide)
  exact .number rfl stopped ((Toml.tooLongIn_of_parse stopped).of_unified rfl (Toml.unified_unifyLineEnds _))

theorem settings_reported_iff_brokenByte :
    ¬((∃ config, load (settingsFile brokenByte) (.ofText "bookworm.toml") = .ok config) ∨
        ∃ error, load (settingsFile brokenByte) (.ofText "bookworm.toml") = .error error ∧
          error.isReported = true ∧ error.path? = some "bookworm.toml") ∧
      ¬((∃ config, loadMerged (settingsFile brokenByte) Location.work = .ok config) ∨
        ∃ error, loadMerged (settingsFile brokenByte) Location.work = .error error ∧ error.isReported = true) := by
  obtain ⟨alone, together, _⟩ := settings_reported_iff (settingsFile brokenByte)
  obtain ⟨reached, file⟩ := reached_settingsFile brokenByte
  constructor
  · intro judged
    exact (alone _ _ (at?_settingsFile brokenByte)).1.mp judged _ stops_brokenByte
  · intro judged
    exact (together Location.work).1.mp judged _ ⟨_, _, reached, file, stops_brokenByte⟩

/-- Neither a settings file that is no text nor one with a number that is too long is refused. A command line fails with
each of them. -/
theorem settings_not_refused :
    load (settingsFile brokenByte) (.ofText "bookworm.toml") = .error .notText ∧
      loadMerged (settingsFile longNumber) Location.work = .error (.number (.tooManyDigits 4301)) ∧
      ConfigError.isReported .notText = false ∧ ConfigError.isReported (.number (.tooManyDigits 4301)) = false ∧
      (CommandLine.run (settingsFile brokenByte) []).failure = some (.config .notText) ∧
      (CommandLine.run (settingsFile longNumber) []).failure = some (.config (.number (.tooManyDigits 4301))) := by
  have merged {bytes : List UInt8} {error : ConfigError} (stops : Stops bytes error) :
      loadMerged (settingsFile bytes) Location.work = .error error ∧ error.isReported = false :=
    stopsAt_iff.mp ⟨_, bytes, (reached_settingsFile bytes).1, (reached_settingsFile bytes).2, stops⟩
  have fails {bytes : List UInt8} {error : ConfigError} (stops : Stops bytes error) :
      (CommandLine.run (settingsFile bytes) []).failure = some (.config error) := by
    have run : CommandLine.run (settingsFile bytes) [] = CommandLine.carryOut (settingsFile bytes) {} := rfl
    rw [run]
    exact CommandLine.failure_carryOut_iff.mpr ⟨rfl, merged stops⟩
  exact ⟨((stops_iff_load (at?_settingsFile brokenByte)).mp stops_brokenByte).1, (merged stops_longNumber).1, rfl, rfl,
    fails stops_brokenByte, fails stops_longNumber⟩

end Config

end CatalogSearch
