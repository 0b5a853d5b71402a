import CatalogSearch.Proofs.Config.Reported
import CatalogSearch.Proofs.Toml.Line

/-! # The line of a fault in a settings file

A settings file with a fault is refused under the first line that the message about the fault names. That is the line
of the fault as long as the description in front of it names no other line, which it does if it quotes a key that has
one in it.
-/

namespace CatalogSearch

/-- The error that a file is refused with because of an error of its document. -/
def ConfigError.ofToml (path : String) : Toml.TomlError → ConfigError
  | .malformed message => match Toml.namedLine? message with
    | .ok line => .malformed path line message
    | .error error => .number error
  | .number error => .number error

theorem ConfigError.line?_ofToml_malformed_iff {path message : String} {line : Nat} :
    (ConfigError.ofToml path (.malformed message)).line? = some line ↔ Toml.namedLine? message = .ok (some line) := by
  rw [ConfigError.ofToml]
  split
  · next named =>
    rw [named]
    exact ⟨congrArg _, Except.ok.inj⟩
  · next named =>
    rw [named]
    exact ⟨nofun, nofun⟩

namespace Config

theorem parseBytes_of_error {name : String} {text : List Char} {error : Toml.TomlError}
    (refused : Toml.parse text = .error error) :
    parseBytes name (Text.utf8Bytes text) = .error (.ofToml name error) := by
  rw [parseBytes, Text.decodeUtf8?_utf8Bytes]
  dsimp only
  rw [refused]
  cases error with
  | malformed message =>
    dsimp only [ConfigError.ofToml]
    cases Toml.namedLine? message <;> rfl
  | number error => rfl

/-- Whatever the description of a fault says, the file is refused under the line of the place behind it exactly if that
line is found there. A single file is refused with this error, and so are several files with that of the one that is
read last; their messages end with a place as long as there is one. -/
theorem line_reported_iff (name description : String) (line column : Nat) :
    ((ConfigError.ofToml name (.malformed (Toml.placed description line column))).line? = some line ↔
      Toml.FindsLine description.toList line) ∧
    (∀ (files : Files) (path : PathName) (text : List Char) error,
      files.at? path = some (.file (Text.utf8Bytes text)) → Toml.parse text = .error error →
        load files path = .error (.ofToml path.text error)) ∧
    (∀ files start location (text : List Char) error, Reached files start location →
      files.fileAt? location = some (Text.utf8Bytes text) → Toml.parse text = .error error →
        loadMerged files start = .error (.ofToml (files.shown location) error)) ∧
    ∀ text message, Toml.parse text = .error (.malformed message) →
      (∃ description, message = description ++ " (at end of document)") ∨
        ∃ description line column, message = Toml.placed description line column := by
  refine ⟨?_, ?_, ?_, fun _ _ => Toml.placed_of_parse⟩
  · rw [ConfigError.line?_ofToml_malformed_iff, Toml.namedLine?_placed_iff]
  · intro files path text error file refused
    rw [load_of_file file, parseBytes_of_error refused]
    rfl
  · intro files start location text error reached file refused
    rw [loadMerged, bind_eq_error_iff, mergeFiles_discover_eq_error_iff]
    exact .inl ⟨location, _, reached, file, parseBytes_of_error refused⟩

/-! ## A key that names a line -/

/-- A document that opens a table twice, under a key that names a line. -/
def openedTwice : String :=
  "[\"line 7\"]\n[\"line 7\"]\n"

private theorem faultMessage_openedTwice :
    Toml.faultMessage openedTwice.toList (.declaredTwice ["line 7"]) "]\n".toList =
      Toml.placed "Cannot declare ('line 7',) twice" 2 10 := by
  have place : Toml.place openedTwice.toList "]\n".toList = "line 2, column 10" := rfl
  have shown : Toml.Path.shown ["line 7"] = "('line 7',)" := rfl
  have description : (Toml.Fault.declaredTwice ["line 7"]).description =
      "Cannot declare " ++ Toml.Path.shown ["line 7"] ++ " twice" := rfl
  rw [Toml.faultMessage, place, description, shown]
  decide

theorem parse_openedTwice :
    Toml.parse openedTwice.toList = .error (.malformed (Toml.placed "Cannot declare ('line 7',) twice" 2 10)) := by
  have oneCharacter : '\r' ∉ openedTwice.toList := by simp [openedTwice]
  have stopped : Toml.readLines (openedTwice.toList.length + 1) {} openedTwice.toList =
      .error (.fault (.declaredTwice ["line 7"]) "]\n".toList) :=
    rfl
  rw [Toml.parse, Toml.unifyLineEnds_of_not_mem oneCharacter, stopped]
  exact congrArg (Except.error ∘ Toml.TomlError.malformed) faultMessage_openedTwice

/-- The fault is in the second line, and the file is refused under the seventh one, which its key names. -/
theorem key_names_another_line :
    Toml.parse openedTwice.toList = .error (.malformed (Toml.placed "Cannot declare ('line 7',) twice" 2 10)) ∧
      load (settingsFile (Text.utf8Bytes openedTwice.toList)) (.ofText "bookworm.toml") =
        .error (.malformed "bookworm.toml" (some 7) (Toml.placed "Cannot declare ('line 7',) twice" 2 10)) ∧
      ¬∀ path description line column,
        (ConfigError.ofToml path (.malformed (Toml.placed description line column))).line? = some line := by
  have named : Toml.namedLine? (Toml.placed "Cannot declare ('line 7',) twice" 2 10) = .ok (some 7) :=
    rfl
  refine ⟨parse_openedTwice, ?_, fun law => ?_⟩
  · rw [load_of_file (at?_settingsFile _), parseBytes_of_error parse_openedTwice, ConfigError.ofToml, named]
    rfl
  · have second := law "bookworm.toml" "Cannot declare ('line 7',) twice" 2 10
    cases named.symm.trans (ConfigError.line?_ofToml_malformed_iff.mp second)

end Config

end CatalogSearch
