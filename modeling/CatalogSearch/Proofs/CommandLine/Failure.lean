import CatalogSearch.CommandLine.Run
import CatalogSearch.Proofs.Outcome

/-! # Errors that are reported

What a catalog or a settings file is refused for is reported on the console. A file that is no text, a number that is
too long and a directory in place of a file are no refusals: they stop the program with a failure of their own, and so
a command line ends with such a failure exactly if the reading of a file does.
-/

namespace CatalogSearch

/-- Whether a catalog is refused for this error. -/
def CatalogError.isReported : CatalogError → Bool
  | .isDirectory | .notText | .number _ => false
  | .missing | .malformed .. | .notAList | .invalidBook .. | .refused _ => true

/-- Whether a settings file is refused for this error. -/
def ConfigError.isReported : ConfigError → Bool
  | .isDirectory | .notText | .number _ => false
  | .missing _ | .malformed .. | .invalid .. => true

/-! ## Plugins -/

namespace Registry

variable {files : Files} {path : PathName} {plugin : Option String} {error : CatalogError}

/-- The plugin for JSON loads a file: it is named, or no plugin is and it is sure enough. -/
def TakesJson (files : Files) (path : PathName) (plugin : Option String) : Prop :=
  match plugin.filter (· != "") with
  | some name => name = "json"
  | none => isSure (Catalog.confidence files path) = true

theorem named_standard : standard.named = [("json", Plugin.json)] := rfl

private theorem detect_standard (files : Files) (path : PathName) :
    standard.detect files path =
      if isSure (Catalog.confidence files path) then .ok "json"
      else .error (.unsure "json" (Catalog.confidence files path)) := by
  have alone : scores files path [("json", Plugin.json)] = .ok [("json", Catalog.confidence files path)] := rfl
  rw [detect, named_standard, alone]
  change choose [("json", Catalog.confidence files path)] = _
  rw [choose, List.filter_singleton]
  dsimp only
  cases isSure (Catalog.confidence files path) <;> rfl

private theorem find?_standard (name : String) :
    standard.find? name = if name = "json" then some Plugin.json else none := by
  rw [find?, named_standard, List.lookup_cons]
  by_cases json : name = "json"
  · rw [if_pos json, json]
    rfl
  · rw [if_neg json, beq_false_of_ne json]
    rfl

/-- A file that is refused was read by the plugin for JSON. -/
theorem load_standard_eq_catalog_iff :
    standard.load files path plugin = .error (.catalog error) ↔
      TakesJson files path plugin ∧ Catalog.read files path = .error error := by
  have read : (Plugin.json.load files path).mapError LoadError.catalog = .error (.catalog error) ↔
      Catalog.read files path = .error error := by
    rw [mapError_eq_error_iff]
    constructor
    · rintro ⟨own, failed, ⟨⟩⟩
      exact failed
    · exact fun failed => ⟨error, failed, rfl⟩
  rw [load, TakesJson]
  cases plugin.filter (· != "") with
  | some name =>
    simp only [bind, Except.bind, find?_standard]
    by_cases json : name = "json"
    · rw [if_pos json]
      exact read.trans (iff_and_self.mpr fun _ => json)
    · rw [if_neg json]
      constructor
      · intro failed
        cases failed
      · exact fun both => absurd both.1 json
  | none =>
    rw [detect_standard]
    cases sure : isSure (Catalog.confidence files path) with
    | true => exact read.trans (iff_and_self.mpr fun _ => rfl)
    | false =>
      constructor
      · intro failed
        cases failed
      · exact fun both => absurd both.1 Bool.false_ne_true

end Registry

/-! ## Command lines -/

namespace CommandLine

variable {files : Files} {config : Config} {options : Options} {catalog : String}

private theorem exists_call_of_searchBooks {books : List Book} {failure : Failure}
    (failed : searchBooks config options books = .error failure) : ∃ error, failure = .call error := by
  rw [searchBooks] at failed
  rcases bind_eq_error_iff.mp failed with asked | ⟨request, _, later⟩
  · obtain ⟨error, _, same⟩ := mapError_eq_error_iff.mp asked
    exact ⟨_, same.symm⟩
  · rcases bind_eq_error_iff.mp later with searched | ⟨session, _, done⟩
    · obtain ⟨error, _, same⟩ := mapError_eq_error_iff.mp searched
      exact ⟨_, same.symm⟩
    · cases done

/-- Once a catalog is loaded, it is the search or the report that fails. -/
theorem failure_report_cases {books : List Book} {failure : Failure}
    (failed : (report config options books).failure = some failure) :
    (∃ error, failure = .call error) ∨ ∃ error, failure = .report error := by
  unfold report at failed
  dsimp only at failed
  split at failed
  · next other searched =>
    obtain ⟨error, rfl⟩ := exists_call_of_searchBooks searched
    exact .inl ⟨error, (Option.some.inj failed).symm⟩
  split at failed
  · cases failed
  split at failed
  · cases failed
  · next error _ => exact .inr ⟨error, (Option.some.inj failed).symm⟩

/-- A search ends with the failure of its catalog exactly if the reading of the catalog fails without a refusal. -/
theorem failure_searchCatalog_iff {error : CatalogError} :
    (searchCatalog files config options catalog).failure = some (.load (.catalog error)) ↔
      Registry.TakesJson files (.ofText catalog)
          ((Request.nonempty options.plugin).or config.catalog.defaultPlugin) ∧
        Catalog.read files (.ofText catalog) = .error error ∧ error.isReported = false := by
  rw [← and_assoc, ← Registry.load_standard_eq_catalog_iff, searchCatalog]
  cases Registry.standard.load files (.ofText catalog)
      ((Request.nonempty options.plugin).or config.catalog.defaultPlugin) with
  | ok books =>
    constructor
    · intro failed
      rcases failure_report_cases failed with ⟨_, ⟨⟩⟩ | ⟨_, ⟨⟩⟩
    · exact fun both => nomatch both.1
  | error reason =>
    cases reason with
    | detection own => cases own <;> exact ⟨nofun, fun both => nomatch both.1⟩
    | unknownPlugin name => exact ⟨nofun, fun both => nomatch both.1⟩
    | catalog own =>
      rw [Except.error.injEq, LoadError.catalog.injEq]
      cases own with
      | isDirectory | notText | number =>
        constructor
        · rintro ⟨⟩
          exact ⟨rfl, rfl⟩
        · rintro ⟨rfl, _⟩
          rfl
      | missing | malformed | notAList | invalidBook | refused =>
        constructor
        · exact nofun
        · rintro ⟨rfl, ⟨⟩⟩

/-- With the settings at hand, none are missing. -/
theorem failure_searchCatalog_ne (files : Files) (config : Config) (options : Options) (catalog : String)
    (error : ConfigError) : (searchCatalog files config options catalog).failure ≠ some (.config error) := by
  rw [searchCatalog]
  split
  · intro failed
    rcases failure_report_cases failed with ⟨_, ⟨⟩⟩ | ⟨_, ⟨⟩⟩
  · split <;> exact nofun

/-- A command line ends with the failure of its settings exactly if they are needed and their reading fails without a
refusal. -/
theorem failure_carryOut_iff {error : ConfigError} :
    (carryOut files options).failure = some (.config error) ↔
      options.flags.contains .version = false ∧ settings files options.config = .error error ∧
        error.isReported = false := by
  rw [carryOut]
  cases options.flags.contains .version with
  | true => exact ⟨nofun, fun both => nomatch both.1⟩
  | false =>
    rw [if_neg Bool.false_ne_true]
    cases settings files options.config with
    | ok config =>
      constructor
      · dsimp only
        split
        · exact nofun
        split
        · exact nofun
        · exact fun failed => absurd failed (failure_searchCatalog_ne files config options _ error)
      · exact fun both => nomatch both.2.1
    | error reason =>
      rw [Except.error.injEq]
      cases reason with
      | isDirectory | notText | number =>
        constructor
        · rintro ⟨⟩
          exact ⟨rfl, rfl, rfl⟩
        · rintro ⟨_, rfl, _⟩
          rfl
      | missing | malformed | invalid =>
        constructor
        · exact nofun
        · rintro ⟨_, rfl, ⟨⟩⟩

end CommandLine

end CatalogSearch
