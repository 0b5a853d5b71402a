import CatalogSearch.Config.Basic
import CatalogSearch.Proofs.Config.Merge
import CatalogSearch.Proofs.Validation.Checked

/-! # Settings one by one

Each setting stands under a key of one of three tables and has a default. A document is accepted when these tables
are tables and each setting that it gives passes its own check; all else in it is passed over. Of two documents, one
laid over the other, each setting is therefore taken from the upper one if that gives it.
-/

namespace CatalogSearch

/-- The settings. -/
inductive Setting where
  | defaultPlugin
  | collection
  | pageSize
  | sortBy
  | exactMatch
  | color
  | format
  deriving DecidableEq, Repr

namespace Table

/-- What stands under a name, if anything, is a table. -/
def Opens (table : Table) (name : String) : Prop :=
  ∀ value, table.get? name = some value → ∃ entries : Table, value = .object entries

/-- The table under a name, empty where there is none. -/
def inner (table : Table) (name : String) : Table :=
  match table.get? name with
  | some (.object entries) => entries
  | _ => []

variable {table lower upper : Table} {name : String}

theorem inner_of_object {entries : Table} (found : table.get? name = some (.object entries)) :
    table.inner name = entries := by
  rw [inner, found]

theorem inner_of_none (missing : table.get? name = none) : table.inner name = [] := by
  rw [inner, missing]

theorem Opens.cases (opens : table.Opens name) :
    table.get? name = none ∨ ∃ entries : Table, table.get? name = some (.object entries) := by
  cases found : table.get? name with
  | none => exact .inl rfl
  | some value =>
    obtain ⟨entries, rfl⟩ := opens value found
    exact .inr ⟨entries, rfl⟩

theorem Keyed.inner (keyed : table.Keyed) (name : String) : (table.inner name).Keyed := by
  rw [Table.inner]
  split
  · next found => exact keyed.of_get? found
  · exact keyed_nil

theorem Opens.merge (keyed : upper.Keyed) (below : lower.Opens name) (above : upper.Opens name) :
    (lower.merge upper).Opens name := by
  intro value found
  rw [get?_merge keyed.nodup] at found
  rcases above.cases with missing | ⟨entries, given⟩
  · rw [missing] at found
    exact below value found
  · rw [given] at found
    rcases below.cases with missing | ⟨older, under⟩
    · rw [missing, Option.elim_some, Value.layOnto_none] at found
      exact ⟨entries, (Option.some.inj found).symm⟩
    · rw [under, Option.elim_some, Value.layOnto_object] at found
      exact ⟨older.merge entries, (Option.some.inj found).symm⟩

/-- A table inside a merged table is merged in turn. -/
theorem get?_inner_merge (keyed : upper.Keyed) (below : lower.Opens name) (above : upper.Opens name) (key : String) :
    ((lower.merge upper).inner name).get? key =
      ((upper.inner name).get? key).elim ((lower.inner name).get? key) fun value =>
        some (Value.layOnto ((lower.inner name).get? key) value) := by
  have merged := get?_merge keyed.nodup lower name
  rcases above.cases with missing | ⟨entries, given⟩
  · rw [missing] at merged
    rw [inner_of_none missing, Table.inner, merged]
    rfl
  · have nodup := (keyed.inner name).nodup
    rw [inner_of_object given] at nodup ⊢
    rw [given] at merged
    rcases below.cases with missing | ⟨older, under⟩
    · rw [missing, Option.elim_some, Value.layOnto_none] at merged
      rw [inner_of_object merged, inner_of_none missing]
      cases entries.get? key with
      | none => rfl
      | some value => exact congrArg some (Value.layOnto_none value).symm
    · rw [under, Option.elim_some, Value.layOnto_object] at merged
      rw [inner_of_object merged, inner_of_object under, get?_merge nodup]

variable {α : Type} {key : String} {check : Value → Checked α} {default result : α}

theorem optional_eq_valid_iff :
    table.optional key default check = .valid result ↔
      (table.get? key).elim (.valid default) check = .valid result := by
  rw [optional]
  cases table.get? key with
  | none => exact Iff.rfl
  | some value => exact Checked.under_eq_valid_iff

/-- A table of settings is accepted if it is one and its entries pass; one that is missing counts as empty. -/
theorem optional_checkTable_iff {shape : String} {body : Table → Checked α} (empty : body [] = .valid default) :
    table.optional name default (Value.checkTable shape body) = .valid result ↔
      table.Opens name ∧ body (table.inner name) = .valid result := by
  rw [optional_eq_valid_iff]
  cases found : table.get? name with
  | none =>
    rw [inner_of_none found, empty]
    refine ⟨fun same => ⟨?_, same⟩, And.right⟩
    intro value present
    rw [found] at present
    cases present
  | some value =>
    constructor
    · intro accepted
      cases value with
      | object entries =>
        rw [inner_of_object found]
        refine ⟨?_, accepted⟩
        intro other present
        rw [found] at present
        exact ⟨entries, (Option.some.inj present).symm⟩
      | null | bool | int | float | string | list => cases accepted
    · rintro ⟨opens, accepted⟩
      obtain ⟨entries, rfl⟩ := opens value found
      rwa [inner_of_object found] at accepted

end Table

namespace Setting

/-- The table that a setting stands in. -/
def table : Setting → String
  | defaultPlugin | collection => "catalog"
  | pageSize | sortBy | exactMatch => "search"
  | color | format => "output"

/-- The key of a setting in its table. -/
def key : Setting → String
  | defaultPlugin => "default_plugin"
  | collection => "collection"
  | pageSize => "page_size"
  | sortBy => "sort_by"
  | exactMatch => "exact_match"
  | color => "color"
  | format => "format"

/-- The value of a setting. -/
def value : Setting → Config → Value
  | defaultPlugin, config => .ofText? config.catalog.defaultPlugin
  | collection, config => .string config.catalog.collection
  | pageSize, config => .int config.search.pageSize
  | sortBy, config => .string config.search.sortBy
  | exactMatch, config => .bool config.search.exactMatch
  | color, config => .bool config.output.color
  | format, config => .string config.output.format

/-- The value that a setting gets from what a document says. -/
def check : Setting → Value → Checked Value
  | defaultPlugin, value => Value.ofText? <$> Value.checkOptional Value.checkText value
  | collection, value => .string <$> value.checkText
  | pageSize, value => .int <$> value.checkIntFrom 1
  | sortBy, value => .string <$> value.checkChoice Criteria.sortKeys
  | exactMatch, value => .bool <$> value.checkBool
  | color, value => .bool <$> value.checkBool
  | format, value => .string <$> value.checkChoice Config.formats

/-- What a document says for a setting, if it does. -/
def given? (setting : Setting) (document : Table) : Option Value :=
  (document.inner setting.table).get? setting.key

/-- The value of a setting: what is given, once checked, or else the default. -/
def read (setting : Setting) (given : Option Value) : Checked Value :=
  given.elim (.valid (setting.value {})) setting.check

/-- No setting is a table. -/
theorem ne_object_of_check {setting : Setting} {given result : Value} (passed : setting.check given = .valid result) :
    ∀ entries, given ≠ .object entries := by
  rintro entries rfl
  cases setting <;> cases passed

/-- A statement about all settings, setting by setting. -/
theorem forall_iff {p : Setting → Prop} :
    (∀ setting, p setting) ↔
      (p defaultPlugin ∧ p collection) ∧ (p pageSize ∧ p sortBy ∧ p exactMatch) ∧ p color ∧ p format := by
  constructor
  · intro every
    exact ⟨⟨every _, every _⟩, ⟨every _, every _, every _⟩, every _, every _⟩
  · rintro ⟨⟨plugin, collection⟩, ⟨size, sort, exact⟩, color, format⟩ setting
    cases setting <;> assumption

/-- The values of the settings are all that settings consist of. -/
theorem ext_value {config other : Config} (same : ∀ setting : Setting, setting.value config = setting.value other) :
    config = other := by
  obtain ⟨⟨plugin, collection⟩, ⟨size, sort, exactMatch⟩, color, format⟩ := config
  obtain ⟨⟨plugin', collection'⟩, ⟨size', sort', exactMatch'⟩, color', format'⟩ := other
  obtain ⟨⟨first, second⟩, ⟨third, fourth, fifth⟩, sixth, seventh⟩ := forall_iff.mp same
  cases second
  cases third
  cases fourth
  cases fifth
  cases sixth
  cases seventh
  cases plugin <;> cases plugin' <;> cases first <;> rfl

section Read

variable {α : Type} {wrap : α → Value} {check : Value → Checked α} {default result : α} {given : Option Value}

/-- Reading a setting as a value is reading it in its own type. -/
theorem elim_map_iff (injective : Function.Injective wrap) :
    given.elim (.valid (wrap default)) (fun value => wrap <$> check value) = .valid (wrap result) ↔
      given.elim (.valid default) check = .valid result := by
  cases given with
  | none =>
    constructor
    · intro same
      exact congrArg Checked.valid (injective (Checked.valid.inj same))
    · rintro ⟨⟩
      rfl
  | some value =>
    rw [Option.elim_some, Option.elim_some, Checked.map_eq_valid_iff]
    constructor
    · rintro ⟨found, passed, same⟩
      rwa [← injective same]
    · intro passed
      exact ⟨result, passed, rfl⟩

end Read

private theorem ofText?_injective : Function.Injective Value.ofText? := by
  intro first second same
  cases first <;> cases second <;> cases same <;> rfl

end Setting

namespace Config

open Setting

variable {document : Table}

theorem optional_iff (setting : Setting) {α : Type} {wrap : α → Value} {check : Value → Checked α}
    {default result : α} (injective : Function.Injective wrap)
    (checks : ∀ value, setting.check value = wrap <$> check value) (usual : setting.value {} = wrap default)
    {inner : Table} :
    inner.optional setting.key default check = .valid result ↔
      setting.read (inner.get? setting.key) = .valid (wrap result) := by
  rw [Table.optional_eq_valid_iff, Setting.read, usual, funext checks, elim_map_iff injective]

private theorem catalog_iff {catalog : CatalogSettings} :
    document.optional "catalog" {} checkCatalog = .valid catalog ↔
      document.Opens "catalog" ∧
        defaultPlugin.read (defaultPlugin.given? document) = .valid (.ofText? catalog.defaultPlugin) ∧
        collection.read (collection.given? document) = .valid (.string catalog.collection) := by
  refine (Table.optional_checkTable_iff (by rfl)).trans (and_congr_right fun _ => ?_)
  refine (Checked.map_seq_eq_valid_iff CatalogSettings.mk.inj).trans (and_congr ?_ ?_)
  · exact optional_iff defaultPlugin ofText?_injective (fun _ => rfl) rfl
  · exact optional_iff collection (fun _ _ => Value.string.inj) (fun _ => rfl) rfl

private theorem search_iff {search : SearchSettings} :
    document.optional "search" {} checkSearch = .valid search ↔
      document.Opens "search" ∧
        pageSize.read (pageSize.given? document) = .valid (.int search.pageSize) ∧
        sortBy.read (sortBy.given? document) = .valid (.string search.sortBy) ∧
        exactMatch.read (exactMatch.given? document) = .valid (.bool search.exactMatch) := by
  refine (Table.optional_checkTable_iff (by rfl)).trans (and_congr_right fun _ => ?_)
  refine (Checked.map_seq_seq_eq_valid_iff SearchSettings.mk.inj).trans (and_congr ?_ (and_congr ?_ ?_))
  · exact optional_iff pageSize (fun _ _ => Value.int.inj) (fun _ => rfl) rfl
  · exact optional_iff sortBy (fun _ _ => Value.string.inj) (fun _ => rfl) rfl
  · exact optional_iff exactMatch (fun _ _ => Value.bool.inj) (fun _ => rfl) rfl

private theorem output_iff {output : OutputSettings} :
    document.optional "output" {} checkOutput = .valid output ↔
      document.Opens "output" ∧
        color.read (color.given? document) = .valid (.bool output.color) ∧
        format.read (format.given? document) = .valid (.string output.format) := by
  refine (Table.optional_checkTable_iff (by rfl)).trans (and_congr_right fun _ => ?_)
  refine (Checked.map_seq_eq_valid_iff OutputSettings.mk.inj).trans (and_congr ?_ ?_)
  · exact optional_iff color (fun _ _ => Value.bool.inj) (fun _ => rfl) rfl
  · exact optional_iff format (fun _ _ => Value.string.inj) (fun _ => rfl) rfl

/-- A document is accepted if the tables of settings are tables and each setting in them passes. -/
theorem check_eq_valid_iff {config : Config} :
    check document = .valid config ↔
      (∀ setting : Setting, document.Opens setting.table) ∧
        ∀ setting : Setting, setting.read (setting.given? document) = .valid (setting.value config) := by
  refine (Checked.map_seq_seq_eq_valid_iff Config.mk.inj).trans ?_
  rw [catalog_iff, search_iff, output_iff, Setting.forall_iff, Setting.forall_iff]
  constructor
  · rintro ⟨⟨catalog, first⟩, ⟨search, second⟩, output, third⟩
    exact ⟨⟨⟨catalog, catalog⟩, ⟨search, search, search⟩, output, output⟩, first, second, third⟩
  · rintro ⟨⟨⟨catalog, _⟩, ⟨search, _⟩, output, _⟩, first, second, third⟩
    exact ⟨⟨catalog, first⟩, ⟨search, second⟩, output, third⟩

/-- The settings of two documents: each as the upper one gives it, or else as it is below. -/
def above (upper : Table) (config below : Config) : Config :=
  let source (setting : Setting) : Config := if (setting.given? upper).isSome then config else below
  { catalog := ⟨(source defaultPlugin).catalog.defaultPlugin, (source collection).catalog.collection⟩
    search := ⟨(source pageSize).search.pageSize, (source sortBy).search.sortBy, (source exactMatch).search.exactMatch⟩
    output := ⟨(source color).output.color, (source format).output.format⟩ }

theorem value_above (setting : Setting) (upper : Table) (config below : Config) :
    setting.value (above upper config below) =
      if (setting.given? upper).isSome then setting.value config else setting.value below := by
  rw [← apply_ite]
  cases setting <;> rfl

/-- Documents that are accepted are accepted when one is laid over the other, and each setting is the upper one's if
that gives it. -/
theorem check_merge {lower upper : Table} {config below : Config} (keyed : upper.Keyed)
    (lowerValid : check lower = .valid below) (upperValid : check upper = .valid config) :
    check (lower.merge upper) = .valid (above upper config below) := by
  obtain ⟨lowerOpens, lowerReads⟩ := check_eq_valid_iff.mp lowerValid
  obtain ⟨upperOpens, upperReads⟩ := check_eq_valid_iff.mp upperValid
  refine check_eq_valid_iff.mpr ⟨fun setting => (lowerOpens setting).merge keyed (upperOpens setting), ?_⟩
  intro setting
  have reads := upperReads setting
  have given := Table.get?_inner_merge keyed (lowerOpens setting) (upperOpens setting) setting.key
  rw [value_above, Setting.given?, given]
  change (setting.given? upper).elim _ _ = _ at reads
  rw [Setting.given?] at reads ⊢
  cases found : (upper.inner setting.table).get? setting.key with
  | none => exact lowerReads setting
  | some value =>
    rw [found, Option.elim_some] at reads
    rw [Option.elim_some, Value.layOnto_of_plain _ (ne_object_of_check reads)]
    exact reads

end Config

end CatalogSearch
