import CatalogSearch.Proofs.Config.Layers
import CatalogSearch.Proofs.Config.Paths

/-! # The file that is blamed

The settings of several files are laid over each other and then checked as one. What is reported are the tables of
settings that are no tables, and the settings that do not pass. Each reported key stands in one of the files that were
read. The blame goes to the file that was read last, and rightly so only if that file would not load on its own.
-/

namespace CatalogSearch

theorem Value.IsLeaf.checkTable {value : Value} (leaf : value.IsLeaf) {α : Type} (shape : String)
    (body : Table → Checked α) : Value.checkTable shape body value = .complain (.notTable shape) := by
  unfold Value.checkTable
  split
  · next entries => exact absurd rfl (leaf entries)
  · rfl

namespace Setting

/-- The shape of the table that a setting stands in. -/
def shape : Setting → String
  | defaultPlugin | collection => "CatalogSettings"
  | pageSize | sortBy | exactMatch => "SearchSettings"
  | color | format => "OutputSettings"

/-- A setting passes, or there is one complaint about it. -/
theorem whole_check (setting : Setting) (value : Value) : (setting.check value).Whole := by
  cases setting with
  | defaultPlugin => exact (Value.whole_checkOptional Value.whole_checkText value).map _
  | collection => exact (Value.whole_checkText value).map _
  | pageSize => exact (Value.whole_checkIntFrom 1 value).map _
  | sortBy => exact (Value.whole_checkChoice _ value).map _
  | exactMatch | color => exact (Value.whole_checkBool value).map _
  | format => exact (Value.whole_checkChoice _ value).map _

/-- No table passes as a setting. -/
theorem exists_complaint_of_table (setting : Setting) (entries : Table) :
    ∃ complaint, setting.check (.object entries) = .complain complaint := by
  cases setting <;> exact ⟨_, rfl⟩

/-- The problems that a setting has inside its table. -/
def problemsIn (setting : Setting) (entries : Table) : List Problem :=
  match entries.get? setting.key with
  | some value => ((setting.check value).under (.key setting.key)).problems
  | none => []

theorem mem_problemsIn_iff {setting : Setting} {entries : Table} {problem : Problem} :
    problem ∈ setting.problemsIn entries ↔ ∃ value complaint, entries.get? setting.key = some value ∧
      setting.check value = .complain complaint ∧ problem = ⟨[.key setting.key], complaint⟩ := by
  rw [problemsIn]
  cases entries.get? setting.key with
  | none => exact ⟨nofun, fun ⟨_, _, missing, _⟩ => nomatch missing⟩
  | some value =>
    dsimp only
    rw [Checked.problems_under, List.mem_map]
    constructor
    · rintro ⟨inner, member, rfl⟩
      obtain ⟨complaint, refused, rfl⟩ := (setting.whole_check value).mem_problems_iff.mp member
      exact ⟨value, complaint, rfl, refused, rfl⟩
    · rintro ⟨_, complaint, ⟨⟩, refused, rfl⟩
      exact ⟨⟨[], complaint⟩, (setting.whole_check value).mem_problems_iff.mpr ⟨complaint, refused, rfl⟩, rfl⟩

theorem given?_eq_at? (setting : Setting) (document : Table) :
    setting.given? document = document.at? [setting.table, setting.key] := by
  have single : (document.inner setting.table).at? [setting.key] = setting.given? document := by
    rw [Table.at?_cons, given?]
    exact Option.bind_fun_some _
  rw [← single, Table.at?_inner _ _ (List.cons_ne_nil _ _)]

end Setting

namespace Config

open Setting

/-! ## What is reported -/

section Reports

variable {document entries : Table} {problem : Problem} {α : Type}

theorem problems_optional (setting : Setting) {check : Value → Checked α} {default : α} {wrap : α → Value}
    (checks : ∀ value, setting.check value = wrap <$> check value) :
    (entries.optional setting.key default check).problems = setting.problemsIn entries := by
  rw [Table.optional, problemsIn]
  cases entries.get? setting.key with
  | none => rfl
  | some value =>
    dsimp only
    rw [Checked.problems_under, Checked.problems_under, checks, Checked.problems_map]

/-- What is wrong in a document: a table of settings that is none, or a setting that does not pass. -/
inductive Faulty (document : Table) : Problem → Prop where
  | table (setting : Setting) {value : Value} (found : document.get? setting.table = some value)
    (leaf : value.IsLeaf) : Faulty document ⟨[.key setting.table], .notTable setting.shape⟩
  | setting (setting : Setting) {value : Value} {complaint : Complaint} (given : setting.given? document = some value)
    (refused : setting.check value = .complain complaint) :
    Faulty document ⟨[.key setting.table, .key setting.key], complaint⟩

/-- What is wrong with the table that a setting stands in, and with some settings of it. -/
def FaultyTable (document : Table) (first : Setting) (settings : List Setting) (problem : Problem) : Prop :=
  (∃ value, document.get? first.table = some value ∧ value.IsLeaf ∧
    problem = ⟨[.key first.table], .notTable first.shape⟩) ∨
  ∃ setting ∈ settings, ∃ value complaint, setting.given? document = some value ∧
    setting.check value = .complain complaint ∧ problem = ⟨[.key setting.table, .key setting.key], complaint⟩

/-- The problems of a table of settings are those of the table itself or of the settings that are looked up in it. -/
theorem mem_problems_table_iff (first : Setting) {settings : List Setting} {body : Table → Checked α} {default : α}
    (together : ∀ setting ∈ settings, setting.table = first.table)
    (parts : ∀ entries, (body entries).problems = settings.flatMap (·.problemsIn entries)) :
    problem ∈ (document.optional first.table default (Value.checkTable first.shape body)).problems ↔
      FaultyTable document first settings problem := by
  have given : ∀ setting ∈ settings, setting.given? document = (document.inner first.table).get? setting.key := by
    intro setting member
    rw [given?, together setting member]
  rw [Table.optional, FaultyTable]
  cases found : document.get? first.table with
  | none =>
    have empty := Table.inner_of_none found
    constructor
    · intro reported
      cases reported
    · rintro (⟨_, ⟨⟩, _⟩ | ⟨setting, member, value, _, there, _⟩)
      rw [given setting member, empty] at there
      cases there
  | some value =>
    dsimp only
    rw [Checked.problems_under, List.mem_map]
    rcases value.isLeaf_or with leaf | ⟨entries, rfl⟩
    · have empty := Table.inner_of_leaf found leaf
      rw [leaf.checkTable]
      constructor
      · rintro ⟨inner, member, rfl⟩
        cases List.mem_singleton.mp member
        exact .inl ⟨value, rfl, leaf, rfl⟩
      · rintro (⟨_, _, _, rfl⟩ | ⟨setting, member, _, _, there, _⟩)
        · exact ⟨⟨[], .notTable first.shape⟩, List.mem_singleton.mpr rfl, rfl⟩
        · rw [given setting member, empty] at there
          cases there
    · have inside := Table.inner_of_object found
      rw [Value.checkTable, parts]
      constructor
      · rintro ⟨inner, member, rfl⟩
        obtain ⟨setting, listed, reported⟩ := List.mem_flatMap.mp member
        obtain ⟨value, complaint, there, refused, rfl⟩ := mem_problemsIn_iff.mp reported
        refine .inr ⟨setting, listed, value, complaint, ?_, refused, ?_⟩
        · rw [given setting listed, inside, there]
        · rw [together setting listed]
      · rintro (⟨_, ⟨⟩, leaf, _⟩ | ⟨setting, listed, value, complaint, there, refused, rfl⟩)
        · exact absurd rfl (leaf entries)
        · rw [given setting listed, inside] at there
          refine ⟨⟨[.key setting.key], complaint⟩, List.mem_flatMap.mpr ⟨setting, listed, ?_⟩, ?_⟩
          · exact mem_problemsIn_iff.mpr ⟨value, complaint, there, refused, rfl⟩
          · rw [together setting listed]

private theorem mem_problems_catalog_iff {default : CatalogSettings} :
    problem ∈ (document.optional "catalog" default checkCatalog).problems ↔
      FaultyTable document defaultPlugin [defaultPlugin, collection] problem := by
  refine mem_problems_table_iff defaultPlugin (by decide) fun entries => ?_
  rw [Checked.problems_seq, Checked.problems_map, List.flatMap_cons, List.flatMap_singleton]
  exact congrArg₂ _ (problems_optional defaultPlugin fun _ => rfl) (problems_optional collection fun _ => rfl)

private theorem mem_problems_search_iff {default : SearchSettings} :
    problem ∈ (document.optional "search" default checkSearch).problems ↔
      FaultyTable document pageSize [pageSize, sortBy, exactMatch] problem := by
  refine mem_problems_table_iff pageSize (by decide) fun entries => ?_
  rw [Checked.problems_seq, Checked.problems_seq, Checked.problems_map, List.flatMap_cons, List.flatMap_cons,
    List.flatMap_singleton, ← List.append_assoc]
  exact congrArg₂ _
    (congrArg₂ _ (problems_optional pageSize fun _ => rfl) (problems_optional sortBy fun _ => rfl))
    (problems_optional exactMatch fun _ => rfl)

private theorem mem_problems_output_iff {default : OutputSettings} :
    problem ∈ (document.optional "output" default checkOutput).problems ↔
      FaultyTable document color [color, format] problem := by
  refine mem_problems_table_iff color (by decide) fun entries => ?_
  rw [Checked.problems_seq, Checked.problems_map, List.flatMap_cons, List.flatMap_singleton]
  exact congrArg₂ _ (problems_optional color fun _ => rfl) (problems_optional format fun _ => rfl)

theorem FaultyTable.faulty {first : Setting} {settings : List Setting}
    (faulty : FaultyTable document first settings problem) : Faulty document problem := by
  rcases faulty with ⟨value, found, leaf, rfl⟩ | ⟨setting, _, value, complaint, given, refused, rfl⟩
  · exact .table first found leaf
  · exact .setting setting given refused

/-- What is reported is what is wrong. -/
theorem mem_problems_check_iff : problem ∈ (check document).problems ↔ Faulty document problem := by
  rw [check, Checked.problems_seq, Checked.problems_seq, Checked.problems_map, List.mem_append, List.mem_append,
    mem_problems_catalog_iff, mem_problems_search_iff, mem_problems_output_iff]
  constructor
  · rintro ((catalog | search) | output)
    · exact catalog.faulty
    · exact search.faulty
    · exact output.faulty
  · intro faulty
    cases faulty with
    | table setting found leaf =>
      cases setting with
      | defaultPlugin | collection => exact .inl (.inl (.inl ⟨_, found, leaf, rfl⟩))
      | pageSize | sortBy | exactMatch => exact .inl (.inr (.inl ⟨_, found, leaf, rfl⟩))
      | color | format => exact .inr (.inl ⟨_, found, leaf, rfl⟩)
    | setting setting given refused =>
      cases setting with
      | defaultPlugin | collection => exact .inl (.inl (.inr ⟨_, by decide, _, _, given, refused, rfl⟩))
      | pageSize | sortBy | exactMatch => exact .inl (.inr (.inr ⟨_, by decide, _, _, given, refused, rfl⟩))
      | color | format => exact .inr (.inr ⟨_, by decide, _, _, given, refused, rfl⟩)

/-- A document that is not accepted has something reported. -/
theorem sincere_check (document : Table) : (check document).Sincere := by
  have catalog (value : Value) : (checkCatalog value).Sincere := by
    refine Value.sincere_checkTable (fun entries => ?_) _ value
    refine (Checked.Sincere.map (Table.sincere_optional fun value => ?_) _).seq
      (Table.sincere_optional fun value => (Value.whole_checkText value).sincere)
    exact (Value.whole_checkOptional Value.whole_checkText value).sincere
  have search (value : Value) : (checkSearch value).Sincere := by
    refine Value.sincere_checkTable (fun entries => ?_) _ value
    refine ((Checked.Sincere.map (Table.sincere_optional fun value => ?_) _).seq
      (Table.sincere_optional fun value => (Value.whole_checkChoice _ value).sincere)).seq
      (Table.sincere_optional fun value => (Value.whole_checkBool value).sincere)
    exact (Value.whole_checkIntFrom 1 value).sincere
  have output (value : Value) : (checkOutput value).Sincere := by
    refine Value.sincere_checkTable (fun entries => ?_) _ value
    exact (Checked.Sincere.map (Table.sincere_optional fun value => (Value.whole_checkBool value).sincere) _).seq
      (Table.sincere_optional fun value => (Value.whole_checkChoice _ value).sincere)
  exact (((Table.sincere_optional catalog).map _).seq (Table.sincere_optional search)).seq
    (Table.sincere_optional output)

private theorem exists_faulty (refused : ∀ config, check document ≠ .valid config) :
    ∃ problem, Faulty document problem := by
  have sincere := sincere_check document
  cases outcome : check document with
  | valid config => exact absurd outcome (refused config)
  | invalid problems =>
    rw [outcome] at sincere
    cases problems with
    | nil => exact absurd rfl sincere
    | cons problem others =>
      refine ⟨problem, mem_problems_check_iff.mp ?_⟩
      rw [outcome]
      exact List.mem_cons_self

/-- The document has something under the key that a problem is about. -/
def Binds (document : Table) (problem : Problem) : Prop :=
  ∃ path : List String, problem.place = path.map .key ∧ (document.at? path).isSome

theorem binds_iff (path : List String) (complaint : Complaint) :
    Binds document ⟨path.map .key, complaint⟩ ↔ (document.at? path).isSome := by
  constructor
  · rintro ⟨other, same, bound⟩
    rwa [List.map_injective_iff.mpr (fun _ _ => Step.key.inj) same]
  · exact fun bound => ⟨path, rfl, bound⟩

theorem at?_table (document : Table) (setting : Setting) :
    document.at? [setting.table] = document.get? setting.table :=
  Option.bind_fun_some _

theorem Faulty.binds (faulty : Faulty document problem) : Binds document problem := by
  cases faulty with
  | table setting found =>
    refine (binds_iff [setting.table] _).mpr ?_
    rw [at?_table, found]
    rfl
  | setting setting given =>
    refine (binds_iff [setting.table, setting.key] _).mpr ?_
    rw [← given?_eq_at?, given]
    rfl

private theorem Faulty.place_ne_nil (faulty : Faulty document problem) : problem.place ≠ [] := by
  cases faulty with
  | table => exact List.cons_ne_nil _ _
  | setting => exact List.cons_ne_nil _ _

end Reports

/-! ## Problems of merged documents -/

section Merged

variable {lower upper : Table} {problem : Problem} {config : Config}

/-- What a merged document has stands in one of the two. -/
theorem Binds.of_merge (keyed : upper.Keyed) (bound : Binds (lower.merge upper) problem) :
    Binds upper problem ∨ Binds lower problem := by
  obtain ⟨path, place, found⟩ := bound
  cases above : upper.at? path with
  | some value =>
    left
    exact ⟨path, place, by rw [above]; rfl⟩
  | none =>
    right
    by_cases blocked : upper.Blocks path
    · rw [Table.at?_merge_of_blocks keyed lower blocked] at found
      cases found
    · rw [Table.at?_merge_of_silent keyed lower above blocked] at found
      exact ⟨path, place, found⟩

/-- What is wrong in a merged document is not the upper one's if that would be accepted alone. -/
theorem Faulty.not_binds (keyed : upper.Keyed) (faulty : Faulty (lower.merge upper) problem)
    (accepted : check upper = .valid config) : ¬Binds upper problem := by
  obtain ⟨opens, reads⟩ := check_eq_valid_iff.mp accepted
  intro bound
  cases faulty with
  | @table setting value found leaf =>
    obtain ⟨given, above⟩ := Option.isSome_iff_exists.mp ((binds_iff [setting.table] _).mp bound)
    rw [at?_table] at above
    obtain ⟨entries, rfl⟩ := opens setting given above
    have merged := Table.get?_merge_of_table keyed lower above
    exact leaf _ (Option.some.inj (found.symm.trans merged))
  | @setting setting value complaint given refused =>
    obtain ⟨own, above⟩ := Option.isSome_iff_exists.mp ((binds_iff [setting.table, setting.key] _).mp bound)
    have passed := reads setting
    rw [given?_eq_at?, above, Setting.read, Option.elim_some] at passed
    rw [given?_eq_at?, Table.at?_merge_of_leaf keyed lower above (ne_object_of_check passed)] at given
    rw [← Option.some.inj given, passed] at refused
    cases refused

/-- What is wrong in the upper document is wrong in the merged one as well. -/
theorem Faulty.exists_merge (keyed : upper.Keyed) (lower : Table) (faulty : Faulty upper problem) :
    ∃ reported, Faulty (lower.merge upper) reported ∧ Binds upper reported := by
  have bound := faulty.binds
  cases faulty with
  | table setting found leaf =>
    exact ⟨_, .table setting (Table.get?_merge_of_leaf keyed lower found leaf) leaf, bound⟩
  | @setting setting value complaint given refused =>
    rw [given?_eq_at?] at given
    have stands : (upper.at? [setting.table, setting.key]).isSome := by
      rw [given]
      rfl
    rcases value.isLeaf_or with leaf | ⟨entries, rfl⟩
    · refine ⟨_, .setting setting ?_ refused, bound⟩
      rw [given?_eq_at?, Table.at?_merge_of_leaf keyed lower given leaf]
    · -- in place of the table there is one that also has what lies below, and no table passes
      have merged := Table.at?_merge_of_table keyed lower given
      rw [← given?_eq_at?] at merged
      obtain ⟨other, refusedToo⟩ := setting.exists_complaint_of_table _
      exact ⟨_, .setting setting merged refusedToo, (binds_iff [setting.table, setting.key] _).mpr stands⟩

end Merged

/-! ## Files that are read -/

section Layers

variable {files : Files} {start location : Location} {front locations : List Location} {merged : Table}
  {problem : Problem} {problems : List Problem} {path : Option String}

theorem isSome_of_mem_discover (member : location ∈ discover files start) : (files.fileAt? location).isSome := by
  have kept : location ∈ [userFile, start ++ ["bookworm.toml"]].filter
      fun location => (files.fileAt? location).isSome := by
    rw [discover] at member
    split at member
    · next user near both =>
      rw [both]
      split at member
      · exact List.mem_cons.mpr (.inl (List.mem_singleton.mp member))
      · exact member
    · exact member
  exact (List.mem_filter.mp kept).2

theorem mergeFiles_concat (files : Files) (front : List Location) (location : Location) :
    mergeFiles files (front ++ [location]) = mergeFiles files front >>= fun lower =>
      parseBytes (files.shown location) ((files.fileAt? location).getD []) >>= fun table =>
        .ok (lower.merge table) := by
  rw [mergeFiles, List.foldlM_append]
  refine congrArg _ (funext fun lower => ?_)
  rw [List.foldlM_cons, bind_assoc]
  rfl

/-- The file that is read last is laid over all others. -/
theorem exists_of_mergeFiles_concat (isFile : (files.fileAt? location).isSome)
    (done : mergeFiles files (front ++ [location]) = .ok merged) :
    ∃ lower table, mergeFiles files front = .ok lower ∧ tableAt? files location = some table ∧
      table.Keyed ∧ merged = lower.merge table := by
  obtain ⟨bytes, file⟩ := Option.isSome_iff_exists.mp isFile
  rw [mergeFiles_concat, file, Option.getD_some] at done
  obtain ⟨lower, before, later⟩ := bind_eq_ok_iff.mp done
  obtain ⟨table, parsed, same⟩ := bind_eq_ok_iff.mp later
  exact ⟨lower, table, before, tableAt?_eq_some_iff.mpr ⟨bytes, file, parsed⟩, keyed_parseBytes parsed,
    (Except.ok.inj same).symm⟩

/-- What several files come to has nothing that does not stand in one of them. -/
theorem exists_binds_of_mergeFiles (areFiles : ∀ location ∈ locations, (files.fileAt? location).isSome)
    (done : mergeFiles files locations = .ok merged) (inside : problem.place ≠ []) (bound : Binds merged problem) :
    ∃ location ∈ locations, ∃ table, tableAt? files location = some table ∧ Binds table problem := by
  induction locations using List.reverseRecOn generalizing merged with
  | nil =>
    cases done
    obtain ⟨path, place, found⟩ := bound
    cases path with
    | nil => exact absurd place inside
    | cons => cases found
  | append_singleton front location ih =>
    obtain ⟨lower, table, before, found, keyed, rfl⟩ :=
      exists_of_mergeFiles_concat (areFiles location (List.mem_append_right _ (List.mem_singleton.mpr rfl))) done
    rcases bound.of_merge keyed with above | below
    · exact ⟨location, List.mem_append_right _ (List.mem_singleton.mpr rfl), table, found, above⟩
    · obtain ⟨other, member, own⟩ :=
        ih (fun other member => areFiles other (List.mem_append_left _ member)) before below
      exact ⟨other, List.mem_append_left _ member, own⟩

private theorem parseBytes_ne_invalid (name : String) (bytes : List UInt8) :
    parseBytes name bytes ≠ .error (.invalid path problems) := by
  unfold parseBytes
  split
  · exact nofun
  split
  · exact nofun
  · split <;> exact nofun
  · exact nofun

private theorem mergeFiles_ne_invalid (files : Files) (locations : List Location) :
    mergeFiles files locations ≠ .error (.invalid path problems) := by
  induction locations using List.reverseRecOn with
  | nil => exact nofun
  | append_singleton front location ih =>
    intro failed
    rw [mergeFiles_concat] at failed
    rcases bind_eq_error_iff.mp failed with before | ⟨lower, _, later⟩
    · exact ih before
    · rcases bind_eq_error_iff.mp later with own | ⟨table, _, ⟨⟩⟩
      exact parseBytes_ne_invalid _ _ own

/-- Values are refused only once all files are read, on behalf of the last one. -/
theorem loadMerged_eq_invalid (failed : loadMerged files start = .error (.invalid path problems)) :
    ∃ merged, mergeFiles files (discover files start) = .ok merged ∧ check merged = .invalid problems ∧
      path = (discover files start).getLast?.map files.shown := by
  rw [loadMerged] at failed
  rcases bind_eq_error_iff.mp failed with before | ⟨merged, done, refused⟩
  · exact absurd before (mergeFiles_ne_invalid files _)
  · rw [validate] at refused
    cases outcome : check merged with
    | valid config =>
      rw [outcome] at refused
      cases refused
    | invalid reported =>
      rw [outcome] at refused
      cases refused
      exact ⟨merged, done, outcome, rfl⟩

/-- If values are refused, each reported key stands in a file that was found. The blame goes to the last file, which
has one of these keys exactly if it does not load on its own. -/
theorem blamed_file_iff (failed : loadMerged files start = .error (.invalid path problems)) :
    ∃ location table, (discover files start).getLast? = some location ∧ path = some (files.shown location) ∧
      tableAt? files location = some table ∧
      (∀ problem ∈ problems, ∃ other ∈ discover files start, ∃ there,
        tableAt? files other = some there ∧ Binds there problem) ∧
      ((∃ problem ∈ problems, Binds table problem) ↔ ∀ config, load files ⟨"/", location⟩ ≠ .ok config) := by
  obtain ⟨merged, done, outcome, rfl⟩ := loadMerged_eq_invalid failed
  have faulty_iff (problem : Problem) : problem ∈ problems ↔ Faulty merged problem := by
    rw [← mem_problems_check_iff, outcome]
    rfl
  have areFiles : ∀ location ∈ discover files start, (files.fileAt? location).isSome :=
    fun location member => isSome_of_mem_discover member
  have stands : ∀ problem ∈ problems, ∃ other ∈ discover files start, ∃ there,
      tableAt? files other = some there ∧ Binds there problem := by
    intro problem member
    have faulty := (faulty_iff problem).mp member
    exact exists_binds_of_mergeFiles areFiles done faulty.place_ne_nil faulty.binds
  rcases List.eq_nil_or_concat (discover files start) with none | ⟨front, location, found⟩
  · -- without files there are the defaults, which pass
    rw [none] at done
    cases done
    cases outcome
  · rw [List.concat_eq_append] at found
    rw [found] at done areFiles ⊢
    obtain ⟨lower, table, before, parsed, keyed, rfl⟩ :=
      exists_of_mergeFiles_concat (areFiles location (List.mem_append_right _ (List.mem_singleton.mpr rfl))) done
    refine ⟨location, table, List.getLast?_concat, ?_, parsed, found ▸ stands, ?_⟩
    · rw [List.getLast?_concat, Option.map_some]
    · constructor
      · rintro ⟨problem, member, bound⟩ config loaded
        obtain ⟨other, parsedToo, accepted⟩ := load_eq_ok_iff.mp loaded
        cases parsed.symm.trans parsedToo
        exact ((faulty_iff problem).mp member).not_binds keyed accepted bound
      · intro refused
        have alone : ∀ config, check table ≠ .valid config :=
          fun config accepted => refused config (load_eq_ok_iff.mpr ⟨table, parsed, accepted⟩)
        obtain ⟨own, faulty⟩ := exists_faulty alone
        obtain ⟨problem, reported, bound⟩ := faulty.exists_merge keyed lower
        exact ⟨problem, (faulty_iff problem).mpr reported, bound⟩

end Layers

/-! ## A user's file and a near one -/

theorem discover_twoFiles (user near : String) :
    discover (twoFiles user near) Location.work = [userFile, nearFile Location.work] := by
  rfl

/-- The near file is laid over the user's, and gets the blame. -/
theorem loadMerged_twoFiles {user near : String} {userTable nearTable : Table}
    (userParsed : Toml.parse user.toList = .ok userTable) (nearParsed : Toml.parse near.toList = .ok nearTable) :
    loadMerged (twoFiles user near) Location.work =
      validate (some "bookworm.toml") ((Table.merge [] userTable).merge nearTable) := by
  obtain ⟨userRead, nearRead⟩ := tableAt?_twoFiles userParsed nearParsed
  obtain ⟨userBytes, userFileIs, userDone⟩ := tableAt?_eq_some_iff.mp userRead
  obtain ⟨nearBytes, nearFileIs, nearDone⟩ := tableAt?_eq_some_iff.mp nearRead
  have done : mergeFiles (twoFiles user near) [userFile, nearFile Location.work] =
      .ok ((Table.merge [] userTable).merge nearTable) := by
    change mergeFiles _ ([] ++ [userFile] ++ [nearFile Location.work]) = _
    rw [mergeFiles_concat, mergeFiles_concat, userFileIs, nearFileIs, Option.getD_some, Option.getD_some, userDone,
      nearDone]
    rfl
  rw [loadMerged, discover_twoFiles, done]
  rfl

/-- A page size that is too small. -/
def smallPage : Problem :=
  ⟨[.key "search", .key "page_size"], .below 1⟩

/-- Two files with different faults in one table of settings. -/
def bothFaulty : Files :=
  twoFiles "search=5" "[search]\npage_size=0"

theorem blamed_file_iff_bothFaulty :
    loadMerged bothFaulty Location.work = .error (.invalid (some "bookworm.toml") [smallPage]) ∧
      ∃ table, tableAt? bothFaulty (nearFile Location.work) = some table ∧ Binds table smallPage ∧
        ∀ config, load bothFaulty ⟨"/", nearFile Location.work⟩ ≠ .ok config := by
  have userParsed : Toml.parse "search=5".toList = .ok [("search", .int 5)] := by decide +kernel
  have nearParsed : Toml.parse "[search]\npage_size=0".toList = .ok [("search", .object [("page_size", .int 0)])] := by
    decide +kernel
  have failed : loadMerged bothFaulty Location.work = .error (.invalid (some "bookworm.toml") [smallPage]) := by
    rw [bothFaulty, loadMerged_twoFiles userParsed nearParsed]
    rfl
  obtain ⟨location, table, last, _, parsed, _, rightly⟩ := blamed_file_iff failed
  cases last
  cases (tableAt?_twoFiles userParsed nearParsed).2.symm.trans parsed
  have bound : Binds [("search", .object [("page_size", .int 0)])] smallPage :=
    (binds_iff ["search", "page_size"] _).mpr rfl
  exact ⟨failed, _, parsed, bound, rightly.mp ⟨smallPage, List.mem_singleton.mpr rfl, bound⟩⟩

/-- A user's file with a page size that is too small, and a near one that is in order. -/
def innocentFiles : Files :=
  twoFiles "[search]\npage_size=0" "[output]\ncolor=false"

/-- The near file is blamed for a setting that only the user's file has. -/
theorem innocent_file_blamed :
    loadMerged innocentFiles Location.work = .error (.invalid (some "bookworm.toml") [smallPage]) ∧
      (∃ table, tableAt? innocentFiles userFile = some table ∧ Binds table smallPage) ∧
      ¬∃ location ∈ discover innocentFiles Location.work, innocentFiles.shown location = "bookworm.toml" ∧
        ∃ table, tableAt? innocentFiles location = some table ∧ Binds table smallPage := by
  have userParsed : Toml.parse "[search]\npage_size=0".toList = .ok [("search", .object [("page_size", .int 0)])] := by
    decide +kernel
  have nearParsed : Toml.parse "[output]\ncolor=false".toList = .ok [("output", .object [("color", .bool false)])] := by
    decide +kernel
  obtain ⟨userRead, nearRead⟩ := tableAt?_twoFiles userParsed nearParsed
  refine ⟨?_, ⟨_, userRead, (binds_iff ["search", "page_size"] _).mpr rfl⟩, ?_⟩
  · rw [innocentFiles, loadMerged_twoFiles userParsed nearParsed]
    rfl
  · rintro ⟨location, member, shown, table, read, bound⟩
    rw [innocentFiles, discover_twoFiles] at member
    rcases List.mem_pair.mp member with rfl | rfl
    · exact absurd shown (by decide)
    · cases nearRead.symm.trans read
      cases (binds_iff ["search", "page_size"] _).mp bound

end Config

end CatalogSearch
