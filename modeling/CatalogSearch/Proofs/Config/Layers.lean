import CatalogSearch.Config.Load
import CatalogSearch.Proofs.Config.Setting
import CatalogSearch.Proofs.Text.Utf8
import CatalogSearch.Proofs.Toml.Keyed

/-! # Settings from two files

The user's file and the one in a directory are read, laid over each other and checked as one. If each of them loads
alone, so do both together, and every setting comes from the nearest file that gives it. Nothing else that stands in
the files counts.
-/

namespace CatalogSearch

namespace Files

/-- Where something lies, following leads there as well. -/
theorem follow_of_follow? {files : Files} {fuel : Nat} {location found : Location} {parts : List String}
    (reached : files.follow? fuel location parts = some found) : files.follow fuel location parts = found := by
  induction fuel generalizing location parts with
  | zero => cases reached
  | succ fuel ih =>
    cases parts with
    | nil => exact Option.some.inj reached
    | cons part rest =>
      rw [follow?] at reached
      rw [follow]
      split at reached
      · next up =>
        rw [if_pos up]
        exact ih reached
      next down =>
        rw [if_neg down]
        split at reached
        · next target there =>
          rw [there]
          exact ih reached
        · next there =>
          rw [there]
          exact ih reached
        · next bytes there =>
          rw [there]
          split at reached
          · next last =>
            rw [List.isEmpty_iff.mp last]
            cases fuel <;> exact Option.some.inj reached
          · cases reached
        · cases reached

/-- Two names of one file have the same bytes. -/
theorem fileAt?_eq_of_follow {files : Files} {first second : Location} (firstIs : (files.fileAt? first).isSome)
    (secondIs : (files.fileAt? second).isSome)
    (same : files.follow reach [] first = files.follow reach [] second) :
    files.fileAt? first = files.fileAt? second := by
  have reached : ∀ {location : Location}, (files.fileAt? location).isSome →
      files.follow? reach [] location = some (files.follow reach [] location) := by
    intro location isFile
    cases found : files.follow? reach [] location with
    | none =>
      rw [fileAt?, found] at isFile
      cases isFile
    | some target => rw [follow_of_follow? found]
  rw [fileAt?, fileAt?, reached firstIs, reached secondIs, same]

end Files

namespace Config

/-- The settings file of a directory. -/
def nearFile (start : Location) : Location :=
  start ++ ["bookworm.toml"]

/-- The tables of the settings file at a location, if there is one and it can be read. -/
def tableAt? (files : Files) (location : Location) : Option Table :=
  (files.fileAt? location).bind fun bytes => (parseBytes (files.shown location) bytes).toOption

variable {files : Files} {start location : Location} {table : Table} {config : Config}

theorem keyed_parseBytes {path : String} {bytes : List UInt8} (parsed : parseBytes path bytes = .ok table) :
    table.Keyed := by
  unfold parseBytes at parsed
  split at parsed
  · cases parsed
  · split at parsed
    · next read =>
      cases parsed
      exact Toml.keyed_parse read
    · split at parsed <;> cases parsed
    · cases parsed

/-- Whether a document can be read does not depend on its name. -/
theorem parseBytes_of_parseBytes {path : String} {bytes : List UInt8} (other : String)
    (parsed : parseBytes path bytes = .ok table) : parseBytes other bytes = .ok table := by
  unfold parseBytes at parsed ⊢
  split at parsed
  · cases parsed
  · split at parsed
    · exact parsed
    · split at parsed <;> cases parsed
    · cases parsed

theorem tableAt?_eq_some_iff :
    tableAt? files location = some table ↔
      ∃ bytes, files.fileAt? location = some bytes ∧ parseBytes (files.shown location) bytes = .ok table := by
  rw [tableAt?, Option.bind_eq_some_iff]
  refine exists_congr fun bytes => and_congr_right fun _ => ?_
  cases parseBytes (files.shown location) bytes with
  | ok found => exact ⟨fun same => congrArg _ (Option.some.inj same), fun same => congrArg _ (Except.ok.inj same)⟩
  | error => exact ⟨nofun, nofun⟩

theorem validate_eq_ok_iff {path : Option String} : validate path table = .ok config ↔ check table = .valid config := by
  rw [validate]
  cases check table with
  | valid found => exact ⟨fun same => congrArg _ (Except.ok.inj same), fun same => congrArg _ (Checked.valid.inj same)⟩
  | invalid => exact ⟨nofun, nofun⟩

/-- A settings file loads on its own if its tables can be read and pass. -/
theorem load_eq_ok_iff :
    load files ⟨"/", location⟩ = .ok config ↔
      ∃ table, tableAt? files location = some table ∧ check table = .valid config := by
  have lookup : files.at? ⟨"/", location⟩ = (files.follow? Files.reach [] location).bind files.node? := rfl
  rw [load, lookup]
  simp only [tableAt?_eq_some_iff, Files.fileAt?]
  cases (files.follow? Files.reach [] location).bind files.node? with
  | none => exact ⟨nofun, fun ⟨_, ⟨_, missing, _⟩, _⟩ => nomatch missing⟩
  | some node =>
    cases node with
    | file bytes =>
      constructor
      · intro loaded
        obtain ⟨table, parsed, valid⟩ := bind_eq_ok_iff.mp loaded
        exact ⟨table, ⟨bytes, rfl, parseBytes_of_parseBytes _ parsed⟩, validate_eq_ok_iff.mp valid⟩
      · rintro ⟨table, ⟨_, ⟨⟩, parsed⟩, valid⟩
        exact bind_eq_ok_iff.mpr ⟨table, parseBytes_of_parseBytes _ parsed, validate_eq_ok_iff.mpr valid⟩
    | directory | link => exact ⟨nofun, fun ⟨_, ⟨_, missing, _⟩, _⟩ => nomatch missing⟩

/-- Documents that are accepted one by one are accepted together, each laid over those before. -/
theorem mergeFiles_eq_ok {layers : List (Location × Table × Config)}
    (each : ∀ layer ∈ layers, tableAt? files layer.1 = some layer.2.1 ∧ check layer.2.1 = .valid layer.2.2) :
    ∃ merged, mergeFiles files (layers.map (·.1)) = .ok merged ∧
      check merged = .valid (layers.foldl (fun below layer => above layer.2.1 layer.2.2 below) {}) := by
  suffices step : ∀ (lower : Table) (below : Config), check lower = .valid below →
      ∃ merged, (layers.map (·.1)).foldlM (fun merged location => do
          let table ← parseBytes (files.shown location) ((files.fileAt? location).getD [])
          return merged.merge table) lower = Except.ok merged ∧
        check merged = .valid (layers.foldl (fun below layer => above layer.2.1 layer.2.2 below) below) from
    step [] {} rfl
  induction layers with
  | nil => exact fun lower below valid => ⟨lower, rfl, valid⟩
  | cons layer rest ih =>
    intro lower below valid
    obtain ⟨⟨found, passed⟩, later⟩ := List.forall_mem_cons.mp each
    obtain ⟨bytes, file, parsed⟩ := tableAt?_eq_some_iff.mp found
    obtain ⟨merged, done, result⟩ :=
      ih later (lower.merge layer.2.1) _ (check_merge (keyed_parseBytes parsed) valid passed)
    refine ⟨merged, ?_, result⟩
    rw [List.map_cons, List.foldlM_cons, file, Option.getD_some, parsed]
    exact done

theorem isSome_fileAt? (found : tableAt? files location = some table) : (files.fileAt? location).isSome := by
  obtain ⟨bytes, file, _⟩ := tableAt?_eq_some_iff.mp found
  rw [file]
  rfl

/-- Both files are read, unless they are one and the same. -/
theorem discover_of_files (user : (files.fileAt? userFile).isSome) (near : (files.fileAt? (nearFile start)).isSome) :
    discover files start = [userFile, nearFile start] ∨
      discover files start = [userFile] ∧ files.fileAt? userFile = files.fileAt? (nearFile start) := by
  have both : [userFile, nearFile start].filter (fun location => (files.fileAt? location).isSome) =
      [userFile, nearFile start] := by
    refine List.filter_eq_self.mpr fun location member => ?_
    rcases List.mem_pair.mp member with rfl | rfl
    · exact user
    · exact near
  rw [nearFile] at both near ⊢
  rw [discover, both]
  dsimp only
  split
  · next same => exact .inr ⟨rfl, Files.fileAt?_eq_of_follow user near (beq_iff_eq.mp same)⟩
  · exact .inl rfl

theorem above_congr {other : Table} (same : ∀ setting : Setting, setting.given? other = setting.given? table)
    (config below : Config) : above other config below = above table config below := by
  apply Setting.ext_value
  intro setting
  rw [value_above, value_above, same setting]

/-- What the user's file and the near one come to. -/
theorem loadMerged_eq {userTable nearTable : Table} {user near : Config}
    (userRead : tableAt? files userFile = some userTable) (userValid : check userTable = .valid user)
    (nearRead : tableAt? files (nearFile start) = some nearTable) (nearValid : check nearTable = .valid near) :
    loadMerged files start = .ok (above nearTable near (above userTable user {})) := by
  have ofLayers : ∀ layers : List (Location × Table × Config),
      (∀ layer ∈ layers, tableAt? files layer.1 = some layer.2.1 ∧ check layer.2.1 = .valid layer.2.2) →
      discover files start = layers.map (·.1) →
      loadMerged files start = .ok (layers.foldl (fun below layer => above layer.2.1 layer.2.2 below) {}) := by
    intro layers each found
    obtain ⟨merged, done, valid⟩ := mergeFiles_eq_ok each
    rw [loadMerged, found]
    exact bind_eq_ok_iff.mpr ⟨merged, done, validate_eq_ok_iff.mpr valid⟩
  rcases discover_of_files (isSome_fileAt? userRead) (isSome_fileAt? nearRead) with two | ⟨one, same⟩
  · refine ofLayers [(userFile, userTable, user), (nearFile start, nearTable, near)] ?_ two
    intro layer member
    rcases List.mem_pair.mp member with rfl | rfl
    · exact ⟨userRead, userValid⟩
    · exact ⟨nearRead, nearValid⟩
  · -- there is one document under both names, and laid over itself it says nothing new
    obtain ⟨bytes, file, parsed⟩ := tableAt?_eq_some_iff.mp userRead
    obtain ⟨_, again, parsedAgain⟩ := tableAt?_eq_some_iff.mp nearRead
    rw [← same, file] at again
    cases again
    cases (parseBytes_of_parseBytes _ parsed).symm.trans parsedAgain
    cases userValid.symm.trans nearValid
    have once := ofLayers [(userFile, userTable, user)] (by simpa using ⟨userRead, userValid⟩) one
    rw [once]
    refine congrArg Except.ok (Setting.ext_value fun setting => ?_)
    change setting.value (above userTable user {}) = _
    rw [value_above, value_above, value_above]
    split <;> rfl

/-- The other document gives the settings as the first one does, in tables; anything else may stand in it. -/
def SameSettings (table other : Table) : Prop :=
  ∀ setting : Setting, other.Opens setting.table ∧ setting.given? other = setting.given? table

theorem SameSettings.check {other : Table} (same : SameSettings table other) (valid : check table = .valid config) :
    Config.check other = .valid config := by
  refine check_eq_valid_iff.mpr ⟨fun setting => (same setting).1, ?_⟩
  intro setting
  rw [(same setting).2]
  exact (check_eq_valid_iff.mp valid).2 setting

/-- If the user's file and the near one load, both together do: each setting has the value of the near file if that
gives it, else the one of the user's file if that gives it, and else the default. Whatever else the files hold, the
outcome is the same. -/
theorem loadMerged_nearest {userTable nearTable : Table} {user near : Config}
    (userRead : tableAt? files userFile = some userTable) (userLoads : load files ⟨"/", userFile⟩ = .ok user)
    (nearRead : tableAt? files (nearFile start) = some nearTable)
    (nearLoads : load files ⟨"/", nearFile start⟩ = .ok near) :
    (∃ merged, loadMerged files start = .ok merged ∧ ∀ setting : Setting, setting.value merged =
        if (setting.given? nearTable).isSome then setting.value near
        else if (setting.given? userTable).isSome then setting.value user
        else setting.value {}) ∧
      ∀ (others : Files) (place : Location) (otherUser otherNear : Table),
        tableAt? others userFile = some otherUser → tableAt? others (nearFile place) = some otherNear →
        SameSettings userTable otherUser → SameSettings nearTable otherNear →
        loadMerged others place = loadMerged files start := by
  have valid : ∀ {location table config}, tableAt? files location = some table →
      load files ⟨"/", location⟩ = .ok config → check table = .valid config := by
    intro location table config read loads
    obtain ⟨other, readToo, valid⟩ := load_eq_ok_iff.mp loads
    cases read.symm.trans readToo
    exact valid
  have userValid := valid userRead userLoads
  have nearValid := valid nearRead nearLoads
  have merged := loadMerged_eq userRead userValid nearRead nearValid
  constructor
  · refine ⟨_, merged, ?_⟩
    intro setting
    rw [value_above, value_above]
  · intro others place otherUser otherNear otherUserRead otherNearRead userSame nearSame
    rw [merged, loadMerged_eq otherUserRead (userSame.check userValid) otherNearRead (nearSame.check nearValid),
      above_congr fun setting => (nearSame setting).2, above_congr fun setting => (userSame setting).2]

section TwoFiles

/-- A user's file and one in the working directory, given by their texts. -/
def twoFiles (user near : String) : Files where
  nodes :=
    [(userFile, .file (Text.utf8Bytes user.toList)), (nearFile Location.work, .file (Text.utf8Bytes near.toList))]

theorem tableAt?_twoFiles {user near : String} {userTable nearTable : Table}
    (userParsed : Toml.parse user.toList = .ok userTable) (nearParsed : Toml.parse near.toList = .ok nearTable) :
    tableAt? (twoFiles user near) userFile = some userTable ∧
      tableAt? (twoFiles user near) (nearFile Location.work) = some nearTable := by
  have userIs : (twoFiles user near).fileAt? userFile = some (Text.utf8Bytes user.toList) := by rfl
  have nearIs : (twoFiles user near).fileAt? (nearFile Location.work) = some (Text.utf8Bytes near.toList) := by rfl
  refine ⟨tableAt?_eq_some_iff.mpr ⟨_, userIs, ?_⟩, tableAt?_eq_some_iff.mpr ⟨_, nearIs, ?_⟩⟩
  · rw [parseBytes, Text.decodeUtf8?_utf8Bytes]
    dsimp only
    rw [userParsed]
  · rw [parseBytes, Text.decodeUtf8?_utf8Bytes]
    dsimp only
    rw [nearParsed]

/-- A user's file and a near one whose unused parts do not fit together. -/
def oddFiles : Files :=
  twoFiles "odd=1\n[search]\npage_size=5\nsort_by='year'" "[odd]\nx.y=[]\n[search]\npage_size='7'"

def plainFiles : Files :=
  twoFiles "[search]\npage_size=5\nsort_by='year'" "[search]\npage_size='7'"

theorem loadMerged_nearest_odd :
    ∃ merged, loadMerged oddFiles Location.work = .ok merged ∧ merged.search.pageSize = 7 ∧
      merged.search.sortBy = "year" ∧ merged.search.exactMatch = false ∧
      loadMerged plainFiles Location.work = .ok merged := by
  obtain ⟨userRead, nearRead⟩ : tableAt? oddFiles userFile = some
        [("odd", .int 1), ("search", .object [("page_size", .int 5), ("sort_by", .string "year")])] ∧
      tableAt? oddFiles (nearFile Location.work) = some
        [("odd", .object [("x", .object [("y", .list [])])]), ("search", .object [("page_size", .string "7")])] :=
    tableAt?_twoFiles (by decide +kernel) (by decide +kernel)
  obtain ⟨otherUserRead, otherNearRead⟩ : tableAt? plainFiles userFile = some
        [("search", .object [("page_size", .int 5), ("sort_by", .string "year")])] ∧
      tableAt? plainFiles (nearFile Location.work) = some [("search", .object [("page_size", .string "7")])] :=
    tableAt?_twoFiles (by decide +kernel) (by decide +kernel)
  obtain ⟨⟨merged, done, values⟩, others⟩ := loadMerged_nearest
    userRead (load_eq_ok_iff.mpr ⟨_, userRead, by rfl⟩) nearRead (load_eq_ok_iff.mpr ⟨_, nearRead, by rfl⟩)
  have plain := others plainFiles Location.work _ _ otherUserRead otherNearRead ?_ ?_
  · refine ⟨merged, done, ?_, ?_, ?_, plain.trans done⟩
    · exact Value.int.inj (values .pageSize)
    · exact Value.string.inj (values .sortBy)
    · exact Value.bool.inj (values .exactMatch)
  all_goals
    intro setting
    refine ⟨?_, by cases setting <;> rfl⟩
    intro value found
    cases setting <;> cases found
    all_goals exact ⟨_, rfl⟩

end TwoFiles

end Config

end CatalogSearch
