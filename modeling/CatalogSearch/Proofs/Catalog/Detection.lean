import CatalogSearch.Proofs.Catalog.Registration
import CatalogSearch.Proofs.Catalog.Score
import Mathlib.Data.List.Induction

/-! # Which plugin is detected

A plugin claims a file if it answers with one half or more. The only plugin that claims a file is detected, several are
a conflict, and without any none is found, whatever the order in which the plugins were registered. A number that is
too large for a score stops the detection, in every order, too.
-/

namespace CatalogSearch

open Number (Double)

/-- No plugin is found for a file, as none is sure enough. -/
def DetectionError.isNotFound : DetectionError → Bool
  | .noPlugins | .noAnswers | .unsure .. => true
  | .conflict _ | .badScore _ => false

variable {files : Files} {path : PathName}

namespace Plugin

/-- The plugin answers for a file with a number of one half or more. -/
def Claims (files : Files) (path : PathName) (plugin : Plugin) : Prop :=
  ∃ value, (plugin.confidence files path).number? = some value ∧ 1 / 2 ≤ value

instance (files : Files) (path : PathName) : DecidablePred (Claims files path) := fun plugin =>
  decidable_of_iff ((plugin.confidence files path).number?.any (1 / 2 ≤ ·) = true) <| by
    rw [Option.any_eq_true]
    simp only [decide_eq_true_eq, Claims]

/-- The plugin answers for a file with nothing or a number. -/
def AnswersNumber (files : Files) (path : PathName) (plugin : Plugin) : Prop :=
  plugin.confidence files path = .null ∨ ∃ value, (plugin.confidence files path).number? = some value

end Plugin

namespace Registry

open Plugin (Claims AnswersNumber TooLarge)

def plugins (registry : Registry) : List Plugin :=
  registry.named.map Prod.snd

/-! ## Scores -/

theorem scores_of_null {name : String} {plugin : Plugin} (silent : plugin.confidence files path = .null)
    (rest : List (String × Plugin)) : scores files path ((name, plugin) :: rest) = scores files path rest := by
  rw [scores, silent]
  rfl

theorem scores_of_number {name : String} {plugin : Plugin} {value : ℚ}
    (number : (plugin.confidence files path).number? = some value) (rest : List (String × Plugin)) :
    scores files path ((name, plugin) :: rest) =
      match Plugin.scoreOf (plugin.confidence files path) with
      | .error error => .error (.badScore error)
      | .ok score => (scores files path rest).map ((name, score) :: ·) := by
  have loud : (plugin.confidence files path).isNull = false := by
    cases answer : plugin.confidence files path with
    | null =>
      rw [answer] at number
      cases number
    | bool | int | float | string | list | object => rfl
  rw [scores, loud]
  rfl

theorem not_claims_of_null {plugin : Plugin} (silent : plugin.confidence files path = .null) :
    ¬Claims files path plugin := by
  rintro ⟨value, number, _⟩
  rw [silent] at number
  cases number

theorem claims_iff {plugin : Plugin} {value : ℚ} (number : (plugin.confidence files path).number? = some value) :
    Claims files path plugin ↔ 1 / 2 ≤ value := by
  rw [Claims, number]
  simp only [Option.some.injEq, exists_eq_left']

/-- The plugins whose scores are high enough are those that claim the file, in the same order. -/
theorem exists_scores {plugins : List Plugin} (numbers : ∀ plugin ∈ plugins, AnswersNumber files path plugin)
    (fit : ∀ plugin ∈ plugins, ¬TooLarge (plugin.confidence files path)) :
    ∃ found, scores files path (entries id id plugins) = .ok found ∧
      (found.filter fun (_, score) => isSure score).map Prod.fst =
        (plugins.filter (Claims files path ·)).map (·.name) := by
  induction plugins with
  | nil => exact ⟨[], rfl, rfl⟩
  | cons plugin rest ih =>
    obtain ⟨here, later⟩ := List.forall_mem_cons.mp numbers
    obtain ⟨fits, laterFit⟩ := List.forall_mem_cons.mp fit
    obtain ⟨found, done, same⟩ := ih later laterFit
    rcases here with silent | ⟨value, number⟩
    · refine ⟨found, (scores_of_null silent _).trans done, ?_⟩
      rw [List.filter_cons_of_neg (by simpa using not_claims_of_null silent), same]
    · -- The score is on the side of one half on which the number is.
      obtain ⟨score, scored, side⟩ := Plugin.exists_scoreOf number fits
      rw [← claims_iff number] at side
      refine ⟨(plugin.name, score) :: found, ?_, ?_⟩
      · apply (scores_of_number number _).trans
        rw [scored, ← entries, done]
        rfl
      · by_cases claims : Claims files path plugin
        · have sure : isSure score = true := side.mpr claims
          rw [List.filter_cons, if_pos sure, List.filter_cons_of_pos (by simpa using claims), List.map_cons,
            List.map_cons, same]
        · have unsure : ¬isSure score = true := mt side.mp claims
          rw [List.filter_cons, if_neg unsure, List.filter_cons_of_neg (by simpa using claims), same]

/-- A number that is too large is the first that is wrong with the answers, as nothing else is. -/
theorem scores_of_tooLarge {plugins : List Plugin} (numbers : ∀ plugin ∈ plugins, AnswersNumber files path plugin)
    (large : ∃ plugin ∈ plugins, TooLarge (plugin.confidence files path)) :
    scores files path (entries id id plugins) = .error (.badScore .tooLarge) := by
  induction plugins with
  | nil =>
    obtain ⟨_, ⟨⟩, _⟩ := large
  | cons plugin rest ih =>
    obtain ⟨here, later⟩ := List.forall_mem_cons.mp numbers
    rcases here with silent | ⟨value, number⟩
    · have behind : ∃ plugin ∈ rest, TooLarge (plugin.confidence files path) := by
        obtain ⟨other, member, tooLarge⟩ := large
        rcases List.mem_cons.mp member with rfl | member
        · obtain ⟨n, whole, _⟩ := tooLarge
          cases silent.symm.trans whole
        · exact ⟨other, member, tooLarge⟩
      exact (scores_of_null silent _).trans (ih later behind)
    · apply (scores_of_number number _).trans
      by_cases tooLarge : TooLarge (plugin.confidence files path)
      · rw [Plugin.scoreOf_of_tooLarge tooLarge]
      · have behind : ∃ plugin ∈ rest, TooLarge (plugin.confidence files path) := by
          obtain ⟨other, member, also⟩ := large
          rcases List.mem_cons.mp member with rfl | member
          · exact absurd also tooLarge
          · exact ⟨other, member, also⟩
        obtain ⟨score, scored, _⟩ := Plugin.exists_scoreOf number tooLarge
        rw [scored]
        dsimp only
        rw [← entries, ih later behind]
        rfl

/-! ## The choice -/

/-- What is made of the plugins that claim a file. -/
inductive Verdict : List Plugin → Except DetectionError String → Prop where
  | chosen (plugin : Plugin) : Verdict [plugin] (.ok plugin.name)
  | conflict (first second : Plugin) (more : List Plugin) (claims : List (String × Double)) :
    Verdict (first :: second :: more) (.error (.conflict claims))
  | notFound {error : DetectionError} (missing : error.isNotFound = true) : Verdict [] (.error error)

private theorem verdict_choose {found : List (String × Double)} {claimants : List Plugin}
    (same : (found.filter fun (_, score) => isSure score).map Prod.fst = claimants.map (·.name)) :
    Verdict claimants (choose found) := by
  cases found with
  | nil =>
    obtain rfl := List.map_eq_nil_iff.mp same.symm
    exact .notFound rfl
  | cons first others =>
    rw [choose]
    generalize (first :: others).filter (fun (_, score) => isSure score) = sure at same
    -- Both lists have the same names, so that they are of the same length.
    match sure, claimants with
    | [], [] => exact .notFound rfl
    | [(name, score)], [plugin] =>
      obtain rfl : name = plugin.name := List.singleton_inj.mp same
      exact .chosen plugin
    | _ :: _ :: _, first :: second :: more => exact .conflict first second more _
    | [], _ :: _ | _ :: _, [] | [_], _ :: _ :: _ | _ :: _ :: _, [_] => simp at same

/-- Two detections that agree, on a name or on the kind of error. -/
inductive Alike : Except DetectionError String → Except DetectionError String → Prop where
  | name (name : String) : Alike (.ok name) (.ok name)
  | conflict (claims others : List (String × Double)) : Alike (.error (.conflict claims)) (.error (.conflict others))
  | notFound {error other : DetectionError} (first : error.isNotFound = true) (second : other.isNotFound = true) :
    Alike (.error error) (.error other)
  | badScore (error : ScoreError) : Alike (.error (.badScore error)) (.error (.badScore error))

variable {claimants others : List Plugin} {outcome other : Except DetectionError String}

/-- The verdict does not depend on the order of the plugins. -/
theorem Verdict.perm (verdict : Verdict claimants outcome) (perm : claimants.Perm others) : Verdict others outcome := by
  cases verdict with
  | chosen plugin =>
    obtain rfl := List.singleton_perm.mp perm
    exact .chosen plugin
  | conflict first second more claims =>
    have length := perm.length_eq
    match others with
    | first :: second :: more => exact .conflict first second more claims
    | [_] | [] => simp at length
  | notFound missing =>
    obtain rfl := List.nil_perm.mp perm
    exact .notFound missing

theorem Verdict.alike (first : Verdict claimants outcome) (second : Verdict claimants other) : Alike outcome other := by
  cases first with
  | chosen plugin =>
    cases second
    exact .name plugin.name
  | conflict _ _ _ claims =>
    cases second
    exact .conflict claims _
  | notFound missing =>
    cases second with
    | notFound alsoMissing => exact .notFound missing alsoMissing

theorem Verdict.eq_ok_iff (verdict : Verdict claimants outcome) {name : String} :
    outcome = .ok name ↔ ∃ plugin, claimants = [plugin] ∧ plugin.name = name := by
  cases verdict with
  | chosen plugin => simp
  | conflict | notFound => simp

private theorem Verdict.conflict_iff (verdict : Verdict claimants outcome) :
    (∃ claims, outcome = .error (.conflict claims)) ↔ 2 ≤ claimants.length := by
  cases verdict with
  | chosen plugin => simp
  | conflict first second more claims => simp
  | @notFound error missing =>
    cases error with
    | conflict | badScore => cases missing
    | noPlugins | noAnswers | unsure => simp

private theorem Verdict.notFound_iff (verdict : Verdict claimants outcome) :
    (∃ error, outcome = .error error ∧ error.isNotFound = true) ↔ claimants = [] := by
  cases verdict with
  | chosen plugin => simp
  | conflict first second more claims => simp [DetectionError.isNotFound]
  | notFound missing => simpa using missing

/-! ## Registered plugins -/

/-- Whatever was done to a registry, each of its plugins stands under its own name, once. -/
theorem named_after (calls : List (Call Plugin)) :
    ((after calls).plugins.map (·.name)).Nodup ∧ (after calls).named = entries id id (after calls).plugins := by
  classical
  have start := inStep_start (HookTable.lawful_listed Plugin) id
  obtain ⟨order, _, _, inStep⟩ := start.run (HookTable.lawful_listed Plugin) calls
  have same : calls.map (Call.map id) = calls := by
    rw [funext Call.map_id]
    exact List.map_id calls
  have named : (after calls).named = entries id id order := by
    rw [after, ← same]
    exact inStep.holds.plugins
  have plugins : (after calls).plugins = order := by
    rw [Registry.plugins, named, entries, List.map_map]
    exact List.map_id order
  rw [plugins]
  exact ⟨inStep.stands.nodup, named⟩

private theorem plugins_register {registry : Registry} {plugin : Plugin} (new : plugin.name ∉ registry.names) :
    (registry.register plugin).plugins = registry.plugins ++ [plugin] := by
  have absent : registry.find? plugin.name = none := by
    rw [find?, List.lookup_eq_none_iff]
    intro entry member
    simpa using fun same => new (List.mem_map.mpr ⟨entry, member, same.symm⟩)
  rw [register, unregister, absent]
  simp [plugins]

/-- Plugins of different names are registered in any order, and kept in it. -/
theorem plugins_after_register {plugins : List Plugin} (distinct : (plugins.map (·.name)).Nodup) :
    (after (plugins.map .register)).plugins = plugins := by
  induction plugins using List.reverseRecOn with
  | nil => rfl
  | append_singleton front last ih =>
    rw [List.map_append, List.nodup_append_comm] at distinct
    obtain ⟨fresh, others⟩ := List.nodup_cons.mp distinct
    have new : last.name ∉ (after (front.map .register)).names := by
      rw [names, (named_after _).2, map_fst_entries, ih others]
      exact fresh
    rw [List.map_append, after, List.foldl_append]
    exact (plugins_register new).trans (by rw [ih others])

private theorem verdict_detect {registry : Registry} (named : registry.named = entries id id registry.plugins)
    (numbers : ∀ plugin ∈ registry.plugins, AnswersNumber files path plugin)
    (fit : ∀ plugin ∈ registry.plugins, ¬TooLarge (plugin.confidence files path)) :
    Verdict (registry.plugins.filter (Claims files path ·)) (registry.detect files path) := by
  obtain ⟨found, done, same⟩ := exists_scores numbers fit
  rw [detect]
  split
  · next empty =>
    have none : registry.plugins = [] := by rw [plugins, List.isEmpty_iff.mp empty]; rfl
    rw [none]
    exact .notFound rfl
  · rw [named, done]
    exact verdict_choose same

private theorem detect_of_tooLarge {registry : Registry} (named : registry.named = entries id id registry.plugins)
    (numbers : ∀ plugin ∈ registry.plugins, AnswersNumber files path plugin)
    (large : ∃ plugin ∈ registry.plugins, TooLarge (plugin.confidence files path)) :
    registry.detect files path = .error (.badScore .tooLarge) := by
  have some : registry.named.isEmpty = false := by
    obtain ⟨plugin, member, _⟩ := large
    rw [named, List.isEmpty_eq_false_iff, entries, ne_eq, List.map_eq_nil_iff]
    exact List.ne_nil_of_mem member
  rw [detect, some, named, scores_of_tooLarge numbers large]
  rfl

section Orders

variable {plugins : List Plugin} {calls : List (Call Plugin)}

/-- The verdict on plugins is the same in whatever order they are registered. -/
theorem verdict_after (registered : (after calls).plugins.Perm plugins)
    (numbers : ∀ plugin ∈ plugins, AnswersNumber files path plugin)
    (fit : ∀ plugin ∈ plugins, ¬TooLarge (plugin.confidence files path)) :
    Verdict (plugins.filter (Claims files path ·)) ((after calls).detect files path) := by
  have here : Verdict ((after calls).plugins.filter (Claims files path ·)) ((after calls).detect files path) := by
    apply verdict_detect (named_after calls).2
    · exact fun plugin member => numbers plugin (registered.subset member)
    · exact fun plugin member => fit plugin (registered.subset member)
  exact here.perm (registered.filter _)

/-- A number that is too large stops the detection in whatever order the plugins are registered. -/
theorem detect_after_of_tooLarge (registered : (after calls).plugins.Perm plugins)
    (numbers : ∀ plugin ∈ plugins, AnswersNumber files path plugin)
    (large : ∃ plugin ∈ plugins, TooLarge (plugin.confidence files path)) :
    (after calls).detect files path = .error (.badScore .tooLarge) := by
  apply detect_of_tooLarge (named_after calls).2
  · exact fun plugin member => numbers plugin (registered.subset member)
  · obtain ⟨plugin, member, tooLarge⟩ := large
    exact ⟨plugin, registered.mem_iff.mpr member, tooLarge⟩

end Orders

/-- Plugins of different names, each of which answers with nothing or a number, are detected alike in every order. If
all numbers fit into scores, the name of the only plugin that claims the file is detected; several are a conflict, and
none is found if there is none. If a number is too large, that is the error. -/
theorem detect_of_plugins {plugins : List Plugin} (distinct : (plugins.map (·.name)).Nodup)
    (numbers : ∀ plugin ∈ plugins, AnswersNumber files path plugin) :
    (∀ order, order.Perm plugins → (after (order.map .register)).plugins = order) ∧
      ∀ calls, (after calls).plugins.Perm plugins →
        ((∀ plugin ∈ plugins, ¬TooLarge (plugin.confidence files path)) →
          (∀ name, (after calls).detect files path = .ok name ↔
            ∃ plugin, plugins.filter (Claims files path ·) = [plugin] ∧ plugin.name = name) ∧
          ((∃ claims, (after calls).detect files path = .error (.conflict claims)) ↔
            2 ≤ (plugins.filter (Claims files path ·)).length) ∧
          ((∃ error, (after calls).detect files path = .error error ∧ error.isNotFound = true) ↔
            ∀ plugin ∈ plugins, ¬Claims files path plugin)) ∧
        ((∃ plugin ∈ plugins, TooLarge (plugin.confidence files path)) →
          (after calls).detect files path = .error (.badScore .tooLarge)) ∧
        ∀ others, (after others).plugins.Perm plugins →
          Alike ((after calls).detect files path) ((after others).detect files path) := by
  refine ⟨?_, fun calls registered => ⟨?_, detect_after_of_tooLarge registered numbers, ?_⟩⟩
  · intro order perm
    exact plugins_after_register ((perm.map _).nodup_iff.mpr distinct)
  · intro fit
    have verdict := verdict_after registered numbers fit
    refine ⟨fun name => verdict.eq_ok_iff, verdict.conflict_iff, ?_⟩
    rw [verdict.notFound_iff, List.filter_eq_nil_iff]
    simp only [decide_eq_true_eq]
  · intro others also
    by_cases large : ∃ plugin ∈ plugins, TooLarge (plugin.confidence files path)
    · rw [detect_after_of_tooLarge registered numbers large, detect_after_of_tooLarge also numbers large]
      exact .badScore .tooLarge
    · have fit : ∀ plugin ∈ plugins, ¬TooLarge (plugin.confidence files path) :=
        fun plugin member tooLarge => large ⟨plugin, member, tooLarge⟩
      exact (verdict_after registered numbers fit).alike (verdict_after also numbers fit)

/-- A plugin that is sure, one that is not and one that answers nothing, the first of them registered twice. -/
theorem detect_of_plugins_replaced :
    let sure : Plugin := { name := "a", confidence := fun _ _ => .int 1 }
    let unsure : Plugin := { name := "b" }
    let silent : Plugin := { name := "c", confidence := fun _ _ => .null }
    (([sure, unsure, silent].map (·.name)).Nodup ∧
      ∀ plugin ∈ [sure, unsure, silent], AnswersNumber {} ⟨"", ["x"]⟩ plugin) ∧
      (after [.register sure, .register unsure, .register sure, .register silent]).detect {} ⟨"", ["x"]⟩ = .ok "a" := by
  intro sure unsure silent
  have distinct : ([sure, unsure, silent].map (·.name)).Nodup := by
    simp [sure, unsure, silent]
  have nought : (unsure.confidence {} ⟨"", ["x"]⟩).number? = some 0 := Double.toRat?_zero false
  have numbers : ∀ plugin ∈ [sure, unsure, silent], AnswersNumber {} ⟨"", ["x"]⟩ plugin := by
    rw [List.forall_mem_cons, List.forall_mem_cons, List.forall_mem_singleton]
    exact ⟨.inr ⟨1, rfl⟩, .inr ⟨0, nought⟩, .inl rfl⟩
  have registered : (after [.register sure, .register unsure, .register sure, .register silent]).plugins =
      [unsure, sure, silent] :=
    rfl
  have fit : ∀ plugin ∈ [sure, unsure, silent], ¬TooLarge (plugin.confidence {} ⟨"", ["x"]⟩) := by
    rw [List.forall_mem_cons, List.forall_mem_cons, List.forall_mem_singleton]
    refine ⟨?_, ?_, ?_⟩
    · rintro ⟨_, whole, beyond⟩
      obtain rfl := Value.int.inj whole
      cases beyond
    · rintro ⟨_, whole, _⟩
      cases whole
    · rintro ⟨_, whole, _⟩
      cases whole
  have alone : [sure, unsure, silent].filter (Claims {} ⟨"", ["x"]⟩ ·) = [sure] := by
    have claims : Claims {} ⟨"", ["x"]⟩ sure := ⟨1, rfl, by norm_num⟩
    have unclaimed : ¬Claims {} ⟨"", ["x"]⟩ unsure := (claims_iff nought).not.mpr (by norm_num)
    rw [List.filter_cons_of_pos (by simpa using claims), List.filter_cons_of_neg (by simpa using unclaimed),
      List.filter_cons_of_neg (by simpa using not_claims_of_null rfl), List.filter_nil]
  have perm : [unsure, sure, silent].Perm [sure, unsure, silent] := .swap sure unsure [silent]
  have outcome := (detect_of_plugins distinct numbers).2 _ (registered ▸ perm)
  exact ⟨⟨distinct, numbers⟩, ((outcome.1 fit).1 "a").mpr ⟨sure, alone, rfl⟩⟩

/-- The number of the only plugin is above one half, but too large for a score. -/
theorem detect_of_plugins_tooLarge :
    let large : Plugin := { name := "big", confidence := fun _ _ => .int (10 ^ 400) }
    (after [.register large]).plugins = [large] ∧ Claims {} ⟨"", ["x"]⟩ large ∧
      (after [.register large]).detect {} ⟨"", ["x"]⟩ = .error (.badScore .tooLarge) ∧
      (after [.register large]).detect {} ⟨"", ["x"]⟩ ≠ .ok "big" := by
  intro large
  have beyond : Double.ofInt? (10 ^ 400) = none := by
    decide +kernel
  have registered : (after [.register large]).plugins = [large] :=
    rfl
  have outcome : (after [.register large]).detect {} ⟨"", ["x"]⟩ = .error (.badScore .tooLarge) := by
    apply detect_after_of_tooLarge (.of_eq registered)
    · exact List.forall_mem_singleton.mpr (.inr ⟨_, rfl⟩)
    · exact ⟨large, List.mem_singleton_self large, 10 ^ 400, rfl, beyond⟩
  refine ⟨registered, ⟨_, rfl, ?_⟩, outcome, ?_⟩
  · calc
      (1 / 2 : ℚ) ≤ 1 := by norm_num
      _ ≤ 10 ^ 400 := one_le_pow₀ (by norm_num)
      _ = ((10 ^ 400 : Int) : ℚ) := by rw [Int.cast_pow, Int.cast_ofNat]
  · intro named
    cases outcome.symm.trans named

end Registry

end CatalogSearch
