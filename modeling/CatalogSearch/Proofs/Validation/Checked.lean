import CatalogSearch.Proofs.Json.Sound
import CatalogSearch.Validation.Checked

/-! # What checks accept

Checks of several parts succeed with the parts if each part does. A whole number that passes is of bounded size,
in whatever form it was given, and what a check has once accepted passes as it is.
-/

namespace CatalogSearch

namespace Checked

variable {α β γ δ : Type}

theorem map_of_valid (f : α → β) {check : Checked α} {a : α} (first : check = valid a) :
    f <$> check = valid (f a) := by
  rw [first]
  rfl

theorem seq_of_valid {checks : Checked (α → β)} {check : Checked α} {f : α → β} {a : α} (first : checks = valid f)
    (second : check = valid a) : checks <*> check = valid (f a) := by
  rw [first, second]
  rfl

theorem map_eq_valid_iff {f : α → β} {check : Checked α} {b : β} :
    f <$> check = valid b ↔ ∃ a, check = valid a ∧ f a = b := by
  cases check with
  | valid a =>
    constructor
    · rintro ⟨⟩
      exact ⟨a, rfl, rfl⟩
    · rintro ⟨_, ⟨⟩, rfl⟩
      rfl
  | invalid problems => exact ⟨nofun, fun ⟨_, same, _⟩ => nomatch same⟩

/-- Two checks together accept what both accept, if it can be told from the whole. -/
theorem map_seq_eq_valid_iff {f : α → β → γ} (apart : ∀ {a b a' b'}, f a b = f a' b' → a = a' ∧ b = b')
    {first : Checked α} {second : Checked β} {a : α} {b : β} :
    f <$> first <*> second = valid (f a b) ↔ first = valid a ∧ second = valid b := by
  rw [seq_eq_valid_iff]
  constructor
  · rintro ⟨_, b', left, rfl, same⟩
    obtain ⟨a', rfl, rfl⟩ := map_eq_valid_iff.mp left
    obtain ⟨rfl, rfl⟩ := apart same
    exact ⟨rfl, rfl⟩
  · rintro ⟨rfl, rfl⟩
    exact ⟨f a, b, rfl, rfl, rfl⟩

/-- Three checks together accept what all of them accept, if it can be told from the whole. -/
theorem map_seq_seq_eq_valid_iff {f : α → β → γ → δ}
    (apart : ∀ {a b c a' b' c'}, f a b c = f a' b' c' → a = a' ∧ b = b' ∧ c = c') {first : Checked α}
    {second : Checked β} {third : Checked γ} {a : α} {b : β} {c : γ} :
    f <$> first <*> second <*> third = valid (f a b c) ↔ first = valid a ∧ second = valid b ∧ third = valid c := by
  rw [seq_eq_valid_iff]
  constructor
  · rintro ⟨_, c', left, rfl, same⟩
    obtain ⟨_, b', inner, rfl, rfl⟩ := seq_eq_valid_iff.mp left
    obtain ⟨a', rfl, rfl⟩ := map_eq_valid_iff.mp inner
    obtain ⟨rfl, rfl, rfl⟩ := apart same
    exact ⟨rfl, rfl, rfl⟩
  · rintro ⟨rfl, rfl, rfl⟩
    exact ⟨f a b, c, rfl, rfl, rfl⟩

theorem under_eq_valid_iff {step : Step} {check : Checked α} {a : α} :
    check.under step = valid a ↔ check = valid a := by
  cases check with
  | valid b => exact Iff.rfl
  | invalid problems => exact ⟨nofun, nofun⟩

theorem andThen_eq_valid_iff {check : Checked α} {next : α → Checked β} {b : β} :
    check.andThen next = valid b ↔ ∃ a, check = valid a ∧ next a = valid b := by
  cases check with
  | valid a => exact ⟨fun later => ⟨a, rfl, later⟩, fun ⟨_, same, later⟩ => by cases same; exact later⟩
  | invalid problems => exact ⟨nofun, fun ⟨_, same, _⟩ => nomatch same⟩

/-- The problems that are reported, none where the check passes. -/
def problems : Checked α → List Problem
  | valid _ => []
  | invalid problems => problems

@[simp]
theorem problems_map (f : α → β) (check : Checked α) : (f <$> check).problems = check.problems := by
  cases check <;> rfl

@[simp]
theorem problems_seq (checks : Checked (α → β)) (check : Checked α) :
    (checks <*> check).problems = checks.problems ++ check.problems := by
  cases checks with
  | valid f => cases check <;> rfl
  | invalid first =>
    cases check with
    | valid a => exact (List.append_nil first).symm
    | invalid second => rfl

theorem problems_under (step : Step) (check : Checked α) :
    (check.under step).problems = check.problems.map fun problem => { problem with place := step :: problem.place } := by
  cases check <;> rfl

/-- A check of a value as a whole: it passes, or there is one complaint about the value itself. -/
inductive Whole : Checked α → Prop where
  | valid (a : α) : Whole (.valid a)
  | complain (complaint : Complaint) : Whole (.complain complaint)

theorem Whole.map {check : Checked α} (whole : check.Whole) (f : α → β) : (f <$> check).Whole := by
  cases whole with
  | valid a => exact .valid (f a)
  | complain complaint => exact .complain complaint

theorem Whole.andThen {check : Checked α} {next : α → Checked β} (whole : check.Whole) (later : ∀ a, (next a).Whole) :
    (check.andThen next).Whole := by
  cases whole with
  | valid a => exact later a
  | complain complaint => exact .complain complaint

/-- Anything is reported if and only if the check does not pass. -/
theorem Whole.mem_problems_iff {check : Checked α} (whole : check.Whole) {problem : Problem} :
    problem ∈ check.problems ↔ ∃ complaint, check = .complain complaint ∧ problem = ⟨[], complaint⟩ := by
  cases whole with
  | valid a => exact ⟨nofun, nofun⟩
  | complain complaint =>
    constructor
    · intro member
      exact ⟨complaint, rfl, List.mem_singleton.mp member⟩
    · rintro ⟨_, ⟨⟩, rfl⟩
      exact List.mem_singleton.mpr rfl

/-- A check that does not pass reports something. -/
def Sincere (check : Checked α) : Prop :=
  check ≠ .invalid []

theorem Sincere.map {check : Checked α} (sincere : check.Sincere) (f : α → β) : (f <$> check).Sincere := by
  cases check with
  | valid a => exact nofun
  | invalid problems =>
    intro silent
    exact sincere (congrArg invalid (Checked.invalid.inj silent))

theorem Sincere.seq {checks : Checked (α → β)} {check : Checked α} (first : checks.Sincere) (second : check.Sincere) :
    (checks <*> check).Sincere := by
  cases checks with
  | valid f => exact second.map f
  | invalid problems =>
    cases check with
    | valid a =>
      intro silent
      exact first (congrArg invalid (Checked.invalid.inj silent))
    | invalid others =>
      intro silent
      obtain ⟨none, _⟩ := List.append_eq_nil_iff.mp (Checked.invalid.inj silent)
      exact first (congrArg invalid none)

theorem Sincere.under {check : Checked α} (sincere : check.Sincere) (step : Step) : (check.under step).Sincere := by
  cases check with
  | valid a => exact nofun
  | invalid problems =>
    intro silent
    exact sincere (congrArg invalid (List.map_eq_nil_iff.mp (Checked.invalid.inj silent)))

theorem Whole.sincere {check : Checked α} (whole : check.Whole) : check.Sincere := by
  cases whole <;> exact nofun

end Checked

namespace Table

variable {α : Type} {table : Table} {key : String} {value : Value} {check : Value → Checked α} {result : α}

theorem sincere_optional {default : α} (sincere : ∀ value, (check value).Sincere) :
    (table.optional key default check).Sincere := by
  rw [optional]
  split
  · exact (sincere _).under _
  · exact nofun

theorem required_of_get? (found : table.get? key = some value) (checked : check value = .valid result) :
    table.required key check = .valid result := by
  rw [required, found]
  exact congrArg (Checked.under (.key key)) checked

theorem optional_of_get? (default : α) (found : table.get? key = some value) (checked : check value = .valid result) :
    table.optional key default check = .valid result := by
  rw [optional, found]
  exact congrArg (Checked.under (.key key)) checked

theorem optional_eq_valid {default : α} (valid : table.optional key default check = .valid result) :
    result = default ∨ ∃ value, (key, value) ∈ table ∧ check value = .valid result := by
  rw [optional] at valid
  split at valid
  · next value found => exact .inr ⟨value, mem_of_get? found, Checked.under_eq_valid_iff.mp valid⟩
  · cases valid
    exact .inl rfl

/-- Null counts as missing where a value is optional. -/
theorem optional_of_null (missing : table.column key = .null) (check : Value → Checked α) :
    table.optional key none (Value.checkOptional check) = .valid none := by
  rw [optional]
  split
  · next value found =>
    rw [column, found] at missing
    obtain rfl : value = .null := missing
    rfl
  · rfl

theorem required_set_of_ne {other : String} (apart : key ≠ other) :
    (table.set other value).required key check = table.required key check := by
  rw [required, get?_set, if_neg apart]
  rfl

theorem optional_set_of_ne {other : String} {default : α} (apart : key ≠ other) :
    (table.set other value).optional key default check = table.optional key default check := by
  rw [optional, get?_set, if_neg apart]
  rfl

end Table

namespace Value

open Checked (Whole)

theorem whole_checkText (value : Value) : value.checkText.Whole := by
  unfold checkText
  split
  · exact .valid _
  · exact .complain _

theorem whole_checkChoice (choices : List String) (value : Value) : (value.checkChoice choices).Whole := by
  unfold checkChoice
  split
  · split
    · exact .valid _
    · exact .complain _
  · exact .complain _

private theorem whole_checkWholeText (text : String) : (checkWholeText text).Whole := by
  unfold checkWholeText
  split
  · exact .complain _
  · split
    · exact .valid _
    · exact .complain _

private theorem whole_checkWholeDouble (x : Number.Double) : (checkWholeDouble x).Whole := by
  unfold checkWholeDouble
  split
  · split
    · exact .complain _
    · split
      · exact .valid _
      · exact .complain _
  · exact .complain _

private theorem whole_checkInt (value : Value) : value.checkInt.Whole := by
  cases value with
  | int n => exact .valid n
  | bool b => exact .valid _
  | float x => exact whole_checkWholeDouble x
  | string text => exact whole_checkWholeText text
  | null | list | object => exact .complain _

theorem whole_checkIntFrom (least : Int) (value : Value) : (value.checkIntFrom least).Whole := by
  refine (whole_checkInt value).andThen fun n => ?_
  split
  · exact .complain _
  · exact .valid n

theorem whole_checkTruthNumber (n : Int) : (checkTruthNumber n).Whole := by
  unfold checkTruthNumber
  split
  · exact .valid false
  split
  · exact .valid true
  split
  · exact .complain _
  · exact .complain _

theorem whole_checkBool (value : Value) : value.checkBool.Whole := by
  cases value with
  | bool b => exact .valid b
  | int n => exact whole_checkTruthNumber n
  | string text =>
    unfold checkBool checkTruthWord
    dsimp only
    split
    · exact .valid true
    split
    · exact .valid false
    · exact .complain _
  | float x =>
    unfold checkBool
    dsimp only
    split
    · exact whole_checkTruthNumber _
    · exact .complain _
  | null | list | object => exact .complain _

theorem whole_checkOptional {α : Type} {check : Value → Checked α} (whole : ∀ value, (check value).Whole)
    (value : Value) : (checkOptional check value).Whole := by
  unfold checkOptional
  split
  · exact .valid none
  · exact (whole value).map some

theorem sincere_checkTable {α : Type} {body : Table → Checked α} (sincere : ∀ table, (body table).Sincere)
    (shape : String) (value : Value) : (checkTable shape body value).Sincere := by
  unfold checkTable
  split
  · exact sincere _
  · exact nofun

theorem checkOptional_ofText? (text : Option String) :
    checkOptional checkText (ofText? text) = .valid text := by
  cases text <;> rfl

theorem checkOptional_ofInt? (n : Option Int) : checkOptional checkInt (ofInt? n) = .valid n := by
  cases n <;> rfl

private theorem eachFrom_checkText (texts : List String) (position : Nat) :
    Checked.eachFrom checkText position (texts.map .string) = .valid texts := by
  induction texts generalizing position with
  | nil => rfl
  | cons text rest ih =>
    rw [List.map_cons, Checked.eachFrom, ih]
    rfl

theorem checkList_checkText (texts : List String) : checkList checkText (.list (texts.map .string)) = .valid texts :=
  eachFrom_checkText texts 0

private theorem writable_checkWholeDouble {x : Number.Double} {n : Int} (checked : checkWholeDouble x = .valid n) :
    Number.Writable n := by
  unfold checkWholeDouble at checked
  split at checked
  · split at checked
    · cases checked
    · split at checked
      · next range =>
        cases checked
        rw [Bool.and_eq_true, decide_eq_true_eq, decide_eq_true_eq] at range
        exact Number.writable_of_word range.1 range.2
      · cases checked
  · cases checked

private theorem writable_checkWholeText {text : String} {n : Int} (checked : checkWholeText text = .valid n) :
    Number.Writable n := by
  unfold checkWholeText at checked
  split at checked
  · cases checked
  · split at checked
    · next read =>
      cases checked
      exact Number.writable_readLoose? read
    · cases checked

/-- A whole number that passes is of bounded size, in whatever form it is given. -/
theorem Sound.writable_checkInt {value : Value} (sound : value.Sound) {n : Int} (checked : value.checkInt = .valid n) :
    Number.Writable n := by
  cases sound with
  | int writable =>
    cases checked
    exact writable
  | bool b =>
    cases checked
    cases b <;> exact Number.writable_of_word (by decide) (by decide)
  | float x => exact writable_checkWholeDouble checked
  | string text => exact writable_checkWholeText checked
  | null | list | object => cases checked

theorem Sound.writable_checkOptional {value : Value} (sound : value.Sound) {n : Option Int}
    (checked : checkOptional checkInt value = .valid n) : ∀ m ∈ n, Number.Writable m := by
  unfold checkOptional at checked
  split at checked
  · cases checked
    exact nofun
  · obtain ⟨m, valid, rfl⟩ := Checked.map_eq_valid_iff.mp checked
    rintro _ ⟨⟩
    exact sound.writable_checkInt valid

end Value

end CatalogSearch
