import CatalogSearch.Proofs.Filter.Update
import CatalogSearch.Proofs.Outcome
import CatalogSearch.Proofs.Value.Year

/-! # Tokens applied to the filters

Tokens take effect from left to right. A later token replaces what an earlier one set, so that tokens that are applied
in two parts leave the same criteria behind as all of them at once. They make one change together: it is announced
once, and not at all if no token has a filter of its own.
-/

namespace CatalogSearch

namespace Token

/-- The filters that a token sets. -/
def targets (token : Token) : List Filter :=
  match token.field with
  | "year" => [.yearFrom, .yearTo]
  | "language" => [.language]
  | "format" => [.fileType]
  | "genre" | "category" => [.genre]
  | "publisher" => [.publisher]
  | _ => []

/-- The value that a token sets its filters to: the number of a year, and else the text as it is. -/
def setting (token : Token) : Value :=
  match token.field, Value.yearOfText? token.value with
  | "year", .ok (some n) => .int n
  | _, _ => .string token.value

/-- A year can be read, or is no number at all. -/
def Readable (token : Token) : Prop :=
  token.field = "year" → ∃ year, Value.yearOfText? token.value = .ok year

def filters : List Filter :=
  [.yearFrom, .yearTo, .language, .fileType, .genre, .publisher]

private theorem targets_subset_filters (token : Token) : token.targets ⊆ filters := by
  rw [targets]
  split <;> decide

/-- A token sets all its filters to one value. -/
theorem Readable.changes {token : Token} (readable : token.Readable) :
    token.changes = .ok (token.targets.map (·, token.setting)) := by
  rw [Token.changes, targets, setting]
  split
  case h_1 year =>
    obtain ⟨number, read⟩ := readable year
    rw [year, read]
    cases number <;> rfl
  case h_7 => simp only [List.map_nil]
  all_goals
    next field =>
      rw [field]
      rfl

def settings (tokens : List Token) : List (Filter × Value) :=
  tokens.flatMap fun token => token.targets.map (·, token.setting)

private theorem settings_append (first second : List Token) : settings
    (first ++ second) = settings first ++ settings second :=
  List.flatMap_append

theorem settings_eq_nil_iff {tokens : List Token} : settings tokens = [] ↔ ∀ token ∈ tokens, token.targets = [] := by
  rw [settings, List.flatMap_eq_nil_iff]
  simp only [List.map_eq_nil_iff]

theorem allChanges_of_readable {tokens : List Token} (readable : ∀ token ∈ tokens, token.Readable) :
    allChanges tokens = .ok (settings tokens) := by
  have each : tokens.mapM changes = .ok (tokens.map fun token => token.targets.map (·, token.setting)) := by
    rw [mapM_eq_ok_iff, List.forall₂_map_right_iff, List.forall₂_same]
    exact fun token member => (readable token member).changes
  rw [allChanges, each, settings, List.flatMap_def]
  rfl

end Token

namespace Store

variable {store : Store}

theorem apply_applyTokens_of_idle {tokens : List Token} (readable : ∀ token ∈ tokens, token.Readable)
    (idle : ∀ token ∈ tokens, token.targets = []) : store.apply (.applyTokens tokens) = (store, none) := by
  apply apply_of_quiet
  rw [perform, withTokens, Token.allChanges_of_readable readable, Token.settings_eq_nil_iff.mpr idle]

theorem Passive.apply_applyTokens_of_set (passive : store.Passive) {tokens : List Token}
    (readable : ∀ token ∈ tokens, token.Readable) (sets : ∃ token ∈ tokens, token.targets ≠ []) :
    store.apply (.applyTokens tokens) = (store.announce (store.criteria.setAll (Token.settings tokens)), none) := by
  apply passive.apply_of_replace
  rw [perform, withTokens, Token.allChanges_of_readable readable]
  split
  · next empty =>
    obtain ⟨token, member, set⟩ := sets
    exact absurd (Token.settings_eq_nil_iff.mp (Except.ok.inj empty) token member) set
  · next found => rw [Except.ok.inj found]
  · next failed => cases failed

/-- Whether or not there is something to set, the criteria are those with everything set. -/
theorem Passive.exists_applyTokens (passive : store.Passive) {tokens : List Token}
    (readable : ∀ token ∈ tokens, token.Readable) :
    ∃ after, store.apply (.applyTokens tokens) = (after, none) ∧ after.Passive ∧
      after.criteria = store.criteria.setAll (Token.settings tokens) := by
  by_cases idle : ∀ token ∈ tokens, token.targets = []
  · refine ⟨store, apply_applyTokens_of_idle readable idle, passive, ?_⟩
    rw [Token.settings_eq_nil_iff.mpr idle]
    rfl
  · have sets : ∃ token ∈ tokens, token.targets ≠ [] := by
      push Not at idle
      exact idle
    exact ⟨_, passive.apply_applyTokens_of_set readable sets, passive.announce _, rfl⟩

/-- Tokens that are applied in two parts leave the same criteria behind as all of them at once. Then each filter holds
what the last token for it says, and its old value if there is none; filters that no token can set keep theirs. If some
token has a filter, every registration is told of the new snapshot once, in order. Otherwise nothing happens. -/
theorem applyTokens_append (passive : store.Passive) (first second : List Token)
    (readable : ∀ token ∈ first ++ second, token.Readable) :
    ∃ after, store.apply (.applyTokens (first ++ second)) = (after, none) ∧
      (∃ between last, store.apply (.applyTokens first) = (between, none) ∧
        between.apply (.applyTokens second) = (last, none) ∧ last.criteria = after.criteria) ∧
      (∀ filter, after.criteria.get filter = ((((first ++ second).filter (filter ∈ ·.targets)).getLast?).map
        Token.setting).getD (store.criteria.get filter)) ∧
      (∀ filter, filter ∉ Token.filters → after.criteria.get filter = store.criteria.get filter) ∧
      ((∃ token ∈ first ++ second, token.targets ≠ []) →
        after.deliveries = store.deliveries ++ store.registered.map (⟨·, after.current⟩)) ∧
      ((∀ token ∈ first ++ second, token.targets = []) → after = store) := by
  obtain ⟨readableFirst, readableSecond⟩ := List.forall_mem_append.mp readable
  obtain ⟨after, whole, _, criteria⟩ := passive.exists_applyTokens readable
  obtain ⟨between, firstDone, passiveBetween, betweenCriteria⟩ := passive.exists_applyTokens readableFirst
  obtain ⟨last, secondDone, _, lastCriteria⟩ := passiveBetween.exists_applyTokens readableSecond
  have holds (filter : Filter) : after.criteria.get filter =
      ((((first ++ second).filter (filter ∈ ·.targets)).getLast?).map Token.setting).getD
        (store.criteria.get filter) := by
    rw [criteria, Token.settings, Criteria.get_setAll_flatMap]
  refine ⟨after, whole, ⟨between, last, firstDone, secondDone, ?_⟩, holds, ?_, ?_, ?_⟩
  · rw [lastCriteria, betweenCriteria, criteria, Token.settings_append, Criteria.setAll_append]
  · intro filter other
    have untouched : (first ++ second).filter (filter ∈ ·.targets) = [] := by
      refine List.filter_eq_nil_iff.mpr fun token _ sets => other ?_
      exact token.targets_subset_filters (of_decide_eq_true sets)
    rw [holds, untouched]
    rfl
  · intro sets
    rw [passive.apply_applyTokens_of_set readable sets] at whole
    cases whole
    rfl
  · intro idle
    rw [apply_applyTokens_of_idle readable idle] at whole
    cases whole
    rfl

/-- Tokens with a year twice, two spellings of one filter, and two fields without a filter. -/
def mixedTokens : List Token :=
  [⟨"year", "1950"⟩, ⟨"narrator", "Kay"⟩, ⟨"genre", "Novel"⟩, ⟨"category", "Classics"⟩, ⟨"shelf", "9"⟩,
    ⟨"year", " 1960 "⟩, ⟨"language", "German"⟩]

private theorem readable_mixedTokens : ∀ token ∈ mixedTokens, token.Readable := by
  have clear : ∀ token ∈ mixedTokens, ¬Value.Misleading token.value := by decide +kernel
  exact fun token member _ => Value.exists_yearOfText?_iff.mpr (clear token member)

/-- What the last token for a filter says. -/
private theorem last_mixedTokens :
    (mixedTokens.filter (.yearFrom ∈ ·.targets)).getLast? = some ⟨"year", " 1960 "⟩ ∧
      (mixedTokens.filter (.yearTo ∈ ·.targets)).getLast? = some ⟨"year", " 1960 "⟩ ∧
      (mixedTokens.filter (.genre ∈ ·.targets)).getLast? = some ⟨"category", "Classics"⟩ ∧
      (mixedTokens.filter (.publisher ∈ ·.targets)).getLast? = none := by
  decide

/-- The tokens are applied in two parts, the second of which sets some filters of the first again. -/
theorem applyTokens_append_mixed :
    watchedStore.Passive ∧ (∀ token ∈ mixedTokens, token.Readable) ∧
      ∃ after, watchedStore.apply (.applyTokens mixedTokens) = (after, none) ∧
        (∃ between last, watchedStore.apply (.applyTokens (mixedTokens.take 3)) = (between, none) ∧
          between.apply (.applyTokens (mixedTokens.drop 3)) = (last, none) ∧ last.criteria = after.criteria) ∧
        after.criteria.get .yearFrom = .int 1960 ∧ after.criteria.get .yearTo = .int 1960 ∧
        after.criteria.get .genre = .string "Classics" ∧ after.criteria.get .publisher = .null ∧
        after.deliveries = [0, 1, 1].map (⟨·, after.current⟩) := by
  have registered : watchedStore.registered = [0, 1, 1] := by cbv
  have deliveries : watchedStore.deliveries = [] := by cbv
  have initial : watchedStore.criteria = {} := by cbv
  obtain ⟨lower, upper, genre, publisher⟩ := last_mixedTokens
  obtain ⟨after, whole, parts, holds, _, told, _⟩ := applyTokens_append passive_watchedStore
    (mixedTokens.take 3) (mixedTokens.drop 3) readable_mixedTokens
  rw [List.take_append_drop] at whole holds told
  rw [registered, deliveries] at told
  have year : Token.setting ⟨"year", " 1960 "⟩ = .int 1960 := rfl
  refine ⟨passive_watchedStore, readable_mixedTokens, after, whole, parts, ?_, ?_, ?_, ?_,
    told ⟨⟨"year", "1950"⟩, List.mem_cons_self, by decide⟩⟩
  · rw [holds, lower, Option.map_some, Option.getD_some, year]
  · rw [holds, upper, Option.map_some, Option.getD_some, year]
  · rw [holds, genre, Option.map_some, Option.getD_some]
    rfl
  · rw [holds, publisher, initial]
    rfl

end Store

end CatalogSearch
