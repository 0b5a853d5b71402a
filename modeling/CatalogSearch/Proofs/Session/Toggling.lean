import CatalogSearch.Proofs.Session.Run
import Mathlib.Algebra.Ring.Parity
import Mathlib.Data.List.Dedup

/-! # Categories that are toggled

A toggle takes a selected label away and puts any other label behind all that are selected. So after any number of
toggles a label is selected according to its start and to how often it was toggled, and those that were toggled stand
behind all others, in the order in which each was toggled last. Neither answers nor other calls come in between, unless
they replace the selection as a whole.
-/

namespace CatalogSearch

/-- The label that an event toggles. The empty label is never selected, so that toggling it does nothing. -/
def Event.toggles? {α : Type} : Event α → Option String
  | .call (.toggleCategory label) => if label = "" then none else some label
  | _ => none

/-- Whether an event replaces the whole selection. -/
def Event.selects {α : Type} : Event α → Bool
  | .call (.setCategories _) => true
  | _ => false

namespace Session

/-- What toggles make of a selection. A label is selected if either it was at the start or it was toggled an odd number
of times. The labels of the start that were never toggled come first, and then the others in the order of their last
toggles. -/
structure Toggled (start toggles selection : List String) : Prop where
  parity : ∀ label, label ∈ selection ↔ Xor (label ∈ start) (Odd (toggles.count label))
  distinct : selection.Nodup
  named : "" ∉ selection
  arranged : selection = start.filter (· ∉ toggles) ++ toggles.dedup.filter (· ∈ selection)

/-! ## One toggle -/

theorem filter_ne_of_not_mem {labels : List String} {label : String} (absent : label ∉ labels) :
    labels.filter (· != label) = labels := by
  refine List.filter_eq_self.mpr fun other member => ?_
  have different : other ≠ label := fun same => absent (same ▸ member)
  simpa using different

private theorem eraseDups_of_nodup {labels : List String} (distinct : labels.Nodup) : labels.eraseDups = labels := by
  induction labels with
  | nil => rfl
  | cons label rest ih =>
    obtain ⟨fresh, others⟩ := List.nodup_cons.mp distinct
    have kept : rest.filter (fun other => !other == label) = rest := filter_ne_of_not_mem fresh
    rw [List.eraseDups_cons, kept, ih others]

theorem distinctLabels_of_nodup {labels : List String} (distinct : labels.Nodup) (named : "" ∉ labels) :
    distinctLabels labels = labels := by
  rw [distinctLabels, filter_ne_of_not_mem named, eraseDups_of_nodup distinct]

/-- The selection after a toggle, in either case. -/
theorem mem_toggled_iff {selection : List String} {label other : String} :
    other ∈ toggled selection label ↔ Xor (other ∈ selection) (other = label) := by
  rw [xor_def, toggled]
  by_cases same : other = label
  · subst same
    by_cases member : other ∈ selection <;> simp [member]
  · split <;> simp [same]

theorem nodup_toggled {selection : List String} (distinct : selection.Nodup) (label : String) :
    (toggled selection label).Nodup := by
  unfold toggled
  split
  · exact distinct.filter _
  · next fresh =>
    refine List.nodup_append.mpr ⟨distinct, List.nodup_singleton label, fun other member last new => ?_⟩
    obtain rfl := List.mem_singleton.mp new
    rintro rfl
    exact fresh (List.contains_iff_mem.mpr member)

theorem not_mem_toggled {selection : List String} (named : "" ∉ selection) {label : String} (solid : label ≠ "") :
    "" ∉ toggled selection label := by
  intro member
  rcases mem_toggled_iff.mp member with ⟨before, _⟩ | ⟨same, _⟩
  · exact named before
  · exact solid same.symm

/-- Toggling the empty label leaves a selection as it is. -/
theorem distinctLabels_toggled_empty {selection : List String} (distinct : selection.Nodup) (named : "" ∉ selection) :
    distinctLabels (toggled selection "") = selection := by
  have added : toggled selection "" = selection ++ [""] := by simp [toggled, named]
  have dropped : distinctLabels (selection ++ [""]) = distinctLabels selection := by
    simp [distinctLabels, List.filter_append]
  rw [added, dropped, distinctLabels_of_nodup distinct named]

/-- The last place of a label that comes once more is the end. -/
theorem dedup_concat (toggles : List String) (label : String) :
    (toggles ++ [label]).dedup = toggles.dedup.filter (· != label) ++ [label] := by
  induction toggles with
  | nil => rfl
  | cons first rest ih =>
    rw [List.cons_append]
    by_cases later : first ∈ rest
    · rw [List.dedup_cons_of_mem (List.mem_append_left _ later), List.dedup_cons_of_mem later, ih]
    · rw [List.dedup_cons_of_notMem later]
      by_cases same : first = label
      · rw [List.dedup_cons_of_mem (by simp [same]), List.filter_cons_of_neg (by simp [same]), ih]
      · rw [List.dedup_cons_of_notMem (by simp [later, same]), List.filter_cons_of_pos (by simp [same]), ih,
          List.cons_append]

theorem Toggled.start {selection : List String} (distinct : selection.Nodup) (named : "" ∉ selection) :
    Toggled selection [] selection where
  parity label := by simp [xor_def]
  distinct := distinct
  named := named
  arranged := by simp

/-- One more toggle. -/
theorem Toggled.toggle {start toggles selection : List String} (before : Toggled start toggles selection)
    {label : String} (solid : label ≠ "") : Toggled start (toggles ++ [label]) (toggled selection label) := by
  refine ⟨fun other => ?_, nodup_toggled before.distinct label, not_mem_toggled before.named solid, ?_⟩
  · rw [mem_toggled_iff, before.parity, List.count_append]
    by_cases same : other = label
    · subst same
      rw [List.count_singleton_self, Nat.odd_add_one]
      simp only [xor_def]
      tauto
    · rw [List.count_singleton, beq_eq_false_iff_ne.mpr (Ne.symm same)]
      simp [same, xor_def]
  · -- Whether or not the label was selected, the labels other than it stay as they are arranged.
    have others : selection.filter (· != label) =
        start.filter (· ∉ toggles ++ [label]) ++
          (toggles.dedup.filter (· != label)).filter (· ∈ toggled selection label) := by
      conv_lhs => rw [before.arranged]
      rw [List.filter_append, List.filter_filter, List.filter_filter, List.filter_filter]
      congr 1
      · refine List.filter_congr fun other _ => ?_
        by_cases same : other = label <;> simp [same]
      · refine List.filter_congr fun other _ => ?_
        by_cases same : other = label <;> simp [same, mem_toggled_iff, xor_def, Bool.and_comm]
    rw [dedup_concat, List.filter_append, ← List.append_assoc, ← others]
    by_cases member : label ∈ selection
    · simp [toggled, member]
    · rw [filter_ne_of_not_mem member]
      simp [toggled, member]

/-! ## What a call does to the selection -/

variable {α : Type}

theorem refresh_categories (session : Session α) (page : Nat) :
    (session.refresh page).1.categories = session.categories := by
  cases muted : session.rejected with
  | true => rw [refresh_of_rejected page muted]
  | false =>
    cases compiled : session.compile page with
    | ok query => rw [refresh_of_ok muted compiled, fetching]
    | error error => rw [refresh_of_error muted compiled]

theorem submit_categories (session : Session α) (text : String) :
    (session.submit text).1.categories = session.categories := by
  cases read : Token.allChanges (Token.ofText text) with
  | ok changes => rw [submit_of_ok read, refresh_categories, withCriteria]
  | error error => rw [submit_of_error read, withText, withCriteria]

theorem navigate_categories (session : Session α) (request : Request) :
    (session.navigate request).1.categories = session.categories := by
  unfold navigate
  split
  · unfold navigateLookup
    split
    · rw [refresh_categories]
    · rfl
  · split
    · rw [submit_categories]
    · rw [refresh_categories, withCriteria]

/-- Only a call that is about categories changes the selection, and it does so whether or not it raises. -/
theorem call_categories (session : Session α) (call : Call) :
    (session.call call).1.categories = match call with
      | .setCategories labels => distinctLabels labels
      | .toggleCategory label => distinctLabels (toggled session.categories label)
      | _ => session.categories := by
  cases call with
  | navigate request => exact session.navigate_categories request
  | openLink link =>
    simp only [Session.call]
    split
    · exact session.navigate_categories _
    · rfl
  | submit text => exact session.submit_categories text
  | update updates =>
    simp only [Session.call]
    split
    · rw [refresh_categories, withCriteria]
    · rfl
  | resetFilters => simp only [Session.call, refresh_categories, withCriteria]
  | setCategories labels => simp only [Session.call, setCategories, refresh_categories]
  | toggleCategory label => simp only [Session.call, setCategories, refresh_categories]
  | loadMore =>
    simp only [Session.call]
    split
    · rfl
    · rw [refresh_categories]

private theorem receive_categories (session : Session α) (fetch : Fetch) (answer : Answer α) :
    (session.receive fetch answer).categories = session.categories := by
  unfold receive
  split
  · rfl
  · cases answer <;> rfl

end Session

namespace Exchange

variable {α : Type}

open Session (Toggled)

private theorem step_answer_categories (exchange : Exchange α) (number : Nat) (answer : Answer α) :
    (exchange.step (.answer number answer)).session.categories = exchange.session.categories := by
  cases waits : exchange.waitingFetch? number with
  | none => rw [step_answer_of_none answer waits]
  | some fetch => rw [step_answer_of_some answer waits, settle, Session.receive_categories]

/-- What an event does to a selection that it does not replace: it toggles one label or none. -/
theorem step_categories (exchange : Exchange α) (distinct : exchange.session.categories.Nodup)
    (named : "" ∉ exchange.session.categories) {event : Event α} (keeps : event.selects = false) :
    (event.toggles? = none ∧ (exchange.step event).session.categories = exchange.session.categories) ∨
      ∃ label, label ≠ "" ∧ event.toggles? = some label ∧
        (exchange.step event).session.categories = Session.toggled exchange.session.categories label := by
  cases event with
  | answer number answer => exact .inl ⟨rfl, exchange.step_answer_categories number answer⟩
  | call call =>
    rw [step_call_session, Session.call_categories]
    cases call with
    | toggleCategory label =>
      by_cases empty : label = ""
      · subst empty
        exact .inl ⟨rfl, Session.distinctLabels_toggled_empty distinct named⟩
      · refine .inr ⟨label, empty, if_neg empty, ?_⟩
        exact Session.distinctLabels_of_nodup (Session.nodup_toggled distinct label)
          (Session.not_mem_toggled named empty)
    | setCategories => cases keeps
    | navigate | openLink | submit | update | resetFilters | loadMore => exact .inl ⟨rfl, rfl⟩

private theorem toggled_run {start toggles : List String} {exchange : Exchange α}
    (before : Toggled start toggles exchange.session.categories) {events : List (Event α)}
    (keep : ∀ event ∈ events, event.selects = false) :
    Toggled start (toggles ++ events.filterMap Event.toggles?) (exchange.run events).session.categories := by
  induction events generalizing toggles exchange with
  | nil => simpa using before
  | cons event rest ih =>
    obtain ⟨here, later⟩ := List.forall_mem_cons.mp keep
    rw [run_cons]
    rcases exchange.step_categories before.distinct before.named here with ⟨none, same⟩ | ⟨label, solid, asks, stepped⟩
    · rw [List.filterMap_cons_none none]
      exact ih (same ▸ before) later
    · have after := stepped ▸ before.toggle solid
      rw [List.filterMap_cons_some asks, ← List.singleton_append, ← List.append_assoc]
      exact ih after later

/-- Toggling follows parity and recency. From a selection without repetitions and empty labels on, whatever is called
that does not replace the selection, whether it raises or not, and whatever is answered, a label is selected in the end
if either it was at the start or it was toggled an odd number of times, and not both; no label is selected twice; and
the labels of the start that were never toggled come first, in their order, and after them the others in the order of
their last toggles. -/
theorem selection_of_toggles {exchange : Exchange α} (distinct : exchange.session.categories.Nodup)
    (named : "" ∉ exchange.session.categories) {events : List (Event α)}
    (keep : ∀ event ∈ events, event.selects = false) :
    let start := exchange.session.categories
    let toggles := events.filterMap Event.toggles?
    let selection := (exchange.run events).session.categories
    (∀ label, label ∈ selection ↔ Xor (label ∈ start) (Odd (toggles.count label))) ∧ selection.Nodup ∧
      selection = start.filter (· ∉ toggles) ++ toggles.dedup.filter (· ∈ selection) := by
  intro start toggles selection
  have toggled : Toggled start toggles selection := toggled_run (Toggled.start distinct named) keep
  exact ⟨toggled.parity, toggled.distinct, toggled.arranged⟩

/-- A session with three categories and a fetch under way, whose last navigation was rejected. -/
def strandedExchange : Exchange Nat :=
  (opened {} {}).run
    [.call (.setCategories ["Fantasy", "Poetry", "Drama"]), .call (.navigate ⟨some "colour", some "red", none⟩)]

/-- Toggles with a late answer, a search text that cannot be read and the empty label among them. -/
def toggleEvents : List (Event Nat) :=
  [.call (.toggleCategory "Drama"), .answer 0 (.failed "late"), .call (.toggleCategory "Horror"),
    .call (.toggleCategory "Poetry"), .call (.submit "dune year:²"), .call (.toggleCategory ""),
    .call (.toggleCategory "Drama")]

theorem selection_of_toggles_stranded :
    strandedExchange.session.categories = ["Fantasy", "Poetry", "Drama"] ∧
      (∀ event ∈ toggleEvents, event.selects = false) ∧
      "Poetry" ∉ (strandedExchange.run toggleEvents).session.categories ∧
      (strandedExchange.run toggleEvents).session.categories = ["Fantasy", "Horror", "Drama"] := by
  have start : strandedExchange.session.categories = ["Fantasy", "Poetry", "Drama"] := by decide +kernel
  have keep : ∀ event ∈ toggleEvents, event.selects = false := by decide +kernel
  have toggles : toggleEvents.filterMap Event.toggles? = ["Drama", "Horror", "Poetry", "Drama"] := by decide +kernel
  have distinct : strandedExchange.session.categories.Nodup := start ▸ by decide
  have named : "" ∉ strandedExchange.session.categories := start ▸ by decide
  obtain ⟨parity, _, arranged⟩ := selection_of_toggles distinct named keep
  rw [start, toggles] at parity arranged
  have gone : "Poetry" ∉ (strandedExchange.run toggleEvents).session.categories := by
    rw [parity]
    decide
  have stays : "Drama" ∈ (strandedExchange.run toggleEvents).session.categories := by
    rw [parity]
    decide
  have comes : "Horror" ∈ (strandedExchange.run toggleEvents).session.categories := by
    rw [parity]
    decide
  refine ⟨start, keep, gone, arranged.trans ?_⟩
  have last : ["Drama", "Horror", "Poetry", "Drama"].dedup = ["Horror", "Poetry", "Drama"] := by decide
  rw [last]
  simp [gone, stays, comes]

end Exchange

end CatalogSearch
