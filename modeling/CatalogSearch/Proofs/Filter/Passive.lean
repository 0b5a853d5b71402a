import CatalogSearch.Proofs.Filter.Work

/-! # Listeners that only take note

Where no registered listener answers a notification with commands of its own, a command is over with what it does
itself: a change of the criteria is announced once for each registration, in order, and nothing else happens. Such a
store stays one as long as nobody else subscribes.
-/

namespace CatalogSearch

namespace Store

variable {store : Store}

/-- The registered listeners take note of what they are told, and neither fail nor give commands. -/
def Passive (store : Store) : Prop :=
  ∀ number ∈ store.registered, ∃ listener, store.listeners[number]? = some listener ∧ listener.script = []

/-- The store after a change of the criteria of which every registration was told. -/
def announce (store : Store) (criteria : Criteria) : Store :=
  let next := (store.replace criteria).1
  { next with deliveries := store.deliveries ++ store.registered.map (⟨·, next.current⟩) }

/-- The store after notifications that a listener has taken note of. -/
private theorem Passive.notify (passive : store.Passive) {number : Nat} (registered : number ∈ store.registered)
    (snapshot : Snapshot) :
    store.notify number snapshot = ({ store with deliveries := store.deliveries ++ [⟨number, snapshot⟩] }, []) := by
  obtain ⟨listener, found, mute⟩ := passive number registered
  have same : store.listeners.set number { listener with script := [] } = store.listeners := by
    obtain ⟨bound, here⟩ := List.getElem?_eq_some_iff.mp found
    have unchanged : { listener with script := [] } = store.listeners[number] := by
      rw [here, ← mute]
    rw [unchanged, List.set_getElem_self]
  rw [Store.notify, found]
  simp only [same, mute, List.map_nil]

/-- Notifications of listeners that only take note are recorded in order. -/
theorem Passive.run_deliver (passive : store.Passive) {numbers : List Nat} (registered : numbers ⊆ store.registered)
    (snapshot : Snapshot) :
    store.run (numbers.map (.deliver · snapshot)) =
      ({ store with deliveries := store.deliveries ++ numbers.map (⟨·, snapshot⟩) }, none) := by
  induction numbers generalizing store with
  | nil =>
    rw [List.map_nil, List.map_nil, List.append_nil, Store.run]
  | cons number rest ih =>
    obtain ⟨here, others⟩ := List.cons_subset.mp registered
    have still : Passive { store with deliveries := store.deliveries ++ [⟨number, snapshot⟩] } := passive
    rw [List.map_cons, Store.run, passive.notify here, List.nil_append, ih still others]
    rw [List.append_assoc, List.singleton_append, List.map_cons]

/-- A command is carried out, and then what it calls for. -/
theorem apply_eq (store : Store) (command : Command) :
    store.apply command = match store.perform command with
      | .ok (next, tasks) => next.run tasks
      | .error error => (store, some error) := by
  rw [apply, Store.run]
  split
  · next found => rw [found, List.append_nil]
  · next found => rw [found]

/-- A change of the criteria is over when everyone has been told. -/
theorem Passive.apply_of_replace (passive : store.Passive) {command : Command} {criteria : Criteria}
    (done : store.perform command = .ok (store.replace criteria)) :
    store.apply command = (store.announce criteria, none) := by
  rw [apply_eq, done]
  have still : (store.replace criteria).1.Passive := passive
  exact still.run_deliver (List.Subset.refl _) _

theorem apply_of_quiet {command : Command} {next : Store} (done : store.perform command = .ok (next, [])) :
    store.apply command = (next, none) := by
  rw [apply_eq, done]
  simp only [Store.run]

theorem apply_of_error {command : Command} {error : StoreError} (failed : store.perform command = .error error) :
    store.apply command = (store, some error) := by
  rw [apply_eq, failed]

/-! ## Stores stay passive -/

theorem Passive.announce (passive : store.Passive) (criteria : Criteria) : (store.announce criteria).Passive :=
  passive

/-- Fewer registrations of the same listeners. -/
theorem Passive.of_subset (passive : store.Passive) {next : Store} (same : next.listeners = store.listeners)
    (fewer : next.registered ⊆ store.registered) : next.Passive := by
  intro number member
  rw [same]
  exact passive number (fewer member)

private theorem Passive.apply_withTokens (passive : store.Passive) {command : Command} {tokens : List Token}
    (performs : store.perform command = store.withTokens tokens) : (store.apply command).1.Passive := by
  cases applied : store.withTokens tokens with
  | ok result =>
    rcases of_withTokens applied with same | ⟨criteria, same⟩
    · rw [apply_of_quiet (performs.trans (applied.trans (congrArg Except.ok same)))]
      exact passive
    · rw [passive.apply_of_replace (performs.trans (applied.trans (congrArg Except.ok same)))]
      exact passive.announce criteria
  | error error =>
    rw [apply_of_error (performs.trans applied)]
    exact passive

theorem Passive.subscribe (passive : store.Passive) (label : String) (watched : Filter) (times : Nat) :
    (store.apply (.subscribe label watched [] times)).1.Passive := by
  rw [apply_of_quiet rfl]
  intro number registered
  rcases List.mem_append.mp registered with old | new
  · obtain ⟨listener, found, mute⟩ := passive number old
    obtain ⟨bound, _⟩ := List.getElem?_eq_some_iff.mp found
    exact ⟨listener, (List.getElem?_append_left bound).trans found, mute⟩
  · obtain ⟨_, rfl⟩ := List.mem_replicate.mp new
    exact ⟨⟨label, watched, []⟩, List.getElem?_concat_length, rfl⟩

end Store

/-- Whoever subscribes with the command only takes note. -/
def Command.Passive : Command → Prop
  | .subscribe _ _ script _ => script = []
  | _ => True

namespace Store

variable {store : Store}

theorem Passive.apply (passive : store.Passive) {command : Command} (mute : command.Passive) :
    (store.apply command).1.Passive := by
  cases command with
  | update updates =>
    cases resolved : store.criteria.update updates with
    | ok criteria =>
      have done : store.perform (.update updates) = .ok (store.replace criteria) := by rw [perform, resolved]
      rw [passive.apply_of_replace done]
      exact passive.announce criteria
    | error error =>
      have failed : store.perform (.update updates) = .error (.unknownFilter error) := by rw [perform, resolved]
      rw [apply_of_error failed]
      exact passive
  | reset =>
    rw [passive.apply_of_replace rfl]
    exact passive.announce store.defaults
  | applyText | applyTokens => exact passive.apply_withTokens rfl
  | subscribe label watched script times =>
    obtain rfl : script = [] := mute
    exact passive.subscribe label watched times
  | unsubscribe label =>
    cases found : store.labels.lookup label with
    | some listener =>
      have done : store.perform (.unsubscribe label) = .ok (store.remove listener, []) := by rw [perform, found]
      rw [apply_of_quiet done]
      exact passive.of_subset rfl List.erase_subset
    | none =>
      have done : store.perform (.unsubscribe label) = .ok (store, []) := by rw [perform, found]
      rw [apply_of_quiet done]
      exact passive

/-- As long as those who subscribe only take note, it stays so, whatever else is done to the store. -/
theorem Passive.applyAll (passive : store.Passive) {commands : List Command}
    (mute : ∀ command ∈ commands, command.Passive) : (store.applyAll commands).Passive := by
  induction commands generalizing store with
  | nil => exact passive
  | cons command rest ih =>
    obtain ⟨first, others⟩ := List.forall_mem_cons.mp mute
    exact ih (passive.apply first) others

theorem passive_ofCriteria (defaults initial : Criteria) : (ofCriteria defaults initial).Passive := by
  intro number registered
  cases registered

end Store

end CatalogSearch
