import CatalogSearch.Filter.Store

/-! # Work on a store

A listener that is notified may do anything to the store: change the criteria again, subscribe itself or others, and
call removers. `Works` is a course of work in which nothing is said about what listeners do, and a run of the store is
one. Whatever happens, nobody is told of anything that is newer than the current snapshot.
-/

namespace CatalogSearch

/-- The notification that a task makes. -/
def Task.delivery? : Task → Option Delivery
  | .deliver listener snapshot => some ⟨listener, snapshot⟩
  | .perform _ => none

namespace Store

def due (agenda : List Task) : List Delivery :=
  agenda.filterMap Task.delivery?

def applyAll (store : Store) (commands : List Command) : Store :=
  commands.foldl (fun current command => (current.apply command).1) store

/-- Working off an agenda among surroundings that do what they like. A notified listener answers with any commands;
whoever gave a command that fails goes on without it; and at any moment a known listener may be registered once more,
and the remover of any listener be called. -/
inductive Works : Store → List Task → Store → List Task → Prop where
  | refl (store : Store) (agenda : List Task) : Works store agenda store agenda
  | perform {store next after : Store} {command : Command} {tasks rest left : List Task}
      (done : store.perform command = .ok (next, tasks)) (later : Works next (tasks ++ rest) after left) :
      Works store (.perform command :: rest) after left
  | refused {store after : Store} {command : Command} {error : StoreError} {rest left : List Task}
      (failed : store.perform command = .error error) (later : Works store rest after left) :
      Works store (.perform command :: rest) after left
  | deliver {store after : Store} {listener : Nat} {snapshot : Snapshot} {rest left : List Task}
      (answer : List Command)
      (later : Works (store.notify listener snapshot).1 (answer.map .perform ++ rest) after left) :
      Works store (.deliver listener snapshot :: rest) after left
  | register {store after : Store} {listener : Nat} {agenda left : List Task}
      (known : listener < store.listeners.length) (later : Works (store.register listener) agenda after left) :
      Works store agenda after left
  | remove {store after : Store} {agenda left : List Task} (listener : Nat)
      (later : Works (store.remove listener) agenda after left) : Works store agenda after left

/-- The stores that come about from a new one. Work may have been broken off on the way, when a listener failed. -/
inductive Reached : Store → Prop where
  | new (defaults initial : Criteria) : Reached (ofCriteria defaults initial)
  | worked {store after : Store} {commands : List Command} {left : List Task} (reached : Reached store)
      (works : Works store (commands.map .perform) after left) : Reached after

/-! ## What one step does -/

/-- What a command does at once: it changes the criteria and calls for notifications, or it changes at most who is
registered, where only new listeners come in. -/
inductive Performed (store : Store) : Store → List Task → Prop where
  | changed (criteria : Criteria) : Performed store (store.replace criteria).1 (store.replace criteria).2
  | arranged {next : Store} (current : next.current = store.current) (deliveries : next.deliveries = store.deliveries)
      (known : store.listeners.length ≤ next.listeners.length)
      (registered : ∀ listener ∈ next.registered, listener ∈ store.registered ∨
        store.listeners.length ≤ listener ∧ listener < next.listeners.length) : Performed store next []

theorem performed_of_perform {store next : Store} {command : Command} {tasks : List Task}
    (done : store.perform command = .ok (next, tasks)) : store.Performed next tasks := by
  have kept {other : Store} (current : other.current = store.current)
      (deliveries : other.deliveries = store.deliveries) (listeners : other.listeners = store.listeners)
      (registered : other.registered ⊆ store.registered) : store.Performed other [] :=
    .arranged current deliveries (Nat.le_of_eq (congrArg List.length listeners).symm)
      fun listener member => .inl (registered member)
  cases command with
  | update updates =>
    simp only [perform] at done
    split at done
    · next criteria _ =>
      cases done
      exact .changed criteria
    · cases done
  | reset =>
    cases done
    exact .changed store.defaults
  | applyText | applyTokens =>
    rcases of_withTokens done with same | ⟨criteria, same⟩
    · cases same
      exact kept rfl rfl rfl (List.Subset.refl _)
    · cases same
      exact .changed criteria
  | subscribe label watched script times =>
    cases done
    refine .arranged rfl rfl (by simp) fun listener member => ?_
    rcases List.mem_append.mp member with old | new
    · exact .inl old
    · obtain ⟨_, rfl⟩ := List.mem_replicate.mp new
      exact .inr (by simp)
  | unsubscribe label =>
    simp only [perform] at done
    split at done
    · cases done
      exact kept rfl rfl rfl List.erase_subset
    · cases done
      exact kept rfl rfl rfl (List.Subset.refl _)

private theorem notify_of_lt {store : Store} {listener : Nat} (known : listener < store.listeners.length)
    (snapshot : Snapshot) :
    (store.notify listener snapshot).1.deliveries = store.deliveries ++ [⟨listener, snapshot⟩] ∧
      (store.notify listener snapshot).1.current = store.current ∧
      (store.notify listener snapshot).1.registered = store.registered ∧
      (store.notify listener snapshot).1.listeners.length = store.listeners.length := by
  simp [notify, List.getElem?_eq_getElem known]

@[simp]
theorem revision_replace (store : Store) (criteria : Criteria) :
    (store.replace criteria).1.current.revision = store.current.revision + 1 := rfl

theorem due_append (first second : List Task) : due (first ++ second) = due first ++ due second :=
  List.filterMap_append

@[simp]
theorem due_perform (script : List Command) : due (script.map .perform) = [] := by
  simp [due, List.filterMap_map, Function.comp_def, Task.delivery?]

theorem due_notify (store : Store) (listener : Nat) (snapshot : Snapshot) :
    due (store.notify listener snapshot).2 = [] := by
  rw [notify]
  split
  · exact due_perform _
  · rfl

theorem due_replace (store : Store) (criteria : Criteria) :
    due (store.replace criteria).2 =
      store.registered.map (⟨·, (store.replace criteria).1.current⟩) := by
  simp [due, replace, List.filterMap_map, Function.comp_def, Task.delivery?]

/-! ## Runs are such work -/

theorem exists_answer (store : Store) (listener : Nat) (snapshot : Snapshot) :
    ∃ answer : List Command, (store.notify listener snapshot).2 = answer.map .perform := by
  rw [notify]
  split
  · exact ⟨_, rfl⟩
  · exact ⟨[], rfl⟩

/-- A run is work that is finished or that a failure breaks off. -/
theorem exists_works (store : Store) (agenda : List Task) :
    ∃ left, Works store agenda (store.run agenda).1 left ∧ ((store.run agenda).2 = none → left = []) := by
  induction store, agenda using Store.run.induct with
  | case1 store =>
    rw [Store.run]
    exact ⟨[], .refl _ _, fun _ => rfl⟩
  | case2 store command rest next tasks done ih =>
    rw [Store.run]
    split
    · next found =>
      cases done.symm.trans found
      obtain ⟨left, works, finished⟩ := ih
      exact ⟨left, .perform done works, finished⟩
    · next found => cases done.symm.trans found
  | case3 store command rest error failed =>
    rw [Store.run]
    split
    · next found => cases failed.symm.trans found
    · exact ⟨_, .refl _ _, fun finished => by cases finished⟩
  | case4 store listener snapshot rest ih =>
    rw [Store.run]
    obtain ⟨left, works, finished⟩ := ih
    obtain ⟨answer, same⟩ := store.exists_answer listener snapshot
    rw [same] at works finished ⊢
    exact ⟨left, .deliver answer works, finished⟩

theorem works_of_run {store after : Store} {agenda : List Task} (ran : store.run agenda = (after, none)) :
    Works store agenda after [] := by
  obtain ⟨left, works, finished⟩ := store.exists_works agenda
  rw [ran] at works finished
  exact finished rfl ▸ works

theorem Reached.applyAll {store : Store} (reached : store.Reached) (commands : List Command) :
    (store.applyAll commands).Reached := by
  induction commands generalizing store with
  | nil => exact reached
  | cons command rest ih =>
    obtain ⟨left, works, _⟩ := store.exists_works [.perform command]
    have worked : Works store ([command].map .perform) (store.run [.perform command]).1 left := works
    exact ih (.worked reached worked)

/-! ## Bookkeeping -/

/-- Every listener that is registered, was notified or is due to be is known, and nobody was told or is due to be told
of anything newer than the current snapshot. -/
structure Sound (store : Store) (agenda : List Task) : Prop where
  registered : ∀ listener ∈ store.registered, listener < store.listeners.length
  notified : ∀ delivery ∈ store.deliveries, delivery.listener < store.listeners.length
  told : ∀ delivery ∈ store.deliveries, delivery.snapshot.revision ≤ store.current.revision
  due : ∀ delivery ∈ Store.due agenda, delivery.listener < store.listeners.length ∧
    delivery.snapshot.revision ≤ store.current.revision

variable {store after : Store} {agenda rest left : List Task}

private theorem sound_ofCriteria (defaults initial : Criteria) : (ofCriteria defaults initial).Sound [] where
  registered := by simp [ofCriteria]
  notified := by simp [ofCriteria]
  told := by simp [ofCriteria]
  due := by simp [Store.due]

/-- What is asked for besides notifications does not matter. -/
theorem Sound.of_due (sound : store.Sound agenda) {other : List Task} (same : Store.due other = Store.due agenda) :
    store.Sound other where
  registered := sound.registered
  notified := sound.notified
  told := sound.told
  due := same ▸ sound.due

/-- What is left to do does not matter to a store. -/
theorem Sound.done (sound : store.Sound agenda) : store.Sound [] where
  registered := sound.registered
  notified := sound.notified
  told := sound.told
  due := by simp [Store.due]

theorem Sound.of_registered (sound : store.Sound agenda) {registered : List Nat}
    (known : ∀ listener ∈ registered, listener < store.listeners.length) :
    ({ store with registered } : Store).Sound agenda where
  registered := known
  notified := sound.notified
  told := sound.told
  due := sound.due

theorem Sound.register (sound : store.Sound agenda) {listener : Nat} (known : listener < store.listeners.length) :
    (store.register listener).Sound agenda := by
  refine sound.of_registered fun other member => ?_
  rcases List.mem_append.mp member with old | new
  · exact sound.registered other old
  · exact List.mem_singleton.mp new ▸ known

theorem Sound.remove (sound : store.Sound agenda) (listener : Nat) : (store.remove listener).Sound agenda :=
  sound.of_registered fun other member => sound.registered other (List.mem_of_mem_erase member)

theorem Sound.perform {next : Store} {command : Command} {tasks : List Task}
    (sound : store.Sound (.perform command :: rest)) (done : store.perform command = .ok (next, tasks)) :
    next.Sound (tasks ++ rest) := by
  have later : ∀ delivery ∈ Store.due rest, delivery.listener < store.listeners.length ∧
      delivery.snapshot.revision ≤ store.current.revision := sound.due
  cases performed_of_perform done with
  | changed criteria =>
    refine ⟨sound.registered, sound.notified, fun delivery member => ?_, fun delivery member => ?_⟩
    · exact Nat.le_succ_of_le (sound.told delivery member)
    · rw [due_append, due_replace] at member
      rcases List.mem_append.mp member with new | old
      · obtain ⟨listener, registered, rfl⟩ := List.mem_map.mp new
        exact ⟨sound.registered listener registered, Nat.le_refl _⟩
      · exact ⟨(later delivery old).1, Nat.le_succ_of_le (later delivery old).2⟩
  | arranged current deliveries known registered =>
    refine ⟨fun listener member => ?_, fun delivery member => ?_, ?_, fun delivery member => ?_⟩
    · rcases registered listener member with old | ⟨_, new⟩
      · exact Nat.lt_of_lt_of_le (sound.registered listener old) known
      · exact new
    · rw [deliveries] at member
      exact Nat.lt_of_lt_of_le (sound.notified delivery member) known
    · rw [current, deliveries]
      exact sound.told
    · rw [current]
      exact ⟨Nat.lt_of_lt_of_le (later delivery member).1 known, (later delivery member).2⟩

/-- A listener that is due to be notified is notified. -/
theorem Sound.notify {listener : Nat} {snapshot : Snapshot} (sound : store.Sound (.deliver listener snapshot :: rest)) :
    (store.notify listener snapshot).1.deliveries = store.deliveries ++ [⟨listener, snapshot⟩] ∧
      (store.notify listener snapshot).1.current = store.current ∧
      (store.notify listener snapshot).1.registered = store.registered ∧
      (store.notify listener snapshot).1.listeners.length = store.listeners.length :=
  notify_of_lt (sound.due ⟨listener, snapshot⟩ List.mem_cons_self).1 snapshot

/-- Whatever commands a notified listener answers with. -/
theorem Sound.deliver {listener : Nat} {snapshot : Snapshot} (sound : store.Sound (.deliver listener snapshot :: rest))
    (answer : List Command) : (store.notify listener snapshot).1.Sound (answer.map .perform ++ rest) := by
  have now := sound.due ⟨listener, snapshot⟩ List.mem_cons_self
  obtain ⟨deliveries, current, registered, length⟩ := sound.notify
  refine ⟨?_, fun delivery member => ?_, fun delivery member => ?_, fun delivery member => ?_⟩
  · rw [registered, length]
    exact sound.registered
  · rw [length]
    rw [deliveries] at member
    rcases List.mem_append.mp member with old | new
    · exact sound.notified delivery old
    · exact List.mem_singleton.mp new ▸ now.1
  · rw [current]
    rw [deliveries] at member
    rcases List.mem_append.mp member with old | new
    · exact sound.told delivery old
    · exact List.mem_singleton.mp new ▸ now.2
  · rw [due_append, due_perform, List.nil_append] at member
    rw [length, current]
    exact sound.due delivery (List.mem_cons_of_mem _ member)

theorem Works.sound (works : Works store agenda after left) (sound : store.Sound agenda) : after.Sound left := by
  induction works with
  | refl => exact sound
  | perform done _ ih => exact ih (sound.perform done)
  | refused _ _ ih => exact ih (sound.of_due rfl)
  | deliver answer _ ih => exact ih (sound.deliver answer)
  | register known _ ih => exact ih (sound.register known)
  | remove listener _ ih => exact ih (sound.remove listener)

theorem Reached.sound (reached : store.Reached) : store.Sound [] := by
  induction reached with
  | new defaults initial => exact sound_ofCriteria defaults initial
  | worked _ works ih => exact (works.sound (ih.of_due (due_perform _))).done

end Store

end CatalogSearch
