import CatalogSearch.Proofs.Filter.Work
import Mathlib.Data.List.Permutation

/-! # Listeners that are left behind

A change is announced to every listener that is registered at that moment, and a listener may change the criteria
again while others wait for the announcement. The nested change is then announced first, to all, and those others are
told of the older one last. So a listener is left with an older snapshot exactly if, when the last change was made, it
was still to be told of an earlier one, or was not registered.
-/

namespace CatalogSearch.Store

/-- The snapshot that a listener was told of last. -/
def held? (store : Store) (listener : Nat) : Option Snapshot :=
  ((store.deliveries.filter (·.listener == listener)).getLast?).map Delivery.snapshot

/-- The notifications that were made since an earlier store. -/
def deliveriesSince (store earlier : Store) : List Delivery :=
  store.deliveries.drop earlier.deliveries.length

variable {store after moment : Store} {agenda rest left : List Task} {change : Command}

/-! ## The last change -/

private theorem Works.revision_le (works : Works store agenda after left) (sound : store.Sound agenda) :
    store.current.revision ≤ after.current.revision := by
  induction works with
  | refl => exact Nat.le_refl _
  | perform done _ ih =>
    have later := ih (sound.perform done)
    cases performed_of_perform done with
    | changed => exact Nat.le_of_succ_le later
    | arranged current => exact current ▸ later
  | refused _ _ ih => exact ih (sound.of_due rfl)
  | deliver answer _ ih => exact sound.notify.2.1 ▸ ih (sound.deliver answer)
  | register known _ ih => exact ih (sound.register known)
  | remove listener _ ih => exact ih (sound.remove listener)

/-- Where nothing is changed any more, what is due is delivered in order. -/
theorem Works.quiet (works : Works store agenda after []) (sound : store.Sound agenda)
    (still : after.current.revision = store.current.revision) :
    after.current = store.current ∧ after.deliveries = store.deliveries ++ due agenda := by
  generalize ended : ([] : List Task) = left at works
  induction works with
  | refl =>
    subst ended
    exact ⟨rfl, (List.append_nil _).symm⟩
  | perform done later ih =>
    have next := sound.perform done
    have bound := later.revision_le next
    cases performed_of_perform done with
    | changed =>
      -- A change would have begun a revision beyond the last one.
      rw [revision_replace] at bound
      omega
    | arranged current deliveries =>
      obtain ⟨same, told⟩ := ih next (current ▸ still) ended
      exact ⟨same.trans current, told.trans (deliveries ▸ rfl)⟩
  | refused _ _ ih => exact ih (sound.of_due rfl) still ended
  | deliver answer _ ih =>
    obtain ⟨deliveries, current, _, _⟩ := sound.notify
    obtain ⟨same, told⟩ := ih (sound.deliver answer) (current ▸ still) ended
    refine ⟨same.trans current, ?_⟩
    rw [told, deliveries, due_append, due_perform, List.nil_append, List.append_assoc]
    rfl
  | register known _ ih => exact ih (sound.register known) still ended
  | remove listener _ ih => exact ih (sound.remove listener) still ended

/-- Work comes to its last change with some agenda behind it: the change of `moment` makes the snapshot that is current
in the end. -/
structure LastChange (store : Store) (agenda : List Task) (after moment : Store) (change : Command)
    (rest : List Task) : Prop where
  reached : Works store agenda moment (.perform change :: rest)
  made : ∃ next tasks, moment.perform change = .ok (next, tasks) ∧
    moment.current.revision < next.current.revision ∧ next.current.revision = after.current.revision ∧
    Works next (tasks ++ rest) after []

/-- Work that is finished has changed nothing, or has a last change. -/
theorem Works.exists_lastChange (works : Works store agenda after []) (sound : store.Sound agenda) :
    after.current.revision = store.current.revision ∨
      ∃ moment change rest, LastChange store agenda after moment change rest := by
  generalize ended : ([] : List Task) = left at works
  induction works with
  | refl => exact .inl rfl
  | @perform store next after command tasks rest left done later ih =>
    rcases ih (sound.perform done) ended with same | ⟨moment, change, behind, reached, made⟩
    · subst ended
      cases performed_of_perform done with
      | changed => exact .inr ⟨store, command, rest, .refl _ _, _, _, done, Nat.lt_succ_self _, same.symm, later⟩
      | arranged current => exact .inl (same.trans (congrArg Snapshot.revision current))
    · exact .inr ⟨moment, change, behind, .perform done reached, made⟩
  | refused failed _ ih =>
    rcases ih (sound.of_due rfl) ended with same | ⟨moment, change, behind, reached, made⟩
    · exact .inl same
    · exact .inr ⟨moment, change, behind, .refused failed reached, made⟩
  | deliver answer _ ih =>
    rcases ih (sound.deliver answer) ended with same | ⟨moment, change, behind, reached, made⟩
    · exact .inl (same.trans (congrArg Snapshot.revision sound.notify.2.1))
    · exact .inr ⟨moment, change, behind, .deliver answer reached, made⟩
  | register known _ ih =>
    rcases ih (sound.register known) ended with same | ⟨moment, change, behind, reached, made⟩
    · exact .inl same
    · exact .inr ⟨moment, change, behind, .register known reached, made⟩
  | remove listener _ ih =>
    rcases ih (sound.remove listener) ended with same | ⟨moment, change, behind, reached, made⟩
    · exact .inl same
    · exact .inr ⟨moment, change, behind, .remove listener reached, made⟩

/-- The last change is announced to all who are registered then. After that only those are told of anything who were
still due to be told of an earlier change. -/
theorem LastChange.announced (last : LastChange store agenda after moment change rest) (sound : store.Sound agenda) :
    after.deliveries = moment.deliveries ++ moment.registered.map (⟨·, after.current⟩) ++ due rest := by
  obtain ⟨next, tasks, done, newer, same, later⟩ := last.made
  obtain ⟨current, told⟩ := later.quiet ((last.reached.sound sound).perform done) same.symm
  cases performed_of_perform done with
  | changed criteria =>
    rw [told, due_append, due_replace, current, ← List.append_assoc]
    rfl
  | arranged kept =>
    rw [kept] at newer
    exact absurd newer (Nat.lt_irrefl _)

/-- Whatever was told before the last change, or was due to be told then, is of an older snapshot. -/
theorem LastChange.older (last : LastChange store agenda after moment change rest) (sound : store.Sound agenda) :
    ∀ delivery ∈ moment.deliveries ++ due rest, delivery.snapshot ≠ after.current := by
  intro delivery member same
  obtain ⟨_, _, _, newer, made, _⟩ := last.made
  have before := last.reached.sound sound
  have bound : delivery.snapshot.revision ≤ moment.current.revision := by
    rcases List.mem_append.mp member with told | overdue
    · exact before.told delivery told
    · exact (before.due delivery overdue).2
  rw [same] at bound
  omega

/-! ## What listeners hold -/

private theorem held?_append {first second : List Delivery} (whole : store.deliveries = first ++ second)
    (listener : Nat) :
    store.held? listener = (((second.filter (·.listener == listener)).getLast?).or
      (first.filter (·.listener == listener)).getLast?).map Delivery.snapshot := by
  rw [held?, whole, List.filter_append, List.getLast?_append]

/-- The last notification of a registered listener in a round is of the snapshot of that round. -/
theorem getLast?_announced {registered : List Nat} {listener : Nat} (member : listener ∈ registered)
    (snapshot : Snapshot) :
    ((registered.map (Delivery.mk · snapshot)).filter (·.listener == listener)).getLast? =
      some ⟨listener, snapshot⟩ := by
  cases found : ((registered.map (Delivery.mk · snapshot)).filter (·.listener == listener)).getLast? with
  | none =>
    have absent := List.filter_eq_nil_iff.mp (List.getLast?_eq_none_iff.mp found) ⟨listener, snapshot⟩
      (List.mem_map_of_mem member)
    simp at absent
  | some delivery =>
    obtain ⟨announced, same⟩ := List.mem_filter.mp (List.mem_of_getLast? found)
    obtain ⟨other, _, rfl⟩ := List.mem_map.mp announced
    obtain rfl := beq_iff_eq.mp same
    rfl

/-- A listener of whose notifications none is of some snapshot does not hold it. -/
theorem held?_ne_of_forall {listener : Nat} {snapshot : Snapshot}
    (never : ∀ delivery ∈ store.deliveries, delivery.listener = listener → delivery.snapshot ≠ snapshot) :
    store.held? listener ≠ some snapshot := by
  intro held
  obtain ⟨delivery, last, rfl⟩ := Option.map_eq_some_iff.mp held
  obtain ⟨member, same⟩ := List.mem_filter.mp (List.mem_of_getLast? last)
  exact never delivery member (beq_iff_eq.mp same) rfl

/-- Whoever is registered at the last change holds the current snapshot in the end, unless a notification of an earlier
change was still due then. Nobody else holds it. -/
theorem LastChange.held_iff (last : LastChange store agenda after moment change rest) (sound : store.Sound agenda)
    {listener : Nat} :
    after.held? listener ≠ some after.current ↔
      listener ∉ moment.registered ∨ ∃ older, ⟨listener, older⟩ ∈ due rest := by
  have older := last.older sound
  have whole := last.announced sound
  by_cases registered : listener ∈ moment.registered
  · rw [held?_append whole]
    cases found : ((due rest).filter (·.listener == listener)).getLast? with
    | none =>
      have absent := List.filter_eq_nil_iff.mp (List.getLast?_eq_none_iff.mp found)
      rw [List.filter_append, List.getLast?_append, getLast?_announced registered]
      refine iff_of_false (absurd rfl) ?_
      rintro (stranger | ⟨snapshot, overdue⟩)
      · exact stranger registered
      · exact absent ⟨listener, snapshot⟩ overdue (beq_self_eq_true listener)
    | some delivery =>
      obtain ⟨member, same⟩ := List.mem_filter.mp (List.mem_of_getLast? found)
      obtain rfl := beq_iff_eq.mp same
      refine iff_of_true (fun held => ?_) (.inr ⟨delivery.snapshot, member⟩)
      exact older delivery (List.mem_append_right _ member) (Option.some.inj held)
  · refine iff_of_true (held?_ne_of_forall fun delivery member same => ?_) (.inl registered)
    rw [whole, List.append_assoc, List.mem_append, List.mem_append] at member
    rcases member with told | announced | overdue
    · exact older delivery (List.mem_append_left _ told)
    · obtain ⟨other, there, rfl⟩ := List.mem_map.mp announced
      exact absurd (same ▸ there) registered
    · exact older delivery (List.mem_append_right _ overdue)

/-! ## Runs -/

/-- Since an earlier store, every registered listener was told of the current snapshot or is due to be, unless it has
heard of nothing. -/
structure Announced (earlier store : Store) (agenda : List Task) : Prop where
  sound : store.Sound agenda
  grown : earlier.deliveries <+: store.deliveries
  heard : ∀ listener ∈ store.registered,
    ⟨listener, store.current⟩ ∈ store.deliveriesSince earlier ++ due agenda ∨
      ∀ delivery ∈ store.deliveriesSince earlier ++ due agenda, delivery.listener ≠ listener

variable {earlier : Store}

theorem Announced.perform {next : Store} {command : Command} {tasks : List Task}
    (announced : Announced earlier store (.perform command :: rest))
    (done : store.perform command = .ok (next, tasks)) : Announced earlier next (tasks ++ rest) := by
  obtain ⟨sound, grown, heard⟩ := announced
  refine ⟨sound.perform done, ?_, ?_⟩
  · cases performed_of_perform done with
    | changed => exact grown
    | arranged _ deliveries => exact deliveries ▸ grown
  · cases performed_of_perform done with
    | changed criteria =>
      intro listener registered
      rw [due_append, due_replace]
      refine .inl (List.mem_append_right _ (List.mem_append_left _ ?_))
      exact List.mem_map.mpr ⟨listener, registered, rfl⟩
    | arranged current deliveries known registered =>
      intro listener member
      have same : next.deliveriesSince earlier = store.deliveriesSince earlier := by
        rw [deliveriesSince, deliveries, deliveriesSince]
      rw [same, current, List.nil_append]
      rcases registered listener member with old | ⟨new, _⟩
      · exact heard listener old
      · refine .inr fun delivery told here => ?_
        have bound : delivery.listener < store.listeners.length := by
          rcases List.mem_append.mp told with past | overdue
          · exact sound.notified delivery (List.mem_of_mem_drop past)
          · exact (sound.due delivery overdue).1
        omega

theorem Announced.deliver {listener : Nat} {snapshot : Snapshot}
    (announced : Announced earlier store (.deliver listener snapshot :: rest)) :
    Announced earlier (store.notify listener snapshot).1 ((store.notify listener snapshot).2 ++ rest) := by
  obtain ⟨sound, grown, heard⟩ := announced
  obtain ⟨deliveries, current, registered, _⟩ := sound.notify
  have same : (store.notify listener snapshot).1.deliveriesSince earlier ++
      due ((store.notify listener snapshot).2 ++ rest) =
        store.deliveriesSince earlier ++ due (.deliver listener snapshot :: rest) := by
    rw [deliveriesSince, deliveries, List.drop_append_of_le_length grown.length_le, due_append, due_notify,
      List.nil_append, List.append_assoc]
    rfl
  refine ⟨?_, ?_, ?_⟩
  · obtain ⟨answer, given⟩ := store.exists_answer listener snapshot
    rw [given]
    exact sound.deliver answer
  · rw [deliveries]
    exact grown.trans (List.prefix_append _ _)
  · rw [registered, current, same]
    exact heard

/-- A run of the store announces every change to all who stay. -/
theorem Announced.run (announced : Announced earlier store agenda) (ran : store.run agenda = (after, none)) :
    Announced earlier after [] := by
  induction store, agenda using Store.run.induct with
  | case1 store =>
    rw [Store.run] at ran
    cases ran
    exact announced
  | case2 store command rest next tasks done ih =>
    rw [Store.run] at ran
    split at ran
    · next found =>
      cases done.symm.trans found
      exact ih (announced.perform done) ran
    · cases ran
  | case3 store command rest error failed =>
    rw [Store.run] at ran
    split at ran
    · next found => cases failed.symm.trans found
    · cases ran
  | case4 store listener snapshot rest ih =>
    rw [Store.run] at ran
    exact ih announced.deliver ran

/-- When a listener is left behind. Take any store that can come about and a command, with whatever the listeners make
of it: they may answer any notification with any commands, and register and remove each other at any moment. A listener
that is notified in the course of it and is registered in the end is left with an older snapshot than the current one
exactly if, when the last change was made, it was not registered or was still to be told of an earlier change. In a run
of the store, in which nobody who was removed comes back, it is told of the current snapshot in any case. -/
theorem left_behind_iff {store after : Store} {command : Command} (reached : store.Reached)
    (works : Works store [.perform command] after []) {listener : Nat} (stays : listener ∈ after.registered)
    (told : ∃ delivery ∈ after.deliveriesSince store, delivery.listener = listener) :
    (after.held? listener ≠ some after.current ↔
      ∃ moment change rest, LastChange store [.perform command] after moment change rest ∧
        (listener ∉ moment.registered ∨ ∃ older, ⟨listener, older⟩ ∈ due rest)) ∧
      (store.apply command = (after, none) → ⟨listener, after.current⟩ ∈ after.deliveriesSince store) := by
  have sound : store.Sound [.perform command] := reached.sound.of_due rfl
  obtain ⟨delivery, member, same⟩ := told
  constructor
  · obtain ⟨moment, change, rest, last⟩ : ∃ moment change rest,
        LastChange store [.perform command] after moment change rest := by
      refine (works.exists_lastChange sound).resolve_left fun still => ?_
      -- Without a change nobody is notified.
      have quiet : after.deliveries = store.deliveries := (works.quiet sound still).2.trans (List.append_nil _)
      rw [deliveriesSince, quiet, List.drop_length] at member
      cases member
    constructor
    · exact fun behind => ⟨moment, change, rest, last, (last.held_iff sound).mp behind⟩
    · rintro ⟨moment, change, rest, last, missed⟩
      exact (last.held_iff sound).mpr missed
  · intro ran
    have started : Announced store store [.perform command] := by
      refine ⟨sound, List.prefix_rfl, fun listener _ => .inr fun delivery member => ?_⟩
      rw [deliveriesSince, List.drop_length] at member
      cases member
    have heard := (started.run ran).heard listener stays
    rw [due, List.filterMap_nil, List.append_nil] at heard
    exact heard.resolve_right fun unheard => unheard delivery member same

/-- A store with two listeners, the first of which changes the language when it is notified for the first time. -/
def hastyStore : Store :=
  (ofCriteria {} {}).applyAll
    [.subscribe "hasty" .query [.update [("language", .string "German")]] 1, .subscribe "patient" .language [] 1]

/-- The store after a change of the search text, and whether that failed. -/
def hastyEnd : Store × Option StoreError :=
  hastyStore.apply (.update [("query", .string "dune")])

private theorem hastyEnd_told :
    hastyEnd.2 = none ∧ 1 ∈ hastyEnd.1.registered ∧
      (∃ delivery ∈ hastyEnd.1.deliveriesSince hastyStore, delivery.listener = 1) ∧
      hastyEnd.1.held? 1 ≠ some hastyEnd.1.current := by
  have registered : hastyEnd.1.registered = [0, 1] := by cbv
  have listeners : (hastyEnd.1.deliveriesSince hastyStore).map Delivery.listener = [0, 0, 1, 1] := by cbv
  have older : (hastyEnd.1.held? 1).map Snapshot.revision = some 1 := by cbv
  have newest : hastyEnd.1.current.revision = 2 := by cbv
  refine ⟨by cbv, registered ▸ by decide, List.mem_map.mp (listeners ▸ by decide), fun current => ?_⟩
  rw [current, Option.map_some, newest] at older
  cases older

theorem left_behind_iff_hasty :
    ⟨1, hastyEnd.1.current⟩ ∈ hastyEnd.1.deliveriesSince hastyStore ∧ hastyEnd.1.held? 1 ≠ some hastyEnd.1.current ∧
      ∃ moment change rest,
        LastChange hastyStore [.perform (.update [("query", .string "dune")])] hastyEnd.1 moment change rest ∧
          (1 ∉ moment.registered ∨ ∃ older, ⟨1, older⟩ ∈ due rest) := by
  obtain ⟨ends, stays, told, behind⟩ := hastyEnd_told
  have reached : hastyStore.Reached := (Reached.new {} {}).applyAll _
  have ran : hastyStore.apply (.update [("query", .string "dune")]) = (hastyEnd.1, none) := Prod.ext rfl ends
  obtain ⟨overtaken, newest⟩ := left_behind_iff reached (works_of_run ran) stays told
  exact ⟨newest ran, behind, overtaken.mp behind⟩

/-- Not every listener holds the current snapshot when all notifications have been made. -/
theorem hasty_listener_leaves_others_behind :
    ¬∀ (store after : Store) (command : Command), store.Reached → store.apply command = (after, none) →
      ∀ listener ∈ after.registered, (∃ delivery ∈ after.deliveriesSince store, delivery.listener = listener) →
        after.held? listener = some after.current := by
  intro always
  obtain ⟨ends, stays, told, behind⟩ := hastyEnd_told
  have reached : hastyStore.Reached := (Reached.new {} {}).applyAll _
  exact behind (always hastyStore _ _ reached (Prod.ext rfl ends) 1 stays told)

end CatalogSearch.Store
