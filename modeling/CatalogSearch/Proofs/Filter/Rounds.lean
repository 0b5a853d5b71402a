import CatalogSearch.Proofs.Filter.Work
import Mathlib.Data.List.Permutation

/-! # Rounds of notifications

Of each change, what has been told and what is still due make the same list at all times, so that in the end every
registration that there was at the moment of the change has been told of it once, in order, and no other ever is.
-/

namespace CatalogSearch.Store

variable {store after : Store} {agenda left : List Task}

/-- The notifications of one change. -/
def ofRevision (revision : Nat) (deliveries : List Delivery) : List Delivery :=
  deliveries.filter (·.snapshot.revision == revision)

theorem ofRevision_append (revision : Nat) (first second : List Delivery) :
    ofRevision revision (first ++ second) = ofRevision revision first ++ ofRevision revision second :=
  List.filter_append ..

/-- Nobody has heard of a change before it is made. -/
theorem ofRevision_of_older {store : Store} {deliveries : List Delivery}
    (older : ∀ delivery ∈ deliveries, delivery.snapshot.revision ≤ store.current.revision) (criteria : Criteria) :
    ofRevision (store.replace criteria).1.current.revision deliveries = [] := by
  refine List.filter_eq_nil_iff.mpr fun delivery member => ?_
  have bound := older delivery member
  rw [revision_replace, beq_iff_eq]
  omega

/-- A round is announced under its own revision alone. -/
theorem ofRevision_due_replace (store : Store) (criteria : Criteria) (revision : Nat) :
    ofRevision revision (due (store.replace criteria).2) =
      if store.current.revision + 1 = revision then store.registered.map (⟨·, (store.replace criteria).1.current⟩)
      else [] := by
  rw [due_replace, ofRevision]
  split
  · next same =>
    apply List.filter_eq_self.mpr
    intro delivery member
    obtain ⟨listener, _, rfl⟩ := List.mem_map.mp member
    exact beq_iff_eq.mpr same
  · next different =>
    apply List.filter_eq_nil_iff.mpr
    intro delivery member
    obtain ⟨listener, _, rfl⟩ := List.mem_map.mp member
    exact fun same => different (beq_iff_eq.mp same)

/-- Once a change was made, those who have been told of it, followed by those who are due to be told, stay the same. -/
theorem Works.told_append_due (works : Works store agenda after left) (sound : store.Sound agenda) {revision : Nat}
    (made : revision ≤ store.current.revision) :
    ofRevision revision (after.deliveries ++ due left) = ofRevision revision (store.deliveries ++ due agenda) := by
  induction works with
  | refl => rfl
  | @perform store next after command tasks rest left done later ih =>
    have next := sound.perform done
    cases performed_of_perform done with
    | changed criteria =>
      have newer : store.current.revision + 1 ≠ revision := by omega
      rw [ih next (Nat.le_succ_of_le made), due_append, ofRevision_append, ofRevision_append,
        ofRevision_due_replace, if_neg newer, List.nil_append, ← ofRevision_append]
      rfl
    | arranged current deliveries =>
      rw [ih next (current ▸ made), deliveries]
      rfl
  | refused _ _ ih => exact ih (sound.of_due rfl) made
  | deliver answer _ ih =>
    obtain ⟨deliveries, current, _, _⟩ := sound.notify
    rw [ih (sound.deliver answer) (current ▸ made), deliveries, due_append, due_perform, List.nil_append,
      List.append_assoc]
    rfl
  | register known _ ih => exact ih (sound.register known) made
  | remove listener _ ih => exact ih (sound.remove listener) made

/-- No registration is skipped or served twice. Take any store that can come about, any commands, and any moment at
which one of them, or one that a listener gave, changes the criteria. Once the round of this change is over, whatever
listeners did in the meantime and do later, the notifications of it are one for each registration of that moment, in
order. -/
theorem told_exactly_once {store moment next after : Store} {commands : List Command} {change : Command}
    {tasks rest left : List Task} (reached : store.Reached)
    (before : Works store (commands.map .perform) moment (.perform change :: rest))
    (done : moment.perform change = .ok (next, tasks)) (changes : next.current.revision ≠ moment.current.revision)
    (later : Works next (tasks ++ rest) after left) (ended : left <:+ rest) :
    after.deliveries.filter (·.snapshot.revision == next.current.revision) =
      moment.registered.map (⟨·, next.current⟩) := by
  have sound : moment.Sound (.perform change :: rest) := before.sound (reached.sound.of_due (due_perform _))
  have kept := later.told_append_due (sound.perform done) (Nat.le_refl _)
  cases performed_of_perform done with
  | arranged current => exact absurd (congrArg Snapshot.revision current) changes
  | changed criteria =>
    have past : ofRevision (moment.replace criteria).1.current.revision moment.deliveries = [] :=
      ofRevision_of_older sound.told criteria
    have older : ∀ delivery ∈ due rest, delivery.snapshot.revision ≤ moment.current.revision :=
      fun delivery member => (sound.due delivery member).2
    have overdue : ofRevision (moment.replace criteria).1.current.revision (due rest) = [] :=
      ofRevision_of_older older criteria
    have settled : ofRevision (moment.replace criteria).1.current.revision (due left) = [] :=
      ofRevision_of_older (fun delivery member => older delivery ((ended.filterMap _).subset member)) criteria
    calc
      after.deliveries.filter (·.snapshot.revision == (moment.replace criteria).1.current.revision)
        = ofRevision (moment.replace criteria).1.current.revision (after.deliveries ++ due left) := by
          rw [ofRevision_append, settled, List.append_nil, ofRevision]
      _ = ofRevision (moment.replace criteria).1.current.revision
            (moment.deliveries ++ due ((moment.replace criteria).2 ++ rest)) := kept
      _ = moment.registered.map (⟨·, (moment.replace criteria).1.current⟩) := by
          rw [due_append, ofRevision_append, ofRevision_append, past, overdue, ofRevision_due_replace,
            if_pos (revision_replace moment criteria).symm, List.nil_append, List.append_nil]

/-- A store with a listener that is registered twice, behind one that is not idle: it takes back one registration of
the other and its own, has somebody else subscribe, and changes the criteria again. -/
def restlessStore : Store :=
  (ofCriteria {} {}).applyAll
    [.subscribe "restless" .query
        [.unsubscribe "double", .unsubscribe "restless", .subscribe "late" .query [.reset] 1,
          .update [("language", .string "German")]] 1,
      .subscribe "double" .language [] 2, .subscribe "last" .query [.unsubscribe "late"] 1]

def restlessChange : Command :=
  .update [("query", .string "dune")]

/-- The store right after the change, and the notifications that are due then. -/
def restlessNext : Store × List Task :=
  restlessStore.replace (restlessStore.criteria.set .query (.string "dune"))

theorem told_exactly_once_restless :
    restlessStore.perform restlessChange = .ok restlessNext ∧
      (restlessNext.1.run restlessNext.2).2 = none ∧ restlessStore.registered = [0, 1, 1, 2] ∧
      (restlessNext.1.run restlessNext.2).1.registered = [1, 2] ∧
      (restlessNext.1.run restlessNext.2).1.deliveries.filter (·.snapshot.revision == 1) =
        [0, 1, 1, 2].map (⟨·, restlessNext.1.current⟩) := by
  have done : restlessStore.perform restlessChange = .ok restlessNext := by cbv
  have finished : (restlessNext.1.run restlessNext.2).2 = none := by cbv
  have registered : restlessStore.registered = [0, 1, 1, 2] := by cbv
  have left : (restlessNext.1.run restlessNext.2).1.registered = [1, 2] := by cbv
  have older : restlessStore.current.revision = 0 := by cbv
  have made : restlessNext.1.current.revision = 1 := by cbv
  have reached : restlessStore.Reached := (Reached.new {} {}).applyAll _
  have later : Works restlessNext.1 (restlessNext.2 ++ []) (restlessNext.1.run restlessNext.2).1 [] := by
    rw [List.append_nil]
    exact works_of_run (Prod.ext rfl finished)
  have before : Works restlessStore ([restlessChange].map .perform) restlessStore [.perform restlessChange] :=
    .refl _ _
  have told : (restlessNext.1.run restlessNext.2).1.deliveries.filter
      (·.snapshot.revision == restlessNext.1.current.revision) =
        restlessStore.registered.map (⟨·, restlessNext.1.current⟩) :=
    told_exactly_once reached before done (by rw [made, older]; decide) later (List.suffix_refl [])
  rw [made, registered] at told
  exact ⟨done, finished, registered, left, told⟩

end CatalogSearch.Store
