import CatalogSearch.Filter.Store
import Mathlib.Data.Finset.Card

/-! # Removers

A subscription gives a remover. The remover knows its listener, but not whether it was called before, and takes back
whichever registration of the listener it finds first. The ledger of a store keeps apart what the removers confuse: the
subscriptions are numbered, and it is written down whose remover was called. A listener is never registered more often
than it has subscriptions left, and as often as that at all times unless a remover is called again.
-/

namespace CatalogSearch

/-- A listener is subscribed, or the remover is called that the subscription with some number gave. -/
inductive Booking where
  | subscribe (listener : Nat)
  | cancel (number : Nat)
  deriving DecidableEq, Repr

/-- A store, the listeners of all subscriptions in order, and the numbers of those whose remover was called. -/
structure Ledger where
  store : Store
  subscribed : List Nat
  cancelled : List Nat
  known : ∀ number ∈ cancelled, number < subscribed.length

namespace Ledger

/-- The ledger of a store before the first subscription. Registrations that the store has already are kept in no
ledger. -/
def ofStore (store : Store) : Ledger where
  store
  subscribed := []
  cancelled := []
  known := by simp

/-- Carry out a booking. There is no remover of a subscription that was not made. -/
def step (ledger : Ledger) : Booking → Ledger
  | .subscribe listener => {
      store := ledger.store.register listener
      subscribed := ledger.subscribed ++ [listener]
      cancelled := ledger.cancelled
      known := fun number member => by
        rw [List.length_append]
        exact Nat.lt_add_right _ (ledger.known number member) }
  | .cancel number =>
    if made : number < ledger.subscribed.length then {
      store := ledger.store.remove ledger.subscribed[number]
      subscribed := ledger.subscribed
      cancelled := ledger.cancelled ++ [number]
      known := fun other member => by
        rcases List.mem_append.mp member with old | new
        · exact ledger.known other old
        · exact List.mem_singleton.mp new ▸ made }
    else ledger

def run (ledger : Ledger) (bookings : List Booking) : Ledger :=
  bookings.foldl step ledger

def live (ledger : Ledger) (listener : Nat) : Nat :=
  ledger.store.registered.count listener

/-- The subscriptions of a listener whose remover was not called. -/
def standing (ledger : Ledger) (listener : Nat) : Finset Nat :=
  (Finset.range ledger.subscribed.length).filter fun number =>
    ledger.subscribed[number]? = some listener ∧ number ∉ ledger.cancelled

/-- A remover of a listener is called that was called before, and there is a registration for it to take. -/
def TakesAnother (ledger : Ledger) (listener : Nat) (booking : Booking) : Prop :=
  ∃ number, booking = .cancel number ∧ ledger.subscribed[number]? = some listener ∧ number ∈ ledger.cancelled ∧
    0 < ledger.live listener

variable {ledger : Ledger}

theorem run_concat (ledger : Ledger) (bookings : List Booking) (booking : Booking) :
    ledger.run (bookings ++ [booking]) = (ledger.run bookings).step booking := by
  rw [run, List.foldl_concat, run]

theorem mem_standing {listener number : Nat} :
    number ∈ ledger.standing listener ↔
      ledger.subscribed[number]? = some listener ∧ number ∉ ledger.cancelled := by
  simp only [standing, Finset.mem_filter, Finset.mem_range, and_iff_right_iff_imp]
  exact fun stands => (List.getElem?_eq_some_iff.mp stands.1).1

private theorem store_step_cancel {owner number : Nat} (gave : ledger.subscribed[number]? = some owner) :
    (ledger.step (.cancel number)).store = ledger.store.remove owner := by
  obtain ⟨made, rfl⟩ := List.getElem?_eq_some_iff.mp gave
  rw [step, dif_pos made]

/-! ## One booking -/

theorem live_subscribe (ledger : Ledger) (owner listener : Nat) :
    (ledger.step (.subscribe owner)).live listener = ledger.live listener + if owner = listener then 1 else 0 := by
  simp [live, step, Store.register, List.count_append, List.count_singleton]

private theorem standing_subscribe (ledger : Ledger) (owner listener : Nat) :
    (ledger.step (.subscribe owner)).standing listener =
      if owner = listener then insert ledger.subscribed.length (ledger.standing listener)
      else ledger.standing listener := by
  have fresh : ledger.subscribed.length ∉ ledger.cancelled := fun member => Nat.lt_irrefl _ (ledger.known _ member)
  ext number
  rw [mem_standing, step]
  rcases lt_trichotomy number ledger.subscribed.length with old | rfl | beyond
  · rw [List.getElem?_append_left old]
    split
    · simp [mem_standing, old.ne]
    · rw [mem_standing]
  · rw [List.getElem?_concat_length]
    split
    · next same => simp [same, fresh]
    · next different => simp [mem_standing, different]
  · have none : (ledger.subscribed ++ [owner])[number]? = none := by
      rw [List.getElem?_eq_none_iff, List.length_append]
      exact beyond
    rw [none]
    split
    · simp [mem_standing, beyond.ne', beyond.le]
    · simp [mem_standing, beyond.le]

theorem card_standing_subscribe (ledger : Ledger) (owner listener : Nat) :
    ((ledger.step (.subscribe owner)).standing listener).card =
      (ledger.standing listener).card + if owner = listener then 1 else 0 := by
  have absent : ledger.subscribed.length ∉ ledger.standing listener := by simp [mem_standing]
  rw [standing_subscribe]
  split
  · rw [Finset.card_insert_of_notMem absent]
  · rfl

theorem live_cancel {owner number : Nat} (gave : ledger.subscribed[number]? = some owner) (listener : Nat) :
    (ledger.step (.cancel number)).live listener = ledger.live listener - if owner = listener then 1 else 0 := by
  rw [live, store_step_cancel gave, Store.remove, List.count_erase]
  simp [live]

theorem step_cancel_of_none {number : Nat} (none : ledger.subscribed[number]? = none) :
    ledger.step (.cancel number) = ledger := by
  rw [step, dif_neg (List.getElem?_eq_none_iff.mp none).not_gt]

theorem standing_cancel (ledger : Ledger) (number listener : Nat) :
    (ledger.step (.cancel number)).standing listener = (ledger.standing listener).erase number := by
  ext other
  rw [Finset.mem_erase, mem_standing, mem_standing]
  by_cases made : number < ledger.subscribed.length
  · rw [step, dif_pos made]
    simp only [List.mem_append, List.mem_singleton]
    tauto
  · have none : ledger.subscribed[number]? = none := List.getElem?_eq_none_iff.mpr (Nat.le_of_not_lt made)
    rw [step_cancel_of_none none, iff_and_self]
    rintro ⟨stands, _⟩ rfl
    cases none.symm.trans stands

/-- A remover that is called for the first time uses up a subscription of its listener. -/
theorem card_standing_cancel {owner number : Nat} (gave : ledger.subscribed[number]? = some owner)
    (first : number ∉ ledger.cancelled) (listener : Nat) :
    ((ledger.step (.cancel number)).standing listener).card + (if owner = listener then 1 else 0) =
      (ledger.standing listener).card := by
  rw [standing_cancel]
  split
  · next same => exact Finset.card_erase_add_one (mem_standing.mpr ⟨same ▸ gave, first⟩)
  · next different =>
    have absent : number ∉ ledger.standing listener := fun stands =>
      different (Option.some.inj (gave.symm.trans (mem_standing.mp stands).1))
    rw [Finset.erase_eq_of_notMem absent, Nat.add_zero]

/-- A remover that was called before leaves the subscriptions as they are. -/
theorem standing_cancel_again {number : Nat} (again : number ∈ ledger.cancelled) (listener : Nat) :
    (ledger.step (.cancel number)).standing listener = ledger.standing listener := by
  rw [standing_cancel, Finset.erase_eq_of_notMem fun stands => (mem_standing.mp stands).2 again]

/-- A listener that is registered at most as often as it has subscriptions left, besides some other registrations,
still is after a booking. -/
theorem live_step_le {others listener : Nat} (bounded : ledger.live listener ≤ others + (ledger.standing listener).card)
    (booking : Booking) :
    (ledger.step booking).live listener ≤ others + ((ledger.step booking).standing listener).card := by
  cases booking with
  | subscribe owner =>
    rw [live_subscribe, card_standing_subscribe]
    omega
  | cancel number =>
    cases gave : ledger.subscribed[number]? with
    | none => rwa [step_cancel_of_none gave]
    | some owner =>
      rw [live_cancel gave]
      by_cases again : number ∈ ledger.cancelled
      · rw [standing_cancel_again again]
        omega
      · have used := card_standing_cancel gave again listener
        omega

/-- A listener that is registered as often as it should be still is after a booking, unless a remover takes another
registration than its own. -/
theorem live_step_eq_iff {others listener : Nat}
    (asOften : ledger.live listener = others + (ledger.standing listener).card) (booking : Booking) :
    (ledger.step booking).live listener = others + ((ledger.step booking).standing listener).card ↔
      ¬ ledger.TakesAnother listener booking := by
  cases booking with
  | subscribe owner =>
    have harmless : ¬ ledger.TakesAnother listener (.subscribe owner) := by simp [TakesAnother]
    refine iff_of_true ?_ harmless
    rw [live_subscribe, card_standing_subscribe, asOften, Nat.add_assoc]
  | cancel number =>
    cases gave : ledger.subscribed[number]? with
    | none =>
      have harmless : ¬ ledger.TakesAnother listener (.cancel number) := by simp [TakesAnother, gave]
      rw [step_cancel_of_none gave]
      exact iff_of_true asOften harmless
    | some owner =>
      rw [live_cancel gave]
      by_cases again : number ∈ ledger.cancelled
      · have takes : ledger.TakesAnother listener (.cancel number) ↔ owner = listener ∧ 0 < ledger.live listener := by
          simp [TakesAnother, gave, again]
        rw [takes, standing_cancel_again again]
        split <;> omega
      · have harmless : ¬ ledger.TakesAnother listener (.cancel number) := by simp [TakesAnother, again]
        refine iff_of_true ?_ harmless
        have used := card_standing_cancel gave again listener
        omega

/-! ## All bookings -/

private theorem live_run_le (store : Store) (bookings : List Booking) (listener : Nat) :
    ((ofStore store).run bookings).live listener ≤
      store.registered.count listener + (((ofStore store).run bookings).standing listener).card := by
  induction bookings using List.reverseRecOn with
  | nil => exact Nat.le_add_right _ _
  | append_singleton done booking ih =>
    rw [run_concat]
    exact live_step_le ih booking

private theorem live_run_eq {store : Store} {bookings : List Booking} {listener : Nat}
    (harmless : ∀ done booking, done ++ [booking] <+: bookings →
      ¬ ((ofStore store).run done).TakesAnother listener booking) :
    ((ofStore store).run bookings).live listener =
      store.registered.count listener + (((ofStore store).run bookings).standing listener).card := by
  induction bookings using List.reverseRecOn with
  | nil => rfl
  | append_singleton done booking ih =>
    have before := ih fun earlier next reached => harmless earlier next (reached.trans (List.prefix_append ..))
    rw [run_concat]
    exact (live_step_eq_iff before booking).mpr (harmless done booking (List.prefix_refl _))

/-- A remover does not remember that it was called. Whatever bookings are made, a listener is never registered more
often than it has subscriptions left whose remover was not called, besides the registrations that it had before. And
it is registered as often as that all the time exactly if no remover of it is called again while there is any
registration of it. -/
theorem live_eq_iff (store : Store) (bookings : List Booking) (listener : Nat) :
    ((ofStore store).run bookings).live listener ≤
        store.registered.count listener + (((ofStore store).run bookings).standing listener).card ∧
      ((∀ done, done <+: bookings → ((ofStore store).run done).live listener =
          store.registered.count listener + (((ofStore store).run done).standing listener).card) ↔
        ∀ done booking, done ++ [booking] <+: bookings →
          ¬ ((ofStore store).run done).TakesAnother listener booking) := by
  refine ⟨live_run_le store bookings listener, fun asOften done booking reached => ?_, fun harmless done => ?_⟩
  · have before := asOften done ((List.prefix_append done [booking]).trans reached)
    have after := asOften (done ++ [booking]) reached
    rw [run_concat] at after
    exact (live_step_eq_iff before booking).mp after
  · exact fun reached => live_run_eq fun earlier booking sooner => harmless earlier booking (sooner.trans reached)

/-- Two subscriptions of one listener, and two calls of the first remover: no registration is left, although the
second remover was not called. -/
theorem second_call_takes_another :
    ¬ ∀ (store : Store) (bookings : List Booking) (listener : Nat), ((ofStore store).run bookings).live listener =
        store.registered.count listener + (((ofStore store).run bookings).standing listener).card := by
  intro law
  have broken := law (Store.ofCriteria {} {}) [.subscribe 0, .subscribe 0, .cancel 0, .cancel 0] 0
  revert broken
  decide +kernel

end Ledger

end CatalogSearch
