import CatalogSearch.Proofs.Session.Run

/-! # The fetch under way

A session says that it is loading exactly while a fetch of its generation waits for an answer, as long as no
call raises and no such fetch crashes.
-/

namespace CatalogSearch.Exchange

variable {α : Type}

/-- No waiting fetch crashes. -/
def Intact (exchange : Exchange α) : Event α → Prop
  | .answer number .crashed => exchange.waitingFetch? number = none
  | _ => True

/-- Some fetch of the present generation waits for an answer. -/
def Pending (exchange : Exchange α) : Prop :=
  ∃ number fetch, exchange.waitingFetch? number = some fetch ∧ fetch.generation = exchange.session.generation

/-- The state of a session tells whether a fetch is under way. -/
structure Attended (exchange : Exchange α) : Prop where
  ordered : exchange.Ordered
  fetching_iff : exchange.session.status = .fetching ↔ exchange.Pending

theorem attended_opened (settings : SessionSettings) (criteria : Criteria) :
    (opened settings criteria : Exchange α).Attended where
  ordered := ordered_opened settings criteria
  fetching_iff := by
    constructor
    · intro loading
      cases loading
    · rintro ⟨number, fetch, waits, _⟩
      cases (waitingFetch?_eq_some_iff.mp waits).1

private theorem Attended.call {exchange : Exchange α} (attended : exchange.Attended) {call : Call}
    (calm : exchange.Calm (.call call)) : (exchange.step (.call call)).Attended := by
  have ordered := attended.ordered.step (.call call)
  rcases calm.call_cases with ⟨after, effect, step⟩ | ⟨after, fetch, effect, step⟩
  · rw [step] at ordered ⊢
    cases effect with
    | paused => exact ⟨ordered, attended.fetching_iff⟩
    | noted _ prepared =>
      cases prepared
      exact ⟨ordered, attended.fetching_iff⟩
    | turnedAway =>
      refine ⟨ordered, ?_⟩
      constructor
      · intro loading
        cases loading
      · rintro ⟨number, fetch, waits, current⟩
        have bound := attended.ordered.generation_le waits
        simp only [Session.turnedAway] at current
        omega
  · have loading : after.status = .fetching := by cases effect <;> rfl
    rw [step] at ordered ⊢
    refine ⟨ordered, fun _ => ⟨exchange.issued.length, fetch, ?_, effect.waiting.1⟩, fun _ => loading⟩
    exact attended.ordered.waitingFetch?_issue_iff.mpr (.inl ⟨rfl, rfl⟩)

private theorem Attended.answer {exchange : Exchange α} (attended : exchange.Attended) (number : Nat)
    (answer : Answer α) (intact : exchange.Intact (.answer number answer)) :
    (exchange.step (.answer number answer)).Attended := by
  have ordered := attended.ordered.step (.answer number answer)
  cases waits : exchange.waitingFetch? number with
  | none =>
    rw [step_answer_of_none answer waits]
    exact attended
  | some fetch =>
    rw [step_answer_of_some answer waits] at ordered ⊢
    refine ⟨ordered, ?_⟩
    by_cases current : fetch.generation = exchange.session.generation
    · constructor
      · intro loading
        cases answer with
        | rows rows => simp [settle, Session.receive_rows rows current] at loading
        | failed message => simp [settle, Session.receive_failed message current] at loading
        | crashed => cases waits.symm.trans intact
      · rintro ⟨other, later, found, same⟩
        simp only [settle, Session.receive_generation] at same
        exact absurd (same.trans current.symm) (attended.ordered.alone waits found)
    · rw [Session.receive_of_ne answer current]
      refine attended.fetching_iff.trans ?_
      constructor
      · rintro ⟨other, later, found, same⟩
        have different : other ≠ number := by
          rintro rfl
          exact current ((Option.some.inj (waits.symm.trans found)) ▸ same)
        exact ⟨other, later, attended.ordered.waitingFetch?_settle_iff.mpr ⟨different, found⟩, same⟩
      · rintro ⟨other, later, found, same⟩
        exact ⟨other, later, (attended.ordered.waitingFetch?_settle_iff.mp found).2, same⟩

theorem Attended.step {exchange : Exchange α} (attended : exchange.Attended) {event : Event α}
    (calm : exchange.Calm event) (intact : exchange.Intact event) : (exchange.step event).Attended := by
  cases event with
  | call call => exact attended.call calm
  | answer number answer => exact attended.answer number answer intact

end CatalogSearch.Exchange
