import CatalogSearch.Proofs.Session.Run

/-! # Overtaken fetches

A fetch is overtaken by the next fetch and by a rejected navigation. From then on it is late: its generation is
behind the session's for good, so that its answer changes nothing, whatever it is and whenever it comes. Two
runs that differ in nothing but answers to a late fetch go through the same sessions and issue the same
queries. The two runs are compared through the run without these answers, with which each of them agrees step
by step.
-/

namespace CatalogSearch

/-- What can be seen right after an event: the session, and the fetches issued so far. -/
structure Moment (α : Type) where
  event : Event α
  session : Session α
  issued : List Fetch
  deriving Repr

namespace Exchange

variable {α : Type}

/-- The moments of a run. -/
def moments : Exchange α → List (Event α) → List (Moment α)
  | _, [] => []
  | exchange, event :: rest =>
    ⟨event, (exchange.step event).session, (exchange.step event).issued⟩ :: moments (exchange.step event) rest

/-- Whether an event overtakes the fetches before it: it issues a further one, or it is a rejected navigation. -/
def overtakes (exchange : Exchange α) : Event α → Bool
  | .call call => match (exchange.session.call call).2 with
    | .waiting _ => true
    | .done => call.navigates
    | .raised _ => false
  | .answer _ _ => false

/-- The fetch of some number belongs to an earlier generation. -/
def Late (exchange : Exchange α) (number : Nat) : Prop :=
  ∃ fetch, exchange.issued[number]? = some fetch ∧ fetch.generation < exchange.session.generation

theorem Late.step {exchange : Exchange α} {number : Nat} (late : exchange.Late number) (event : Event α) :
    (exchange.step event).Late number := by
  obtain ⟨fetch, issued, less⟩ := late
  refine ⟨fetch, exchange.issued_step_of_issued event issued, ?_⟩
  exact Nat.lt_of_lt_of_le less (exchange.generation_le_step event)

private theorem late_of_overtakes {exchange : Exchange α} (ordered : exchange.Ordered) {number : Nat}
    (made : number < exchange.issued.length) {event : Event α} (passed : exchange.overtakes event = true) :
    (exchange.step event).Late number := by
  cases event with
  | answer other answer => cases passed
  | call call =>
    refine ⟨_, exchange.issued_step_of_issued _ (List.getElem?_eq_getElem made), ?_⟩
    rw [step_call_session]
    have bound := ordered.bounded _ (List.getElem_mem made)
    have effect := exchange.session.call_effect call
    cases outcome : (exchange.session.call call).2 with
    | raised error => simp [overtakes, outcome] at passed
    | waiting fetch =>
      rw [outcome] at effect
      have fresh := effect.waiting.2
      omega
    | done =>
      have navigates : call.navigates = true := by simpa [overtakes, outcome] using passed
      rw [outcome] at effect
      have fresh := effect.done_of_navigates navigates
      omega

/-- The answer to a late fetch changes neither the session nor the issued fetches. -/
theorem Late.answer {exchange : Exchange α} {number : Nat} (late : exchange.Late number) (answer : Answer α) :
    (exchange.step (.answer number answer)).session = exchange.session ∧
      (exchange.step (.answer number answer)).issued = exchange.issued := by
  cases waits : exchange.waitingFetch? number with
  | none =>
    rw [step_answer_of_none answer waits]
    exact ⟨rfl, rfl⟩
  | some fetch =>
    rw [step_answer_of_some answer waits]
    obtain ⟨other, issued, less⟩ := late
    obtain rfl : fetch = other := by
      have found := (waitingFetch?_eq_some_iff.mp waits).2
      exact Option.some.inj (found.symm.trans issued)
    exact ⟨Session.receive_of_ne answer (Nat.ne_of_lt less), rfl⟩

/-- Two exchanges that differ at most in whether a late fetch still waits. -/
structure Agree (number : Nat) (left right : Exchange α) : Prop where
  late : left.Late number
  session : left.session = right.session
  issued : left.issued = right.issued
  waiting : ∀ other, other ≠ number → (other ∈ left.waiting ↔ other ∈ right.waiting)
  leftOrdered : left.Ordered
  rightOrdered : right.Ordered

theorem Agree.refl {exchange : Exchange α} (ordered : exchange.Ordered) {number : Nat}
    (late : exchange.Late number) : Agree number exchange exchange :=
  ⟨late, rfl, rfl, fun _ _ => Iff.rfl, ordered, ordered⟩

/-- One side may take in an answer to the late fetch. -/
theorem Agree.answer {number : Nat} {left right : Exchange α} (agree : Agree number left right)
    (answer : Answer α) : Agree number (left.step (.answer number answer)) right := by
  obtain ⟨session, issued⟩ := agree.late.answer answer
  refine ⟨agree.late.step _, session.trans agree.session, issued.trans agree.issued, ?_,
    agree.leftOrdered.step _, agree.rightOrdered⟩
  intro other different
  cases waits : left.waitingFetch? number with
  | none =>
    rw [step_answer_of_none answer waits]
    exact agree.waiting other different
  | some fetch =>
    rw [step_answer_of_some answer waits]
    exact (List.mem_erase_of_ne different).trans (agree.waiting other different)

private theorem Agree.waitingFetch? {number other : Nat} {left right : Exchange α}
    (agree : Agree number left right) (different : other ≠ number) :
    left.waitingFetch? other = right.waitingFetch? other := by
  apply Option.ext
  intro fetch
  rw [waitingFetch?_eq_some_iff, waitingFetch?_eq_some_iff, agree.waiting other different, agree.issued]

/-- Every other event leads both sides to the same session and the same issued fetches. -/
theorem Agree.step {number : Nat} {left right : Exchange α} (agree : Agree number left right) {event : Event α}
    (different : event.answers number = false) : Agree number (left.step event) (right.step event) := by
  have late := agree.late.step event
  have leftOrdered := agree.leftOrdered.step event
  have rightOrdered := agree.rightOrdered.step event
  have session := agree.session
  cases event with
  | call call =>
    cases outcome : (left.session.call call).2 with
    | waiting fetch =>
      have same := outcome
      rw [session] at same
      rw [step_call_of_waiting outcome, issue] at late leftOrdered ⊢
      rw [step_call_of_waiting same, issue] at rightOrdered ⊢
      refine ⟨late, by rw [session], by rw [agree.issued], ?_, leftOrdered, rightOrdered⟩
      intro other distinct
      simp only [List.mem_append, agree.waiting other distinct, agree.issued]
    | done | raised error =>
      have same := outcome
      rw [session] at same
      rw [step_call_of_not_waiting (by simp [outcome])] at late leftOrdered ⊢
      rw [step_call_of_not_waiting (by simp [same])] at rightOrdered ⊢
      exact ⟨late, by rw [session], agree.issued, agree.waiting, leftOrdered, rightOrdered⟩
  | answer answered answer =>
    have distinct : answered ≠ number := by simpa [Event.answers] using different
    cases waits : left.waitingFetch? answered with
    | none =>
      have same := (agree.waitingFetch? distinct).symm.trans waits
      rw [step_answer_of_none answer waits, step_answer_of_none answer same]
      exact agree
    | some fetch =>
      have same := (agree.waitingFetch? distinct).symm.trans waits
      rw [step_answer_of_some answer waits, settle] at late leftOrdered ⊢
      rw [step_answer_of_some answer same, settle] at rightOrdered ⊢
      refine ⟨late, by rw [session], agree.issued, ?_, leftOrdered, rightOrdered⟩
      intro other unlike
      rw [agree.leftOrdered.once.mem_erase_iff, agree.rightOrdered.once.mem_erase_iff,
        agree.waiting other unlike]

/-- A run goes through the moments of the same run without the answers to a late fetch. -/
theorem Agree.moments {number : Nat} {left right : Exchange α} (agree : Agree number left right)
    (events : List (Event α)) :
    (left.moments events).filter (!·.event.answers number) =
      right.moments (events.filter (!·.answers number)) := by
  induction events generalizing left right with
  | nil => rfl
  | cons event rest ih =>
    cases late : event.answers number with
    | false =>
      have after := agree.step late
      simp only [Exchange.moments, List.filter_cons, late, Bool.not_false, if_true, ih after, after.session,
        after.issued]
    | true =>
      cases event with
      | call call => cases late
      | answer answered answer =>
        obtain rfl : answered = number := by simpa [Event.answers] using late
        simp only [Exchange.moments, List.filter_cons, late, Bool.not_true, Bool.false_eq_true, if_false,
          ih (agree.answer answer)]

theorem Late.run {exchange : Exchange α} {number : Nat} (late : exchange.Late number) (events : List (Event α)) :
    (exchange.run events).Late number := by
  induction events generalizing exchange with
  | nil => exact late
  | cons event rest ih => exact ih (late.step event)

/-- Once a fetch was overtaken, its answer matters no more. Let the fetch be issued in the run `before`, and let
the next event overtake it. An answer to it, of any kind and at any later time, changes neither the session nor
the issued fetches; and two continuations that are the same without the answers to it go through the same
sessions and issue the same fetches, event by event. -/
theorem overtaken_answer_inert {settings : SessionSettings} {criteria : Criteria} {before : List (Event α)}
    {overtaking : Event α} {number : Nat}
    (made : number < ((opened settings criteria).run before).issued.length)
    (passed : ((opened settings criteria).run before).overtakes overtaking = true) :
    let exchange := (opened settings criteria).run (before ++ [overtaking])
    (∀ events answer,
      ((exchange.run events).step (.answer number answer)).session = (exchange.run events).session ∧
      ((exchange.run events).step (.answer number answer)).issued = (exchange.run events).issued) ∧
    ∀ left right : List (Event α), left.filter (!·.answers number) = right.filter (!·.answers number) →
      (exchange.moments left).filter (!·.event.answers number) =
        (exchange.moments right).filter (!·.event.answers number) := by
  intro exchange
  have ordered := (ordered_opened settings criteria : (opened settings criteria : Exchange α).Ordered).run before
  have late : exchange.Late number := by
    change ((opened settings criteria).run (before ++ [overtaking])).Late number
    rw [run_append]
    exact late_of_overtakes ordered made passed
  have agree : Agree number exchange exchange := by
    refine .refl ?_ late
    exact (ordered_opened settings criteria).run _
  refine ⟨fun events answer => (late.run events).answer answer, fun left right same => ?_⟩
  calc
    (exchange.moments left).filter (!·.event.answers number)
    _ = exchange.moments (left.filter (!·.answers number)) := agree.moments left
    _ = exchange.moments (right.filter (!·.answers number)) := by rw [same]
    _ = (exchange.moments right).filter (!·.event.answers number) := (agree.moments right).symm

theorem overtaken_answer_inert_submit :
    let exchange : Exchange Nat := (opened {} {}).run [.call (.submit "dune")]
    let overtaken := exchange.step (.call (.navigate { field := some "color", value := some "red" }))
    0 < exchange.issued.length ∧
      exchange.overtakes (.call (.navigate { field := some "color", value := some "red" })) = true ∧
      overtaken.session.rejected = true ∧
      (overtaken.moments [.answer 0 (.rows [1, 2]), .call (.submit "emma")]).filter (!·.event.answers 0) =
        (overtaken.moments [.call (.submit "emma"), .answer 0 (.failed "gone")]).filter
          (!·.event.answers 0) := by
  have made : 0 < ((opened {} {} : Exchange Nat).run [.call (.submit "dune")]).issued.length := by decide +kernel
  have passed : ((opened {} {} : Exchange Nat).run [.call (.submit "dune")]).overtakes
      (.call (.navigate { field := some "color", value := some "red" })) = true := by decide +kernel
  exact ⟨made, passed, by decide +kernel, (overtaken_answer_inert made passed).2 _ _ rfl⟩

end Exchange

end CatalogSearch
