import CatalogSearch.Proofs.Session.Transition

/-! # While a rejection stands

A rejected navigation drops the results and begins a generation of its own, so that the answers to all fetches
before it come too late. Until the next navigation no call fetches anything, and nothing but the criteria and the
categories can change.
-/

namespace CatalogSearch

namespace Session

variable {α : Type}

theorem navigate_of_rejection {request : Request} {rejection : Rejection}
    (rejects : request.rejection? = some rejection) (session : Session α) :
    session.navigate request = (session.turnedAway rejection, .done) := by
  unfold Request.rejection? at rejects
  split at rejects
  · next asked =>
    split at rejects
    · cases rejects
    · next found =>
      cases rejects
      simp only [navigate, asked, if_true, navigateLookup, found, turnedAway]
  · cases rejects

private theorem call_of_rejection {call : Call} {rejection : Rejection} (rejects : call.rejection? = some rejection)
    (session : Session α) : session.call call = (session.turnedAway rejection, .done) := by
  obtain ⟨request, asked, rejects⟩ := Option.bind_eq_some_iff.mp rejects
  cases call with
  | navigate given =>
    cases asked
    exact session.navigate_of_rejection rejects
  | openLink link =>
    cases read : Request.ofLink link with
    | error error => simp [Call.request?, read, Except.toOption] at asked
    | ok given =>
      obtain rfl : given = request := by simpa [Call.request?, read, Except.toOption] using asked
      simp only [call, read]
      exact session.navigate_of_rejection rejects
  | submit | update | resetFilters | setCategories | toggleCategory | loadMore => cases asked

/-- A call that is no navigation changes at most the criteria and the categories of a rejected session, whether or
not it raises, and issues nothing. -/
theorem call_of_rejected {session : Session α} {call : Call} (muted : session.rejected = true)
    (stays : call.request? = none) :
    (∃ criteria categories, (session.call call).1 = { session with criteria, categories }) ∧
      ∀ fetch, (session.call call).2 ≠ .waiting fetch := by
  rcases session.call_of_no_request stays with within | ⟨error, refused⟩
  · have effect := session.call_effect call
    generalize session.call call = result at effect ⊢
    obtain ⟨after, outcome⟩ := result
    dsimp only at effect ⊢
    -- Whatever fetches, or tries to, starts from a session that is not rejected.
    have active {base : Session α} (prepared : session.Prepared call.navigates base) : base.rejected = true := by
      rw [within] at prepared
      cases prepared
      exact muted
    cases effect with
    | noted _ prepared =>
      cases prepared with
      | refined criteria categories => exact ⟨⟨criteria, categories, rfl⟩, by simp⟩
    | paused | refused => exact ⟨⟨session.criteria, session.categories, rfl⟩, by simp⟩
    | misread =>
      rw [within]
      exact ⟨⟨_, session.categories, rfl⟩, by simp⟩
    | turnedAway rejects => cases within.symm.trans (Call.navigates_of_rejection? rejects)
    | opened prepared open' | unopened prepared open' => cases (active prepared).symm.trans open'
    | extended _ _ _ open' | unextended _ _ _ open' => cases muted.symm.trans open'
  · rw [refused]
    exact ⟨⟨session.criteria, session.categories, rfl⟩, by simp⟩

end Session

namespace Exchange

variable {α : Type}

/-- What holds of an exchange whose last navigation was rejected after some fetches had been issued. -/
structure Quarantined (exchange : Exchange α) (rejection : Rejection) (generation : Nat) (issued : List Fetch) :
    Prop where
  muted : exchange.session.rejected = true
  cleared : exchange.session.results = {}
  status : exchange.session.status = .failed
  error : exchange.session.error = some rejection.message
  settled : exchange.session.generation = generation
  silent : exchange.issued = issued
  stale : ∀ fetch ∈ issued, fetch.generation < generation

/-- A rejected navigation makes every fetch before it stale. -/
theorem Ordered.quarantined {exchange : Exchange α} (ordered : exchange.Ordered) {call : Call}
    {rejection : Rejection} (rejects : call.rejection? = some rejection) :
    (exchange.step (.call call)).Quarantined rejection (exchange.session.generation + 1) exchange.issued := by
  have turned := Session.call_of_rejection rejects exchange.session
  rw [step_call_of_not_waiting (by simp [turned]), turned]
  exact ⟨rfl, rfl, rfl, rfl, rfl, rfl, fun fetch member => Nat.lt_succ_of_le (ordered.bounded fetch member)⟩

theorem Quarantined.step {exchange : Exchange α} {rejection : Rejection} {generation : Nat} {issued : List Fetch}
    (quarantined : exchange.Quarantined rejection generation issued) {event : Event α}
    (stays : event.request? = none) : (exchange.step event).Quarantined rejection generation issued := by
  cases event with
  | call call =>
    obtain ⟨⟨criteria, categories, after⟩, silent⟩ := Session.call_of_rejected quarantined.muted stays
    rw [step_call_of_not_waiting silent, after]
    exact { quarantined with }
  | answer number answer =>
    cases waits : exchange.waitingFetch? number with
    | none =>
      rw [step_answer_of_none answer waits]
      exact quarantined
    | some fetch =>
      have member : fetch ∈ issued := by
        rw [← quarantined.silent]
        exact List.mem_of_getElem? (waitingFetch?_eq_some_iff.mp waits).2
      have late : fetch.generation ≠ exchange.session.generation := by
        rw [quarantined.settled]
        exact Nat.ne_of_lt (quarantined.stale fetch member)
      rw [step_answer_of_some answer waits, Session.receive_of_ne answer late]
      exact { quarantined with }

theorem Quarantined.run {exchange : Exchange α} {rejection : Rejection} {generation : Nat} {issued : List Fetch}
    (quarantined : exchange.Quarantined rejection generation issued) {events : List (Event α)}
    (stays : ∀ event ∈ events, event.request? = none) :
    (exchange.run events).Quarantined rejection generation issued := by
  induction events generalizing exchange with
  | nil => exact quarantined
  | cons event rest ih =>
    obtain ⟨first, later⟩ := List.forall_mem_cons.mp stays
    exact ih (quarantined.step first) later

/-- A rejected navigation quarantines a session. Whatever happened before, and whatever happens after it that is no
navigation, be it calls that raise or not or answers to any fetches, no further fetch is issued, there are no items,
there may be more of them, the session has failed and shows the text of the rejection as its error, and the
generation is the one that the rejection began. -/
theorem rejection_quarantines (settings : SessionSettings) (criteria : Criteria) (before after : List (Event α))
    {call : Call} {rejection : Rejection} (rejects : call.rejection? = some rejection)
    (stays : ∀ event ∈ after, event.request? = none) :
    let exchange := (opened settings criteria).run before
    let later := exchange.run (.call call :: after)
    later.issued = exchange.issued ∧ later.session.results.items = [] ∧ later.session.results.hasMore = true ∧
      later.session.status = .failed ∧ later.session.view.error = some rejection.message ∧
      later.session.generation = exchange.session.generation + 1 := by
  intro exchange later
  have ordered : exchange.Ordered := (ordered_opened settings criteria).run before
  have quarantined : later.Quarantined rejection (exchange.session.generation + 1) exchange.issued :=
    (ordered.quarantined rejects).run stays
  refine ⟨quarantined.silent, ?_, ?_, quarantined.status, quarantined.error, quarantined.settled⟩
  · rw [quarantined.cleared]
  · rw [quarantined.cleared]

/-- The navigation to a field that no book has. -/
def strayCall : Call :=
  .navigate { field := some "colour", value := some "red" }

/-- After a rejection: the answer to a fetch from before it, a search text that cannot be read, one that can, a page
that is asked for, a link that cannot be read, and filters that are reset. -/
def quarantinedEvents : List (Event Nat) :=
  [.answer 0 (.rows [1, 2]), .call (.submit "dune year:²"), .call (.submit "dune"), .call .loadMore,
    .call (.openLink "http://[x"), .call .resetFilters]

theorem rejection_quarantines_stray :
    let exchange : Exchange Nat := (opened { pageSize := 2 } {}).run [.call (.submit "emma")]
    let later := exchange.run (.call strayCall :: quarantinedEvents)
    strayCall.rejection? = some (.unknownField "colour") ∧
      (∀ event ∈ quarantinedEvents, event.request? = none) ∧ later.issued = exchange.issued ∧
      later.session.results.items = [] ∧ later.session.view.error = some "Unknown metadata field: colour" := by
  have rejects : strayCall.rejection? = some (.unknownField "colour") := by decide +kernel
  have stays : ∀ event ∈ quarantinedEvents, event.request? = none := by decide +kernel
  obtain ⟨issued, items, _, _, error, _⟩ :=
    rejection_quarantines { pageSize := 2 } {} [.call (.submit "emma")] quarantinedEvents rejects stays
  exact ⟨rejects, stays, issued, items, error⟩

end Exchange

end CatalogSearch
