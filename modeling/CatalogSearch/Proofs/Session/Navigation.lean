import CatalogSearch.Proofs.Session.Run

/-! # The last navigation

A session stands rejected exactly while its last navigation was turned away. Nothing but a navigation changes
that, whether or not it raises, and no answer does. A link that cannot be read is no navigation at all.
-/

namespace CatalogSearch

/-- The request that an event navigates to. -/
def Event.request? {α : Type} : Event α → Option Request
  | .call asked => asked.request?
  | .answer _ _ => none

namespace Session

variable {α : Type}

theorem refresh_rejected (session : Session α) (page : Nat) : (session.refresh page).1.rejected = session.rejected := by
  cases muted : session.rejected with
  | true => rw [refresh_of_rejected page muted, muted]
  | false =>
    cases compiled : session.compile page with
    | ok query =>
      rw [refresh_of_ok muted compiled]
      exact muted
    | error error =>
      rw [refresh_of_error muted compiled]
      exact muted

theorem submit_rejected (session : Session α) (text : String) :
    (session.submit text).1.rejected = session.rejected := by
  cases read : Token.allChanges (Token.ofText text) with
  | ok changes =>
    rw [submit_of_ok read, refresh_rejected]
    rfl
  | error error =>
    rw [submit_of_error read]
    rfl

theorem navigate_rejected (session : Session α) (request : Request) :
    (session.navigate request).1.rejected = request.rejection?.isSome := by
  unfold navigate Request.rejection?
  split
  · unfold navigateLookup
    cases lookupOf request.field request.value with
    | ok lookup => exact refresh_rejected _ _
    | error rejection => rfl
  · split
    · exact submit_rejected _ _
    · exact refresh_rejected _ _

/-- A navigation settles whether the session stands rejected, and no other call changes it. -/
theorem call_rejected (session : Session α) (call : Call) :
    (session.call call).1.rejected = match call.request? with
      | some request => request.rejection?.isSome
      | none => session.rejected := by
  cases call with
  | navigate request => exact session.navigate_rejected request
  | openLink link =>
    cases read : Request.ofLink link with
    | ok request =>
      simp only [call, Call.request?, read, Except.toOption]
      exact session.navigate_rejected request
    | error error => simp only [call, Call.request?, read, Except.toOption]
  | submit text => exact session.submit_rejected text
  | update updates =>
    simp only [call]
    split
    · exact refresh_rejected _ _
    · rfl
  | resetFilters | setCategories labels | toggleCategory label => exact refresh_rejected _ _
  | loadMore =>
    simp only [call]
    split
    · rfl
    · exact refresh_rejected _ _

/-- What is no navigation goes on with the search that is there. A link that cannot be read is no navigation either,
and is refused before anything changes. -/
theorem call_of_no_request (session : Session α) {call : Call} (stays : call.request? = none) :
    call.navigates = false ∨ ∃ error, session.call call = (session, .raised error) := by
  cases call with
  | navigate request => cases stays
  | openLink link =>
    cases read : Request.ofLink link with
    | ok request => simp [Call.request?, read, Except.toOption] at stays
    | error error => exact .inr ⟨.link error, by simp only [call, read]⟩
  | submit | update | resetFilters | setCategories | toggleCategory | loadMore => exact .inl rfl

private theorem receive_rejected (session : Session α) (fetch : Fetch) (answer : Answer α) :
    (session.receive fetch answer).rejected = session.rejected := by
  unfold receive
  split
  · rfl
  · cases answer <;> rfl

end Session

namespace Exchange

variable {α : Type}

/-- The request of the last navigation among some events. -/
def lastRequest? : List (Event α) → Option Request
  | [] => none
  | event :: rest => (lastRequest? rest).or event.request?

/-- Whether the last navigation among some events was rejected. -/
def endsRejected (events : List (Event α)) : Bool :=
  (lastRequest? events).any fun request => request.rejection?.isSome

private theorem step_rejected (exchange : Exchange α) (event : Event α) :
    (exchange.step event).session.rejected = match event.request? with
      | some request => request.rejection?.isSome
      | none => exchange.session.rejected := by
  cases event with
  | call call =>
    rw [step_call_session]
    exact exchange.session.call_rejected call
  | answer number answer =>
    cases waits : exchange.waitingFetch? number with
    | none =>
      rw [step_answer_of_none answer waits]
      rfl
    | some fetch =>
      rw [step_answer_of_some answer waits]
      exact Session.receive_rejected _ _ _

private theorem run_rejected (exchange : Exchange α) (events : List (Event α)) :
    (exchange.run events).session.rejected = match lastRequest? events with
      | some request => request.rejection?.isSome
      | none => exchange.session.rejected := by
  induction events generalizing exchange with
  | nil => rfl
  | cons event rest ih =>
    rw [run_cons, ih, step_rejected, lastRequest?]
    cases lastRequest? rest <;> rfl

/-- After any run, a new session stands rejected exactly if its last navigation was rejected. -/
theorem run_opened_rejected (settings : SessionSettings) (criteria : Criteria) (events : List (Event α)) :
    ((opened settings criteria).run events).session.rejected = endsRejected events := by
  rw [run_rejected, endsRejected]
  cases lastRequest? events <;> rfl

end Exchange

end CatalogSearch
