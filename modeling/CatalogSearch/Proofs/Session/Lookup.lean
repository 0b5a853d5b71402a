import CatalogSearch.Proofs.Link.Value
import CatalogSearch.Proofs.Query.Compile
import CatalogSearch.Proofs.Session.Transition

/-! # The lookup in force

An accepted navigation to a lookup puts it in force until the next navigation. The lookup is a known field with a
clean value, and every query from then on asks for it, whatever else the search box, the filters and the categories
ask for.
-/

namespace CatalogSearch

/-- A lookup of a known field, by the name it is kept under, with a value that is not empty and clean. -/
structure Lookup.Proper (lookup : Lookup) : Prop where
  known : lookup.field ∈ Field.all.map Field.name
  given : lookup.value ≠ ""
  clean : Link.sanitize lookup.value = lookup.value

/-- The field and the value of a lookup make a condition, or none, that all rows of a query satisfy. -/
def Lookup.Governs (lookup : Lookup) (query : Query) : Prop :=
  ∃ clause, Field.clause lookup.field lookup.value = .ok clause ∧
    ∀ columns, query.predicate.holds columns = .ok true → ∀ made ∈ clause, made.holds columns = .ok true

theorem Field.mem_names_of_isKnown {name : String} (known : Field.isKnown name = true) :
    Text.lower name ∈ Field.all.map Field.name := by
  obtain ⟨field, found⟩ := Option.isSome_iff_exists.mp known
  rw [Field.find?] at found
  have same := List.find?_some found
  exact List.mem_map.mpr ⟨field, List.mem_of_find?_eq_some found, beq_iff_eq.mp same⟩

namespace Session

variable {α : Type}

private theorem lookupOf_eq_ok {field value : Option String} {lookup : Lookup}
    (accepted : lookupOf field value = .ok lookup) :
    ∃ name text, field = some name ∧ value = some text ∧ lookup = ⟨Text.lower name, Link.decode text⟩ ∧
      lookup.Proper := by
  unfold lookupOf at accepted
  split at accepted
  · next name text named valued =>
    split at accepted
    · next known =>
      dsimp only at accepted
      split at accepted
      · cases accepted
      · next given =>
        cases accepted
        refine ⟨name, text, (Option.filter_eq_some_iff.mp named).1, (Option.filter_eq_some_iff.mp valued).1, rfl, ?_⟩
        exact ⟨Field.mem_names_of_isKnown known, by simpa using given, Link.sanitize_decode text⟩
    · cases accepted
  · cases accepted

private theorem refresh_lookup (session : Session α) (page : Nat) :
    (session.refresh page).1.lookup = session.lookup := by
  cases muted : session.rejected with
  | true => rw [refresh_of_rejected page muted]
  | false =>
    cases compiled : session.compile page with
    | ok query => rw [refresh_of_ok muted compiled, fetching]
    | error error => rw [refresh_of_error muted compiled]

/-- An accepted navigation to a lookup puts it in force, even where no query can be made of it. -/
theorem navigate_lookup {request : Request} {lookup : Lookup} (asks : request.hasLookup = true)
    (accepted : lookupOf request.field request.value = .ok lookup) (session : Session α) :
    (session.navigate request).1.lookup = some lookup := by
  simp only [navigate, asks, if_true, navigateLookup, accepted, refresh_lookup]

private theorem call_lookup {call : Call} {request : Request} {lookup : Lookup}
    (requests : call.request? = some request)
    (asks : request.hasLookup = true) (accepted : lookupOf request.field request.value = .ok lookup)
    (session : Session α) : (session.call call).1.lookup = some lookup := by
  cases call with
  | navigate given =>
    cases requests
    exact session.navigate_lookup asks accepted
  | openLink link =>
    cases read : Request.ofLink link with
    | error error => simp [Call.request?, read, Except.toOption] at requests
    | ok given =>
      obtain rfl : given = request := by simpa [Call.request?, read, Except.toOption] using requests
      simp only [call, read]
      exact session.navigate_lookup asks accepted
  | submit | update | resetFilters | setCategories | toggleCategory | loadMore => cases requests

private theorem Effect.lookup_of_stays {session after : Session α} {call : Call} {outcome : Outcome}
    (effect : session.Effect call after outcome) (stays : call.navigates = false) : after.lookup = session.lookup := by
  have kept {base : Session α} (prepared : session.Prepared call.navigates base) : base.lookup = session.lookup := by
    rw [stays] at prepared
    cases prepared
    rfl
  cases effect with
  | noted _ prepared =>
    cases prepared
    rfl
  | opened prepared | unopened prepared =>
    have same := kept prepared
    exact same
  | misread =>
    have same := kept (session.prepared_cleared call.navigates)
    exact same
  | turnedAway rejects => cases stays.symm.trans (Call.navigates_of_rejection? rejects)
  | paused | extended | refused | unextended => rfl

/-- Nothing but a navigation replaces the lookup, whether or not it raises. -/
theorem call_keeps_lookup (session : Session α) {call : Call} (stays : call.request? = none) :
    (session.call call).1.lookup = session.lookup := by
  rcases session.call_of_no_request stays with within | ⟨error, refused⟩
  · exact (session.call_effect call).lookup_of_stays within
  · rw [refused]

private theorem receive_lookup (session : Session α) (fetch : Fetch) (answer : Answer α) :
    (session.receive fetch answer).lookup = session.lookup := by
  unfold receive
  split
  · rfl
  · cases answer <;> rfl

/-- A query that is made while a lookup is in force asks for it. -/
theorem governs_of_compile {session : Session α} {lookup : Lookup} {page : Nat} {query : Query}
    (force : session.lookup = some lookup) (clean : Link.sanitize lookup.value = lookup.value)
    (compiled : session.compile page = .ok query) : lookup.Governs query := by
  rw [compile, force] at compiled
  obtain ⟨clause, driven, selected⟩ := Criteria.holds_primaryClause_of_compile compiled
  rw [Criteria.primaryClause, clean] at driven
  exact ⟨clause, driven, selected⟩

end Session

namespace Exchange

variable {α : Type}

/-- A lookup is in force, and all fetches but some earlier ones ask for it. -/
structure Governed (exchange : Exchange α) (lookup : Lookup) (earlier : List Fetch) : Prop where
  force : exchange.session.lookup = some lookup
  issued : ∃ later, exchange.issued = earlier ++ later ∧ ∀ fetch ∈ later, lookup.Governs fetch.query

/-- A call that leaves a lookup in force adds at most one fetch, which asks for it. -/
theorem governed_step_call {exchange : Exchange α} {call : Call} {lookup : Lookup} {earlier later : List Fetch}
    (proper : lookup.Proper) (issued : exchange.issued = earlier ++ later)
    (asks : ∀ fetch ∈ later, lookup.Governs fetch.query)
    (force : (exchange.session.call call).1.lookup = some lookup) :
    (exchange.step (.call call)).Governed lookup earlier := by
  refine ⟨(congrArg Session.lookup (exchange.step_call_session call)).trans force, ?_⟩
  have effect := exchange.session.call_effect call
  cases outcome : (exchange.session.call call).2 with
  | waiting fetch =>
    rw [outcome] at effect
    rw [step_call_of_waiting outcome, issue, issued]
    refine ⟨later ++ [fetch], List.append_assoc _ _ _, fun other member => ?_⟩
    rcases List.mem_append.mp member with old | new
    · exact asks other old
    · rw [List.mem_singleton.mp new]
      exact Session.governs_of_compile force proper.clean effect.asks.2
  | done | raised error =>
    rw [step_call_of_not_waiting (by simp [outcome])]
    exact ⟨later, issued, asks⟩

theorem Governed.step {exchange : Exchange α} {lookup : Lookup} {earlier : List Fetch} (proper : lookup.Proper)
    (governed : exchange.Governed lookup earlier) {event : Event α} (stays : event.request? = none) :
    (exchange.step event).Governed lookup earlier := by
  obtain ⟨force, later, issued, asks⟩ := governed
  cases event with
  | call call =>
    exact governed_step_call proper issued asks ((exchange.session.call_keeps_lookup stays).trans force)
  | answer number answer =>
    refine ⟨?_, later, (exchange.step_answer_issued number answer).trans issued, asks⟩
    cases waits : exchange.waitingFetch? number with
    | none =>
      rw [step_answer_of_none answer waits]
      exact force
    | some fetch =>
      rw [step_answer_of_some answer waits]
      exact (Session.receive_lookup _ _ _).trans force

theorem Governed.run {exchange : Exchange α} {lookup : Lookup} {earlier : List Fetch} (proper : lookup.Proper)
    (governed : exchange.Governed lookup earlier) {events : List (Event α)}
    (stays : ∀ event ∈ events, event.request? = none) : (exchange.run events).Governed lookup earlier := by
  induction events generalizing exchange with
  | nil => exact governed
  | cons event rest ih =>
    obtain ⟨first, later⟩ := List.forall_mem_cons.mp stays
    exact ih (governed.step proper first) later

/-- A lookup stays in force until the next navigation. Take a navigation that asks for a field and a value and is not
rejected, at any moment of any run, and whatever happens after it that is no navigation, be it calls that raise or
not or any answers. Then the lookup is the field in small letters with the decoded value; it is a known field with a
clean value that is not empty. Every query from that navigation on asks for it: the rows that it selects satisfy the
condition of that field and value, if they make one. -/
theorem lookup_stays_in_force (settings : SessionSettings) (criteria : Criteria) (before after : List (Event α))
    {call : Call} {request : Request} (requests : call.request? = some request) (asks : request.hasLookup = true)
    (accepted : request.rejection? = none) (stays : ∀ event ∈ after, event.request? = none) :
    let exchange := (opened settings criteria).run before
    let later := exchange.run (.call call :: after)
    ∃ field value, request.field = some field ∧ request.value = some value ∧
      later.session.lookup = some ⟨Text.lower field, Link.decode value⟩ ∧
      Text.lower field ∈ Field.all.map Field.name ∧ Link.decode value ≠ "" ∧
      Link.sanitize (Link.decode value) = Link.decode value ∧
      ∃ issued, later.issued = exchange.issued ++ issued ∧ ∀ fetch ∈ issued,
        ∃ clause, Field.clause (Text.lower field) (Link.decode value) = .ok clause ∧
          ∀ columns, fetch.query.predicate.holds columns = .ok true →
            ∀ made ∈ clause, made.holds columns = .ok true := by
  intro exchange later
  obtain ⟨lookup, found⟩ : ∃ lookup, Session.lookupOf request.field request.value = .ok lookup := by
    rw [Request.rejection?, if_pos asks] at accepted
    split at accepted
    · next lookup found => exact ⟨lookup, found⟩
    · cases accepted
  obtain ⟨field, value, named, valued, rfl, proper⟩ := Session.lookupOf_eq_ok found
  have force := Session.call_lookup requests asks found exchange.session
  have started : (exchange.step (.call call)).Governed ⟨Text.lower field, Link.decode value⟩ exchange.issued :=
    governed_step_call proper (List.append_nil _).symm (by simp) force
  have governed : later.Governed ⟨Text.lower field, Link.decode value⟩ exchange.issued := started.run proper stays
  exact ⟨field, value, named, valued, governed.force, proper.known, proper.given, proper.clean, governed.issued⟩

/-- The navigation to the books of a publisher. -/
def publisherCall : Call :=
  .navigate { field := some "Publisher", value := some "-Ace-Books%E2%80%8B" }

/-- After a lookup: another search text, an answer, filters that are reset, and a category. -/
def refinedEvents : List (Event Nat) :=
  [.call (.submit "year:1984 dune"), .answer 1 (.rows [1, 2]), .call .resetFilters,
    .call (.toggleCategory "Classics")]

theorem lookup_stays_in_force_publisher :
    let exchange : Exchange Nat := (opened { pageSize := 2 } {}).run [.call (.submit "emma")]
    let later := exchange.run (.call publisherCall :: refinedEvents)
    later.session.lookup = some ⟨"publisher", "Ace Books"⟩ ∧
      ∃ issued, later.issued = exchange.issued ++ issued ∧ ∀ fetch ∈ issued, ∀ columns,
        fetch.query.predicate.holds columns = .ok true →
          Predicate.likeHolds "Ace Books" (columns "publisher") = .ok true := by
  intro exchange later
  have stays : ∀ event ∈ refinedEvents, event.request? = none := by decide +kernel
  have requests : publisherCall.request? =
      some { field := some "Publisher", value := some "-Ace-Books%E2%80%8B" } := rfl
  obtain ⟨field, value, named, valued, force, _, _, _, issued, later, asks⟩ :=
    lookup_stays_in_force { pageSize := 2 } {} [.call (.submit "emma")] refinedEvents requests rfl
      (by decide +kernel) stays
  cases named
  cases valued
  have small : Text.lower "Publisher" = "publisher" := by decide +kernel
  have decoded : Link.decode "-Ace-Books%E2%80%8B" = "Ace Books" := by decide +kernel
  rw [small, decoded] at force
  refine ⟨force, issued, later, fun fetch member columns selected => ?_⟩
  obtain ⟨clause, made, holds⟩ := asks fetch member
  rw [small, decoded] at made
  have clause : clause = some (.like "publisher" "Ace Books") := by
    cases made
    rfl
  subst clause
  exact holds columns selected _ rfl

end Exchange

end CatalogSearch
