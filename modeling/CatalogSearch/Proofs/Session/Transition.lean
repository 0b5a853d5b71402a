import CatalogSearch.Proofs.Session.Navigation

/-! # One fetch for each transition

A call that does not raise issues one fetch, or none for one of three reasons: it is a navigation that is turned
away, the last navigation was and the call is no new one, or it asks for a further page that there is no reason
to ask for. The fetch asks for the query of the state that the call leaves behind. Each fetch and each rejected
navigation begins a generation, and nothing else does.
-/

namespace CatalogSearch

/-- The page that a call fetches where the last page counted is `last`. -/
def Call.page (last : Nat) : Call → Nat
  | .loadMore => last + 1
  | _ => 1

/-- Whether an event is a rejected navigation. -/
def Event.isRejection {α : Type} : Event α → Bool
  | .call asked => asked.rejection?.isSome
  | .answer _ _ => false

private theorem Call.page_of_ne {call : Call} (anew : call ≠ .loadMore) (last : Nat) : call.page last = 1 := by
  cases call with
  | loadMore => exact absurd rfl anew
  | navigate | openLink | submit | update | resetFilters | setCategories | toggleCategory => rfl

/-- Only navigations are rejected. -/
theorem Call.navigates_of_rejection? {call : Call} {rejection : Rejection}
    (rejects : call.rejection? = some rejection) : call.navigates = true := by
  cases call with
  | navigate | openLink => rfl
  | submit | update | resetFilters | setCategories | toggleCategory | loadMore => cases rejects

private theorem Call.rejection?_of_stays {call : Call} (stays : call.navigates = false) : call.rejection? = none := by
  cases rejects : call.rejection? with
  | none => rfl
  | some rejection => cases stays.symm.trans (navigates_of_rejection? rejects)

namespace Session

variable {α : Type}

/-- The reasons for which a call issues no fetch, where `muted` says whether the last navigation was rejected. -/
inductive Withholds (session : Session α) (muted : Prop) (call : Call) : Prop where
  | turnedAway (rejects : call.rejection?.isSome = true)
  | muted (standing : muted) (stays : call.navigates = false)
  | loading (asks : call = .loadMore) (busy : session.isLoading = true)
  | exhausted (asks : call = .loadMore) (last : session.results.hasMore = false)

theorem Effect.withholds {session after : Session α} {call : Call} (effect : session.Effect call after .done) :
    session.Withholds (session.rejected = true) call := by
  cases effect with
  | noted stays _ muted => exact .muted muted stays
  | paused asks stop =>
    rcases stop with busy | last | muted
    · exact .loading asks busy
    · exact .exhausted asks last
    · exact .muted muted (asks ▸ rfl)
  | turnedAway rejects => exact .turnedAway (by rw [rejects]; rfl)

private theorem Effect.not_withholds {session after : Session α} {call : Call} {fetch : Fetch}
    (effect : session.Effect call after (.waiting fetch)) : ¬session.Withholds (session.rejected = true) call := by
  intro withholds
  cases effect with
  | opened prepared active _ anew admitted =>
    cases withholds with
    | turnedAway rejects => cases rejects.symm.trans (congrArg Option.isSome admitted)
    | loading asks | exhausted asks => exact anew asks
    | muted standing stays =>
      -- What is not a navigation keeps the standing of the last one.
      rw [stays] at prepared
      cases prepared
      cases standing.symm.trans active
  | extended asks ready more active =>
    subst asks
    cases withholds with
    | turnedAway rejects => cases rejects
    | muted standing => cases standing.symm.trans active
    | loading _ busy => cases busy.symm.trans ready
    | exhausted _ last => cases last.symm.trans more

/-- A call that is done at once begins a generation only if it is a rejected navigation. -/
theorem Effect.generation_of_done {session after : Session α} {call : Call}
    (effect : session.Effect call after .done) :
    after.generation = session.generation + call.rejection?.isSome.toNat := by
  cases effect with
  | noted stays prepared =>
    rw [prepared.generation, Call.rejection?_of_stays stays]
    rfl
  | paused asks =>
    subst asks
    rfl
  | turnedAway rejects =>
    rw [rejects]
    rfl

/-- A fetch asks for the query of the session from then on: for its first page, or for the page after the last
one where that is what the call asks for. -/
theorem Effect.asks {session after : Session α} {call : Call} {fetch : Fetch}
    (effect : session.Effect call after (.waiting fetch)) :
    fetch.page = call.page session.page ∧ after.compile fetch.page = .ok fetch.query := by
  cases effect with
  | opened _ _ compiled anew => exact ⟨(Call.page_of_ne anew session.page).symm, compiled⟩
  | extended asks _ _ _ compiled =>
    subst asks
    exact ⟨rfl, compiled⟩

end Session

namespace Exchange

variable {α : Type}

/-- What a call issues, and whether it begins a generation, depends on whether there is a reason to withhold the
fetch. -/
theorem Calm.issues {exchange : Exchange α} {call : Call} (calm : exchange.Calm (.call call)) :
    (exchange.session.Withholds (exchange.session.rejected = true) call ∧
      (exchange.step (.call call)).issued = exchange.issued ∧
      (exchange.step (.call call)).session.generation =
        exchange.session.generation + call.rejection?.isSome.toNat) ∨
    (¬exchange.session.Withholds (exchange.session.rejected = true) call ∧
      (exchange.step (.call call)).session.generation = exchange.session.generation + 1 ∧
      ∃ fetch, (exchange.step (.call call)).issued = exchange.issued ++ [fetch] ∧
        fetch.page = call.page exchange.session.page ∧
        (exchange.step (.call call)).session.compile fetch.page = .ok fetch.query) := by
  rcases calm.call_cases with ⟨after, effect, step⟩ | ⟨after, fetch, effect, step⟩
  · rw [step]
    exact .inl ⟨effect.withholds, rfl, effect.generation_of_done⟩
  · rw [step]
    exact .inr ⟨effect.not_withholds, effect.waiting.2, fetch, rfl, effect.asks⟩

/-- Generations are counted by the issued fetches and some number of rejected navigations. -/
def Balanced (exchange : Exchange α) (rejections : Nat) : Prop :=
  exchange.session.generation = exchange.issued.length + rejections

theorem Balanced.step {exchange : Exchange α} {rejections : Nat} (balanced : exchange.Balanced rejections)
    {event : Event α} (calm : exchange.Calm event) :
    (exchange.step event).Balanced (rejections + event.isRejection.toNat) := by
  unfold Balanced at balanced ⊢
  cases event with
  | answer number answer =>
    rw [step_answer_generation, step_answer_issued]
    exact balanced
  | call call =>
    have counted : (Event.call call : Event α).isRejection = call.rejection?.isSome := rfl
    rcases calm.issues with ⟨_, issued, generation⟩ | ⟨ready, generation, fetch, issued, _⟩
    · rw [generation, issued, balanced, counted, Nat.add_assoc]
    · have admitted : call.rejection?.isSome = false := by
        rw [← Bool.not_eq_true]
        exact fun rejects => ready (.turnedAway rejects)
      rw [generation, issued, balanced, counted, admitted, List.length_append, List.length_singleton, Bool.toNat_false]
      omega

theorem Balanced.run {exchange : Exchange α} {rejections : Nat} (balanced : exchange.Balanced rejections)
    {events : List (Event α)} (calm : Throughout Calm exchange events) :
    (exchange.run events).Balanced (rejections + events.countP Event.isRejection) := by
  induction events generalizing exchange rejections with
  | nil => exact balanced
  | cons event rest ih =>
    have after := ih (balanced.step calm.1) calm.2
    have counted : (event :: rest).countP Event.isRejection =
        event.isRejection.toNat + rest.countP Event.isRejection := by
      rw [List.countP_cons, Nat.add_comm]
      cases event.isRejection <;> rfl
    rw [run_cons, counted, ← Nat.add_assoc]
    exact after

/-- Each transition issues exactly one fetch, for the state that it leaves behind. Whatever happened to a session
before, a call that does not raise issues no fetch if there is a reason to withhold it, and begins a generation then
only if it is a rejected navigation. Otherwise it issues one fetch and begins one generation; the fetch is for the
query that the session compiles from then on, for the page after the last one if the call asks for it and for the
first page if not. Over a run without raising calls, the generation is the number of fetches and of rejected
navigations. -/
theorem each_transition_fetches_once (settings : SessionSettings) (criteria : Criteria) (events : List (Event α)) :
    let exchange := (opened settings criteria).run events
    (∀ call, exchange.Calm (.call call) →
      let after := exchange.step (.call call)
      (exchange.session.Withholds (endsRejected events = true) call →
        after.issued = exchange.issued ∧
          after.session.generation = exchange.session.generation + call.rejection?.isSome.toNat) ∧
      (¬exchange.session.Withholds (endsRejected events = true) call →
        after.session.generation = exchange.session.generation + 1 ∧
          ∃ fetch, after.issued = exchange.issued ++ [fetch] ∧ fetch.page = call.page exchange.session.page ∧
            after.session.compile fetch.page = .ok fetch.query)) ∧
    (Throughout Calm (opened settings criteria) events →
      exchange.session.generation = exchange.issued.length + events.countP Event.isRejection) := by
  intro exchange
  refine ⟨fun call calm => ?_, fun calm => ?_⟩
  · rw [← run_opened_rejected settings criteria events]
    rcases calm.issues with ⟨withheld, issued, generation⟩ | ⟨ready, issues⟩
    · exact ⟨fun _ => ⟨issued, generation⟩, fun ready => absurd withheld ready⟩
    · exact ⟨fun withheld => absurd withheld ready, fun _ => issues⟩
  · have start : (opened settings criteria : Exchange α).Balanced 0 := rfl
    have balanced := start.run calm
    rwa [Nat.zero_add] at balanced

def fullPage : List (Event Nat) :=
  [.call (.submit "dune"), .answer 0 (.rows [1, 2])]

/-- After a full page, a navigation that is turned away and a change that is only noted. -/
def strayVisit : List (Event Nat) :=
  fullPage ++ [.call (.navigate { field := some "colour", value := some "red" }), .call .resetFilters]

theorem each_transition_fetches_once_fullPage :
    let exchange : Exchange Nat := (opened { pageSize := 2 } {}).run fullPage
    let visit : Exchange Nat := (opened { pageSize := 2 } {}).run strayVisit
    exchange.Calm (.call .loadMore) ∧ ¬exchange.session.Withholds (endsRejected fullPage = true) .loadMore ∧
      (exchange.step (.call .loadMore)).session.generation = 2 ∧
      (∃ fetch, (exchange.step (.call .loadMore)).issued = exchange.issued ++ [fetch] ∧ fetch.page = 2) ∧
      Throughout Calm (opened { pageSize := 2 } {}) strayVisit ∧
      visit.session.generation = visit.issued.length + 1 := by
  intro exchange visit
  have asks : exchange.Calm (.call .loadMore) := by decide +kernel
  have ready : ¬exchange.session.Withholds (endsRejected fullPage = true) .loadMore := by
    have busy : exchange.session.isLoading = false := by decide +kernel
    have more : exchange.session.results.hasMore = true := by decide +kernel
    intro withholds
    cases withholds with
    | turnedAway rejects => cases rejects
    | muted standing => exact absurd standing (by decide +kernel)
    | loading _ loads => cases loads.symm.trans busy
    | exhausted _ last => cases last.symm.trans more
  have first : exchange.session.generation = 1 := by decide +kernel
  have page : exchange.session.page = 1 := by decide +kernel
  obtain ⟨generation, fetch, issued, number, _⟩ :=
    ((each_transition_fetches_once { pageSize := 2 } {} fullPage).1 .loadMore asks).2 ready
  have calm : Throughout Calm (opened { pageSize := 2 } {}) strayVisit := by decide +kernel
  have balance := (each_transition_fetches_once { pageSize := 2 } {} strayVisit).2 calm
  have rejections : strayVisit.countP Event.isRejection = 1 := by decide +kernel
  rw [rejections] at balance
  refine ⟨asks, ready, generation.trans (by rw [first]), ⟨fetch, issued, ?_⟩, calm, balance⟩
  rw [number, page]
  rfl

end Exchange

end CatalogSearch
