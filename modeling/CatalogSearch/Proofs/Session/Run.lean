import CatalogSearch.Proofs.Session.Effect

/-! # Runs of a session with its executor

A run starts with an exchange that has issued nothing and goes on event by event. `Throughout` says that each
event of a run meets a condition in the state in which it happens. Without any condition, the generations of the
issued fetches increase, none is beyond the session's, and a fetch waits for at most one answer, so that no two
waiting fetches are of one generation.
-/

namespace CatalogSearch

/-- A page of rows that was taken in, with the fetch that asked for it. -/
structure Page (α : Type) where
  fetch : Fetch
  rows : List α
  deriving Repr

/-- Whether a call raises. -/
def Outcome.raises : Outcome → Bool
  | .raised _ => true
  | _ => false

/-- Whether an event answers the fetch of some number. -/
def Event.answers {α : Type} (number : Nat) : Event α → Bool
  | .call _ => false
  | .answer other _ => other == number

namespace Exchange

variable {α : Type}

/-- A new exchange. Its criteria need not be the defaults; with them it is `start`. -/
def opened (settings : SessionSettings) (criteria : Criteria) : Exchange α where
  session := (Session.start settings).withCriteria criteria

@[simp] theorem run_nil (exchange : Exchange α) : exchange.run [] = exchange := rfl

@[simp] theorem run_cons (exchange : Exchange α) (event : Event α) (rest : List (Event α)) :
    exchange.run (event :: rest) = (exchange.step event).run rest := rfl

theorem run_append (exchange : Exchange α) (first second : List (Event α)) :
    exchange.run (first ++ second) = (exchange.run first).run second :=
  List.foldl_append

/-! ## One step -/

/-- The exchange after a call that issues a fetch. -/
def issue (exchange : Exchange α) (session : Session α) (fetch : Fetch) : Exchange α where
  session
  issued := exchange.issued ++ [fetch]
  waiting := exchange.waiting ++ [exchange.issued.length]

/-- The exchange after the answer to the fetch of some number. -/
def settle (exchange : Exchange α) (session : Session α) (number : Nat) : Exchange α where
  session
  issued := exchange.issued
  waiting := exchange.waiting.erase number

theorem step_call_session (exchange : Exchange α) (call : Call) :
    (exchange.step (.call call)).session = (exchange.session.call call).1 := by
  simp only [step, Exchange.call]
  split <;> rfl

theorem step_call_of_waiting {exchange : Exchange α} {call : Call} {fetch : Fetch}
    (issues : (exchange.session.call call).2 = .waiting fetch) :
    exchange.step (.call call) = exchange.issue (exchange.session.call call).1 fetch := by
  simp only [step, Exchange.call, issues, issue]

theorem step_call_of_not_waiting {exchange : Exchange α} {call : Call}
    (ends : ∀ fetch, (exchange.session.call call).2 ≠ .waiting fetch) :
    exchange.step (.call call) = { exchange with session := (exchange.session.call call).1 } := by
  simp only [step, Exchange.call]

theorem waitingFetch?_eq_some_iff {exchange : Exchange α} {number : Nat} {fetch : Fetch} :
    exchange.waitingFetch? number = some fetch ↔
      number ∈ exchange.waiting ∧ exchange.issued[number]? = some fetch := by
  simp only [waitingFetch?, List.contains_eq_mem, decide_eq_true_eq, Option.ite_none_right_eq_some]

theorem step_answer_of_none {exchange : Exchange α} {number : Nat} (answer : Answer α)
    (idle : exchange.waitingFetch? number = none) : exchange.step (.answer number answer) = exchange := by
  simp only [step, Exchange.answer, idle]

theorem step_answer_of_some {exchange : Exchange α} {number : Nat} {fetch : Fetch} (answer : Answer α)
    (waits : exchange.waitingFetch? number = some fetch) :
    exchange.step (.answer number answer) =
      exchange.settle (exchange.session.receive fetch answer) number := by
  simp only [step, Exchange.answer, waits, settle]

theorem step_answer_issued (exchange : Exchange α) (number : Nat) (answer : Answer α) :
    (exchange.step (.answer number answer)).issued = exchange.issued := by
  cases waits : exchange.waitingFetch? number with
  | none => rw [step_answer_of_none answer waits]
  | some fetch => rw [step_answer_of_some answer waits, settle]

theorem step_answer_generation (exchange : Exchange α) (number : Nat) (answer : Answer α) :
    (exchange.step (.answer number answer)).session.generation = exchange.session.generation := by
  cases waits : exchange.waitingFetch? number with
  | none => rw [step_answer_of_none answer waits]
  | some fetch => rw [step_answer_of_some answer waits, settle, Session.receive_generation]

theorem step_settings (exchange : Exchange α) (event : Event α) :
    (exchange.step event).session.settings = exchange.session.settings := by
  cases event with
  | call call =>
    rw [step_call_session]
    exact (exchange.session.call_effect call).settings
  | answer number answer =>
    cases waits : exchange.waitingFetch? number with
    | none => rw [step_answer_of_none answer waits]
    | some fetch => rw [step_answer_of_some answer waits, settle, Session.receive_settings]

theorem run_settings (exchange : Exchange α) (events : List (Event α)) :
    (exchange.run events).session.settings = exchange.session.settings := by
  induction events generalizing exchange with
  | nil => rfl
  | cons event rest ih => rw [run_cons, ih, step_settings]

/-- Issued fetches stay as they are, and later ones come behind them. -/
theorem issued_prefix_step (exchange : Exchange α) (event : Event α) :
    exchange.issued <+: (exchange.step event).issued := by
  cases event with
  | call call =>
    cases outcome : (exchange.session.call call).2 with
    | waiting fetch =>
      rw [step_call_of_waiting outcome]
      exact List.prefix_append _ _
    | done | raised error =>
      have same : (exchange.step (.call call)).issued = exchange.issued := by
        rw [step_call_of_not_waiting (by simp [outcome])]
      exact same ▸ List.prefix_rfl
  | answer number answer => exact exchange.step_answer_issued number answer ▸ List.prefix_rfl

theorem issued_step_of_issued (exchange : Exchange α) (event : Event α) {number : Nat} {fetch : Fetch}
    (issued : exchange.issued[number]? = some fetch) : (exchange.step event).issued[number]? = some fetch := by
  obtain ⟨later, longer⟩ := exchange.issued_prefix_step event
  rw [← longer, List.getElem?_append_left (List.getElem?_eq_some_iff.mp issued).1]
  exact issued

theorem generation_le_step (exchange : Exchange α) (event : Event α) :
    exchange.session.generation ≤ (exchange.step event).session.generation := by
  cases event with
  | call call =>
    rw [step_call_session]
    exact (exchange.session.call_effect call).generation_le
  | answer number answer => exact Nat.le_of_eq (exchange.step_answer_generation number answer).symm

/-! ## Conditions along a run -/

/-- Each event meets a condition in the state in which it happens. -/
def Throughout (allowed : Exchange α → Event α → Prop) : Exchange α → List (Event α) → Prop
  | _, [] => True
  | exchange, event :: rest => allowed exchange event ∧ Throughout allowed (exchange.step event) rest

/-- No call raises. How the executor answers is left open. -/
def Calm (exchange : Exchange α) : Event α → Prop
  | .call call => (exchange.session.call call).2.raises = false
  | .answer _ _ => True

instance (exchange : Exchange α) : (event : Event α) → Decidable (exchange.Calm event)
  | .call call => inferInstanceAs (Decidable ((exchange.session.call call).2.raises = false))
  | .answer _ _ => inferInstanceAs (Decidable True)

instance Throughout.decidable (allowed : Exchange α → Event α → Prop)
    [∀ exchange event, Decidable (allowed exchange event)] :
    (exchange : Exchange α) → (events : List (Event α)) → Decidable (Throughout allowed exchange events)
  | _, [] => inferInstanceAs (Decidable True)
  | exchange, event :: rest =>
    have := Throughout.decidable allowed (exchange.step event) rest
    inferInstanceAs (Decidable (allowed exchange event ∧ Throughout allowed (exchange.step event) rest))

/-- A call that does not raise is done at once, or issues a fetch. -/
theorem Calm.call_cases {exchange : Exchange α} {call : Call} (calm : exchange.Calm (.call call)) :
    (∃ after, exchange.session.Effect call after .done ∧
      exchange.step (.call call) = { exchange with session := after }) ∨
    ∃ after fetch, exchange.session.Effect call after (.waiting fetch) ∧
      exchange.step (.call call) = exchange.issue after fetch := by
  have effect := exchange.session.call_effect call
  cases outcome : (exchange.session.call call).2 with
  | raised error => simp [Calm, outcome, Outcome.raises] at calm
  | done =>
    rw [outcome] at effect
    exact .inl ⟨_, effect, step_call_of_not_waiting (by simp [outcome])⟩
  | waiting fetch =>
    rw [outcome] at effect
    exact .inr ⟨_, fetch, effect, step_call_of_waiting outcome⟩

theorem Throughout.append {allowed : Exchange α → Event α → Prop} {exchange : Exchange α}
    {first second : List (Event α)} :
    Throughout allowed exchange (first ++ second) ↔
      Throughout allowed exchange first ∧ Throughout allowed (exchange.run first) second := by
  induction first generalizing exchange with
  | nil => simp only [List.nil_append, Throughout, run_nil, true_and]
  | cons event rest ih => simp only [List.cons_append, Throughout, run_cons, ih, and_assoc]

/-! ## The order of generations -/

/-- The bookkeeping of issued fetches that every exchange keeps. -/
structure Ordered (exchange : Exchange α) : Prop where
  increasing : exchange.issued.Pairwise fun earlier later => earlier.generation < later.generation
  bounded : ∀ fetch ∈ exchange.issued, fetch.generation ≤ exchange.session.generation
  once : exchange.waiting.Nodup
  issued : ∀ number ∈ exchange.waiting, number < exchange.issued.length

theorem ordered_opened (settings : SessionSettings) (criteria : Criteria) :
    (opened settings criteria : Exchange α).Ordered where
  increasing := .nil
  bounded := by simp [opened]
  once := .nil
  issued := by simp [opened]

/-- A session of a later generation keeps the order. -/
theorem Ordered.withSession {exchange : Exchange α} (ordered : exchange.Ordered) {session : Session α}
    (later : exchange.session.generation ≤ session.generation) : ({ exchange with session }).Ordered where
  increasing := ordered.increasing
  bounded fetch member := Nat.le_trans (ordered.bounded fetch member) later
  once := ordered.once
  issued := ordered.issued

/-- A fetch of the session's next generation keeps the order. -/
theorem Ordered.issue {exchange : Exchange α} (ordered : exchange.Ordered) {session : Session α} {fetch : Fetch}
    (stamp : fetch.generation = session.generation)
    (next : session.generation = exchange.session.generation + 1) :
    (exchange.issue session fetch).Ordered := by
  refine ⟨?_, ?_, ?_, ?_⟩
  · refine List.pairwise_append.mpr ⟨ordered.increasing, List.pairwise_singleton _ _, ?_⟩
    intro earlier old later new
    rw [List.mem_singleton.mp new]
    have := ordered.bounded earlier old
    omega
  · intro member found
    rcases List.mem_append.mp found with old | new
    · have bound := ordered.bounded member old
      dsimp only [Exchange.issue]
      omega
    · rw [List.mem_singleton.mp new]
      exact Nat.le_of_eq stamp
  · refine List.nodup_append.mpr ⟨ordered.once, List.pairwise_singleton _ _, ?_⟩
    intro number old other new
    rw [List.mem_singleton.mp new]
    exact Nat.ne_of_lt (ordered.issued number old)
  · intro number found
    dsimp only [Exchange.issue]
    rw [List.length_append, List.length_singleton]
    rcases List.mem_append.mp found with old | new
    · have := ordered.issued number old
      omega
    · rw [List.mem_singleton.mp new]
      exact Nat.lt_succ_self _

theorem Ordered.settle {exchange : Exchange α} (ordered : exchange.Ordered) {session : Session α}
    (same : session.generation = exchange.session.generation) (number : Nat) :
    (exchange.settle session number).Ordered where
  increasing := ordered.increasing
  bounded fetch member := same ▸ ordered.bounded fetch member
  once := ordered.once.erase number
  issued other found := ordered.issued other (List.mem_of_mem_erase found)

theorem Ordered.step {exchange : Exchange α} (ordered : exchange.Ordered) (event : Event α) :
    (exchange.step event).Ordered := by
  cases event with
  | call call =>
    have effect := exchange.session.call_effect call
    cases outcome : (exchange.session.call call).2 with
    | done | raised error =>
      rw [step_call_of_not_waiting (by simp [outcome])]
      exact ordered.withSession effect.generation_le
    | waiting fetch =>
      rw [outcome] at effect
      rw [step_call_of_waiting outcome]
      exact ordered.issue effect.waiting.1 effect.waiting.2
  | answer number answer =>
    cases waits : exchange.waitingFetch? number with
    | none =>
      rw [step_answer_of_none answer waits]
      exact ordered
    | some fetch =>
      rw [step_answer_of_some answer waits]
      exact ordered.settle (Session.receive_generation _ _ _) number

theorem Ordered.run {exchange : Exchange α} (ordered : exchange.Ordered) (events : List (Event α)) :
    (exchange.run events).Ordered := by
  induction events generalizing exchange with
  | nil => exact ordered
  | cons event rest ih => exact ih (ordered.step event)

/-- No two fetches are of one generation. -/
theorem Ordered.number_eq {exchange : Exchange α} (ordered : exchange.Ordered) {left right : Nat}
    {first second : Fetch} (here : exchange.issued[left]? = some first)
    (there : exchange.issued[right]? = some second) (same : first.generation = second.generation) :
    left = right := by
  obtain ⟨leftBound, rfl⟩ := List.getElem?_eq_some_iff.mp here
  obtain ⟨rightBound, rfl⟩ := List.getElem?_eq_some_iff.mp there
  have increasing := List.pairwise_iff_getElem.mp ordered.increasing
  rcases Nat.lt_trichotomy left right with less | equal | greater
  · have := increasing left right leftBound rightBound less
    omega
  · exact equal
  · have := increasing right left rightBound leftBound greater
    omega

/-- The fetches that still wait once one of them is answered. -/
theorem Ordered.waitingFetch?_settle_iff {exchange : Exchange α} (ordered : exchange.Ordered)
    {number other : Nat} {fetch : Fetch} {session : Session α} :
    (exchange.settle session number).waitingFetch? other = some fetch ↔
      other ≠ number ∧ exchange.waitingFetch? other = some fetch := by
  simp only [waitingFetch?_eq_some_iff, Exchange.settle, ordered.once.mem_erase_iff, and_assoc]

/-- The fetches that wait once a further one is issued. -/
theorem Ordered.waitingFetch?_issue_iff {exchange : Exchange α} (ordered : exchange.Ordered) {number : Nat}
    {issued fetch : Fetch} {session : Session α} :
    (exchange.issue session issued).waitingFetch? number = some fetch ↔
      (number = exchange.issued.length ∧ fetch = issued) ∨ exchange.waitingFetch? number = some fetch := by
  simp only [waitingFetch?_eq_some_iff, Exchange.issue, List.mem_append, List.mem_singleton]
  constructor
  · rintro ⟨old | rfl, found⟩
    · rw [List.getElem?_append_left (ordered.issued number old)] at found
      exact .inr ⟨old, found⟩
    · rw [List.getElem?_concat_length] at found
      exact .inl ⟨rfl, (Option.some.inj found).symm⟩
  · rintro (⟨rfl, rfl⟩ | ⟨old, found⟩)
    · exact ⟨.inr rfl, List.getElem?_concat_length⟩
    · refine ⟨.inl old, ?_⟩
      rw [List.getElem?_append_left (ordered.issued number old)]
      exact found

/-- No other fetch of the generation of a waiting one waits. -/
theorem Ordered.alone {exchange : Exchange α} (ordered : exchange.Ordered) {number other : Nat}
    {fetch later : Fetch} {session : Session α} (waits : exchange.waitingFetch? number = some fetch)
    (found : (exchange.settle session number).waitingFetch? other = some later) :
    later.generation ≠ fetch.generation := by
  intro same
  obtain ⟨different, found⟩ := ordered.waitingFetch?_settle_iff.mp found
  have here := (waitingFetch?_eq_some_iff.mp waits).2
  have there := (waitingFetch?_eq_some_iff.mp found).2
  exact different (ordered.number_eq there here same)

theorem Ordered.generation_le {exchange : Exchange α} (ordered : exchange.Ordered) {number : Nat} {fetch : Fetch}
    (waits : exchange.waitingFetch? number = some fetch) : fetch.generation ≤ exchange.session.generation :=
  ordered.bounded fetch (List.mem_of_getElem? (waitingFetch?_eq_some_iff.mp waits).2)

/-! ## Accepted pages -/

/-- The page that an event brings in: rows that answer a waiting fetch of the present generation. -/
def accepted? (exchange : Exchange α) : Event α → Option (Page α)
  | .answer number (.rows rows) =>
    ((exchange.waitingFetch? number).filter (·.generation == exchange.session.generation)).map (⟨·, rows⟩)
  | _ => none

/-- The pages that a run brings in, in the order of their arrival. -/
def accepted : Exchange α → List (Event α) → List (Page α)
  | _, [] => []
  | exchange, event :: rest => (exchange.accepted? event).toList ++ accepted (exchange.step event) rest

theorem accepted?_eq_some_iff {exchange : Exchange α} {event : Event α} {page : Page α} :
    exchange.accepted? event = some page ↔
      ∃ number, event = .answer number (.rows page.rows) ∧ exchange.waitingFetch? number = some page.fetch ∧
        page.fetch.generation = exchange.session.generation := by
  constructor
  · intro found
    unfold accepted? at found
    split at found
    · next number rows =>
      obtain ⟨fetch, current, rfl⟩ := Option.map_eq_some_iff.mp found
      obtain ⟨waits, same⟩ := Option.filter_eq_some_iff.mp current
      exact ⟨number, rfl, waits, beq_iff_eq.mp same⟩
    · cases found
  · rintro ⟨number, rfl, waits, current⟩
    simp only [accepted?, waits, Option.filter, current, beq_self_eq_true, if_true, Option.map_some]

end Exchange

end CatalogSearch
