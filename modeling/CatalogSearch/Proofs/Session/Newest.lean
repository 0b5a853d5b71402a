import CatalogSearch.Proofs.Session.Navigation
import CatalogSearch.Proofs.Session.Status

/-! # The newest transition

As long as no call raises and no fetch crashes, the status of a session is that of its newest transition. Every
transition begins a generation: it is a rejected navigation, or it issues the one fetch of this generation, which
waits for its answer, was answered with rows, or failed. The invariant keeps the answers that came in so far, and
looks only at those to the fetch of the present generation; there is at most one. The error that is shown agrees
with the status as a part of the invariant: rows leave an old error standing, and come in only while there is none.
-/

namespace CatalogSearch

/-- The answers to the fetches of some generation. -/
def answersOf {α : Type} (generation : Nat) (history : List (Fetch × Answer α)) : List (Answer α) :=
  (history.filter (·.1.generation == generation)).map Prod.snd

theorem mem_answersOf_iff {α : Type} {generation : Nat} {history : List (Fetch × Answer α)} {answer : Answer α} :
    answer ∈ answersOf generation history ↔
      ∃ fetch, (fetch, answer) ∈ history ∧ fetch.generation = generation := by
  simp [answersOf]

/-- A generation that is yet to come has no answers. -/
theorem answersOf_eq_nil {α : Type} {generation : Nat} {history : List (Fetch × Answer α)}
    (older : ∀ entry ∈ history, entry.1.generation < generation) : answersOf generation history = [] := by
  refine List.eq_nil_iff_forall_not_mem.mpr fun answer member => ?_
  obtain ⟨fetch, found, same⟩ := mem_answersOf_iff.mp member
  exact absurd same (Nat.ne_of_lt (older _ found))

private theorem answersOf_concat_of_eq {α : Type} {history : List (Fetch × Answer α)} {fetch : Fetch}
    (answer : Answer α) :
    answersOf fetch.generation (history ++ [(fetch, answer)]) = answersOf fetch.generation history ++ [answer] := by
  simp [answersOf]

private theorem answersOf_concat_of_ne {α : Type} {generation : Nat} {history : List (Fetch × Answer α)} {fetch : Fetch}
    (answer : Answer α) (other : fetch.generation ≠ generation) :
    answersOf generation (history ++ [(fetch, answer)]) = answersOf generation history := by
  simp [answersOf, other]

namespace Session

variable {α : Type}

/-- How the status of a session comes about, where some answers were given to the fetch of its generation. -/
inductive Accounts (session : Session α) : List (Answer α) → Prop where
  | unused (first : session.generation = 0) (active : session.rejected = false) (status : session.status = .idle) :
      Accounts session []
  | turnedAway (begun : 0 < session.generation) (muted : session.rejected = true)
      (status : session.status = .failed) : Accounts session []
  | fetching (begun : 0 < session.generation) (active : session.rejected = false)
      (status : session.status = .fetching) : Accounts session []
  | loaded {rows : List α} (begun : 0 < session.generation) (active : session.rejected = false)
      (status : session.status = .success) : Accounts session [.rows rows]
  | failed {reason : String} (begun : 0 < session.generation) (active : session.rejected = false)
      (status : session.status = .failed) : Accounts session [.failed reason]

/-- Nothing but the generation, the status and the standing of the last navigation is looked at. -/
theorem Accounts.congr {session other : Session α} {answers : List (Answer α)} (accounts : session.Accounts answers)
    (generation : other.generation = session.generation) (rejected : other.rejected = session.rejected)
    (status : other.status = session.status) : other.Accounts answers := by
  cases accounts with
  | unused first active idle => exact .unused (generation.trans first) (rejected.trans active) (status.trans idle)
  | turnedAway begun muted failed =>
    exact .turnedAway (generation ▸ begun) (rejected.trans muted) (status.trans failed)
  | fetching begun active waits => exact .fetching (generation ▸ begun) (rejected.trans active) (status.trans waits)
  | loaded begun active shown => exact .loaded (generation ▸ begun) (rejected.trans active) (status.trans shown)
  | failed begun active failed => exact .failed (generation ▸ begun) (rejected.trans active) (status.trans failed)

private theorem Accounts.success_iff {session : Session α} {answers : List (Answer α)}
    (accounts : session.Accounts answers) : session.status = .success ↔ ∃ rows, .rows rows ∈ answers := by
  cases accounts with
  | unused _ _ status | turnedAway _ _ status | fetching _ _ status | loaded _ _ status | failed _ _ status =>
    simp [status]

private theorem Accounts.failed_iff {session : Session α} {answers : List (Answer α)}
    (accounts : session.Accounts answers) :
    session.status = .failed ↔ session.rejected = true ∨ ∃ reason, .failed reason ∈ answers := by
  cases accounts with
  | unused _ standing status | turnedAway _ standing status | fetching _ standing status
  | loaded _ standing status | failed _ standing status => simp [status, standing]

private theorem Accounts.idle_iff {session : Session α} {answers : List (Answer α)}
    (accounts : session.Accounts answers) : session.status = .idle ↔ session.generation = 0 := by
  cases accounts with
  | unused first _ status => simp [status, first]
  | turnedAway begun _ status | fetching begun _ status | loaded begun _ status | failed begun _ status =>
    simp [status, Nat.ne_of_gt begun]

/-- An answer to the fetch under way accounts for the status that it brings. While there is such a fetch, no answer of
its generation has come in before. -/
theorem Accounts.receive {session : Session α} {answers : List (Answer α)} (accounts : session.Accounts answers)
    (loading : session.status = .fetching) {fetch : Fetch} (current : fetch.generation = session.generation)
    {answer : Answer α} (kept : answer ≠ .crashed) : (session.receive fetch answer).Accounts (answers ++ [answer]) := by
  cases accounts with
  | fetching begun active =>
    cases answer with
    | rows rows =>
      rw [receive_rows rows current]
      exact .loaded begun active rfl
    | failed reason =>
      rw [receive_failed reason current]
      exact .failed begun active rfl
    | crashed => exact absurd rfl kept
  | unused _ _ status | turnedAway _ _ status | loaded _ _ status | failed _ _ status =>
    cases status.symm.trans loading

/-- An error is shown exactly while the status is that of a failure. -/
def Flagged (session : Session α) : Prop :=
  session.error.isSome = true ↔ session.status = .failed

theorem Flagged.congr {session other : Session α} (flagged : session.Flagged) (error : other.error = session.error)
    (status : other.status = session.status) : other.Flagged := by
  rw [Flagged, error, status]
  exact flagged

/-- The answer to a fetch under way keeps status and error in agreement. Rows do not touch the error, which the
fetch has taken away. -/
theorem Flagged.receive {session : Session α} (flagged : session.Flagged) (loading : session.status = .fetching)
    (fetch : Fetch) (answer : Answer α) : (session.receive fetch answer).Flagged := by
  by_cases current : fetch.generation = session.generation
  · cases answer with
    | rows rows =>
      have clear : ¬session.error.isSome = true := fun shown => by cases loading.symm.trans (flagged.mp shown)
      rw [receive_rows rows current]
      exact ⟨fun shown => absurd shown clear, fun failed => by cases failed⟩
    | failed message =>
      rw [receive_failed message current]
      exact ⟨fun _ => rfl, fun _ => rfl⟩
    | crashed =>
      rw [receive_crashed]
      exact flagged
  · rw [receive_of_ne answer current]
    exact flagged

end Session

namespace Exchange

variable {α : Type}

/-- The fetch that an event answers, with the answer. -/
def answered? (exchange : Exchange α) : Event α → Option (Fetch × Answer α)
  | .call _ => none
  | .answer number answer => (exchange.waitingFetch? number).map (·, answer)

/-- The fetches of a run that were answered, with their answers, in the order of arrival. -/
def answered : Exchange α → List (Event α) → List (Fetch × Answer α)
  | _, [] => []
  | exchange, event :: rest => (exchange.answered? event).toList ++ answered (exchange.step event) rest

/-- What links an exchange to the answers that came in before. -/
structure Told (exchange : Exchange α) (history : List (Fetch × Answer α)) : Prop where
  attended : exchange.Attended
  bounded : ∀ entry ∈ history, entry.1.generation ≤ exchange.session.generation
  accounts : exchange.session.Accounts (answersOf exchange.session.generation history)
  flagged : exchange.session.Flagged

private theorem told_opened (settings : SessionSettings) (criteria : Criteria) :
    (opened settings criteria : Exchange α).Told [] where
  attended := attended_opened settings criteria
  bounded := by simp
  accounts := .unused rfl rfl rfl
  flagged := ⟨nofun, nofun⟩

/-- The next generation has no answers yet. -/
private theorem Told.answersOf_next {exchange : Exchange α} {history : List (Fetch × Answer α)}
    (told : exchange.Told history) : answersOf (exchange.session.generation + 1) history = [] :=
  answersOf_eq_nil fun entry member => Nat.lt_succ_of_le (told.bounded entry member)

private theorem Told.call {exchange : Exchange α} {history : List (Fetch × Answer α)} (told : exchange.Told history)
    {call : Call} (calm : exchange.Calm (.call call)) : (exchange.step (.call call)).Told history := by
  have attended := told.attended.step calm trivial
  have bounded : ∀ entry ∈ history, entry.1.generation ≤ (exchange.step (.call call)).session.generation :=
    fun entry member => Nat.le_trans (told.bounded entry member) (exchange.generation_le_step _)
  rcases calm.call_cases with ⟨after, effect, step⟩ | ⟨after, fetch, effect, step⟩
  · rw [step] at attended bounded ⊢
    cases effect with
    | paused => exact ⟨attended, bounded, told.accounts, told.flagged⟩
    | noted _ prepared =>
      cases prepared
      exact ⟨attended, bounded, told.accounts.congr rfl rfl rfl, told.flagged.congr rfl rfl⟩
    | turnedAway =>
      refine ⟨attended, bounded, ?_, ⟨fun _ => rfl, fun _ => rfl⟩⟩
      dsimp only [Session.turnedAway]
      rw [told.answersOf_next]
      exact .turnedAway (Nat.succ_pos _) rfl rfl
  · rw [step] at attended bounded ⊢
    obtain ⟨active, loading, clear⟩ :
        after.rejected = false ∧ after.status = .fetching ∧ after.error = none := by
      cases effect with
      | opened _ active => exact ⟨active, rfl, rfl⟩
      | extended _ _ _ active => exact ⟨active, rfl, rfl⟩
    have fresh := effect.waiting.2
    refine ⟨attended, bounded, ?_, ?_⟩
    · dsimp only [issue]
      rw [fresh, told.answersOf_next]
      exact .fetching (fresh ▸ Nat.succ_pos _) active loading
    · simp [issue, Session.Flagged, clear, loading]

private theorem Told.answer {exchange : Exchange α} {history : List (Fetch × Answer α)} (told : exchange.Told history)
    (number : Nat) (answer : Answer α) (intact : exchange.Intact (.answer number answer)) :
    (exchange.step (.answer number answer)).Told
      (history ++ (exchange.answered? (.answer number answer)).toList) := by
  have calm : exchange.Calm (.answer number answer) := trivial
  have attended := told.attended.step calm intact
  cases waits : exchange.waitingFetch? number with
  | none =>
    rw [step_answer_of_none answer waits]
    simpa [answered?, waits] using told
  | some fetch =>
    have stamp := told.attended.ordered.generation_le waits
    rw [step_answer_of_some answer waits] at attended ⊢
    simp only [answered?, waits, Option.map_some, Option.toList_some]
    refine ⟨attended, fun entry member => ?_, ?_, ?_⟩
    · simp only [settle, Session.receive_generation]
      rcases List.mem_append.mp member with old | new
      · exact told.bounded entry old
      · rw [List.mem_singleton.mp new]
        exact stamp
    · simp only [settle, Session.receive_generation]
      by_cases current : fetch.generation = exchange.session.generation
      · have loading := told.attended.fetching_iff.mpr ⟨number, fetch, waits, current⟩
        have kept : answer ≠ .crashed := by
          rintro rfl
          cases waits.symm.trans intact
        rw [← current, answersOf_concat_of_eq, current]
        exact told.accounts.receive loading current kept
      · rw [answersOf_concat_of_ne answer current, Session.receive_of_ne answer current]
        exact told.accounts
    · by_cases current : fetch.generation = exchange.session.generation
      · exact told.flagged.receive (told.attended.fetching_iff.mpr ⟨number, fetch, waits, current⟩) fetch answer
      · exact told.flagged.congr (by rw [settle, Session.receive_of_ne answer current])
          (by rw [settle, Session.receive_of_ne answer current])

theorem Told.step {exchange : Exchange α} {history : List (Fetch × Answer α)} (told : exchange.Told history)
    {event : Event α} (calm : exchange.Calm event) (intact : exchange.Intact event) :
    (exchange.step event).Told (history ++ (exchange.answered? event).toList) := by
  cases event with
  | call call =>
    have none : exchange.answered? (.call call) = none := rfl
    rw [none, Option.toList_none, List.append_nil]
    exact told.call calm
  | answer number answer => exact told.answer number answer intact

theorem Told.run {exchange : Exchange α} {history : List (Fetch × Answer α)} (told : exchange.Told history)
    {events : List (Event α)} (calm : Throughout Calm exchange events) (intact : Throughout Intact exchange events) :
    (exchange.run events).Told (history ++ exchange.answered events) := by
  induction events generalizing exchange history with
  | nil => simpa only [run_nil, answered, List.append_nil] using told
  | cons event rest ih =>
    have after := ih (told.step calm.1 intact.1) calm.2 intact.2
    rwa [List.append_assoc] at after

/-- A waiting fetch of the present generation is the last one that was issued. -/
theorem Ordered.last_of_current {exchange : Exchange α} (ordered : exchange.Ordered) {number : Nat} {fetch : Fetch}
    (waits : exchange.waitingFetch? number = some fetch) (current : fetch.generation = exchange.session.generation) :
    number + 1 = exchange.issued.length := by
  obtain ⟨bound, rfl⟩ := List.getElem?_eq_some_iff.mp (waitingFetch?_eq_some_iff.mp waits).2
  refine Nat.le_antisymm bound (Nat.le_of_not_lt fun next => ?_)
  have later := List.pairwise_iff_getElem.mp ordered.increasing number (number + 1) bound next (Nat.lt_succ_self _)
  have stamp := ordered.bounded _ (List.getElem_mem next)
  omega

/-- The status of a session is that of its newest transition. In a run without raising calls whose fetches do not
crash, a fetch of the present generation that waits is the last one issued. The session is fetching exactly while
there is one, has succeeded exactly if the fetch of its generation was answered with rows, has failed exactly if
that fetch failed or the last navigation was rejected, and is idle exactly if it is still in its first generation.
An error is shown exactly if it has failed. -/
theorem status_of_newest {settings : SessionSettings} {criteria : Criteria} {events : List (Event α)}
    (calm : Throughout Calm (opened settings criteria) events)
    (intact : Throughout Intact (opened settings criteria) events) :
    let exchange := (opened settings criteria).run events
    let answers := (opened settings criteria).answered events
    (∀ number fetch, exchange.waitingFetch? number = some fetch →
      fetch.generation = exchange.session.generation → number + 1 = exchange.issued.length) ∧
    (exchange.session.status = .fetching ↔
      ∃ number fetch, exchange.waitingFetch? number = some fetch ∧
        fetch.generation = exchange.session.generation) ∧
    (exchange.session.status = .success ↔
      ∃ fetch rows, (fetch, .rows rows) ∈ answers ∧ fetch.generation = exchange.session.generation) ∧
    (exchange.session.status = .failed ↔
      endsRejected events = true ∨
        ∃ fetch reason, (fetch, .failed reason) ∈ answers ∧ fetch.generation = exchange.session.generation) ∧
    (exchange.session.status = .idle ↔ exchange.session.generation = 0) ∧
    (exchange.session.view.error.isSome = true ↔ exchange.session.status = .failed) := by
  intro exchange answers
  have told : exchange.Told answers := (told_opened settings criteria).run calm intact
  have accounts := told.accounts
  refine ⟨fun number fetch waits current => told.attended.ordered.last_of_current waits current,
    told.attended.fetching_iff, ?_, ?_, accounts.idle_iff, told.flagged⟩
  · rw [accounts.success_iff]
    simp only [mem_answersOf_iff]
    exact exists_comm
  · rw [accounts.failed_iff, run_opened_rejected]
    simp only [mem_answersOf_iff]
    exact or_congr_right exists_comm

/-- A search that is replaced by another one, which then fails; rows for the first one come in before that. -/
def failedSecond : List (Event Nat) :=
  [.call (.submit "dune"), .call (.submit "emma"), .answer 0 (.rows [1, 2]), .answer 1 (.failed "offline")]

theorem status_of_newest_failedSecond :
    let exchange : Exchange Nat := (opened {} {}).run failedSecond
    Throughout Calm (opened {} {}) failedSecond ∧ Throughout Intact (opened {} {}) failedSecond ∧
      exchange.session.status = .failed ∧ endsRejected failedSecond = false ∧
      exchange.session.view.error.isSome = true ∧
      ∃ fetch reason, (fetch, .failed reason) ∈ (opened {} {}).answered failedSecond ∧
        fetch.generation = exchange.session.generation := by
  have calm : Throughout Calm (opened {} {}) failedSecond := by decide +kernel
  have intact : Throughout Intact (opened {} {}) failedSecond := ⟨trivial, trivial, trivial, trivial, trivial⟩
  have status : ((opened {} {}).run failedSecond).session.status = .failed := by decide +kernel
  have standing : endsRejected failedSecond = false := by decide +kernel
  obtain ⟨_, _, _, failed, _, shown⟩ := status_of_newest calm intact
  refine ⟨calm, intact, status, standing, shown.mpr status, ?_⟩
  rcases failed.mp status with rejected | answered
  · cases standing.symm.trans rejected
  · exact answered

end Exchange

end CatalogSearch
