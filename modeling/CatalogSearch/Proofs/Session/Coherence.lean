import CatalogSearch.Proofs.Session.Run

/-! # Coherent pages

As long as no call raises, the rows that a session shows are the rows of consecutive pages, each of them
fetched for the criteria, the lookup and the categories of this moment. The invariant speaks of the fetch
under way too: it asks for the page after the last one, under the same conditions. Whatever changes these
conditions starts a new generation and counts pages from the beginning, so that neither an old answer nor an
old page can be mixed in.
-/

namespace CatalogSearch

namespace Session

variable {α : Type}

/-- The session is made of `pages`: they are its pages from the first on, fetched under its present conditions,
and its results are their rows. A session that counts no page may still show rows of an earlier search. -/
structure Shows (session : Session α) (pages : List (Page α)) : Prop where
  count : pages.length = session.page
  compiled : ∀ index page, pages[index]? = some page → session.compile (index + 1) = .ok page.fetch.query
  items : 0 < session.page → session.results.items = pages.flatMap Page.rows
  index : 0 < session.page → session.results.pageIndex = session.page
  more : ∀ last, pages.getLast? = some last →
    (session.results.hasMore = true ↔ (last.rows.length : Int) = session.settings.pageSize)
  full : ∀ page ∈ pages.dropLast, (page.rows.length : Int) = session.settings.pageSize

/-- What is true of the fetch under way. -/
structure Awaits (session : Session α) (fetch : Fetch) : Prop where
  active : session.rejected = false
  page : fetch.page = session.page + 1
  compiled : session.compile fetch.page = .ok fetch.query
  more : 0 < session.page → session.results.hasMore = true

theorem Shows.nil {session : Session α} (none : session.page = 0) : session.Shows [] where
  count := none.symm
  compiled := by simp
  items begun := by omega
  index begun := by omega
  more := by simp
  full := by simp

private theorem Shows.all_full {session : Session α} {pages : List (Page α)} (shows : session.Shows pages)
    (more : 0 < session.page → session.results.hasMore = true) :
    ∀ page ∈ pages, (page.rows.length : Int) = session.settings.pageSize := by
  intro page member
  have nonempty : pages ≠ [] := List.ne_nil_of_mem member
  have begun : 0 < session.page := by
    rw [← shows.count]
    exact List.length_pos_iff.mpr nonempty
  rw [← List.dropLast_concat_getLast nonempty] at member
  rcases List.mem_append.mp member with earlier | last
  · exact shows.full page earlier
  · rw [List.mem_singleton.mp last]
    exact (shows.more _ (List.getLast?_eq_some_getLast nonempty)).mp (more begun)

/-- Rows for the awaited fetch are one page more. -/
theorem Shows.concat {session : Session α} {pages : List (Page α)} {fetch : Fetch}
    (shows : session.Shows pages) (awaits : session.Awaits fetch)
    (current : fetch.generation = session.generation) (rows : List α) :
    (session.receive fetch (.rows rows)).Shows (pages ++ [⟨fetch, rows⟩]) := by
  have count := shows.count
  have next := awaits.page
  rw [receive_rows rows current]
  refine ⟨?_, ?_, ?_, fun _ => rfl, ?_, ?_⟩
  · simp only [List.length_append, List.length_singleton, next, count]
  · intro index page found
    by_cases old : index < pages.length
    · rw [List.getElem?_append_left old] at found
      exact shows.compiled index page found
    · obtain ⟨bound, _⟩ := List.getElem?_eq_some_iff.mp found
      rw [List.length_append, List.length_singleton] at bound
      obtain rfl : index = pages.length := by omega
      rw [List.getElem?_concat_length] at found
      cases found
      have compiled := awaits.compiled
      rw [next, ← count] at compiled
      exact compiled
  · intro _
    simp only [Results.addPage, List.flatMap_append, List.flatMap_singleton]
    by_cases first : session.page = 0
    · have none : pages = [] := List.eq_nil_of_length_eq_zero (count.trans first)
      simp only [next, first, none, List.flatMap_nil, List.nil_append]
      rfl
    · rw [if_neg (by omega), shows.items (by omega)]
  · intro last found
    rw [List.getLast?_concat] at found
    cases found
    simp only [Results.addPage, beq_iff_eq]
  · rw [List.dropLast_concat]
    exact shows.all_full awaits.more

end Session

namespace Exchange

variable {α : Type}

/-- What links an exchange to the pages that came in before. -/
structure Coherent (exchange : Exchange α) (history : List (Page α)) : Prop where
  ordered : exchange.Ordered
  awaits : ∀ number fetch, exchange.waitingFetch? number = some fetch →
    fetch.generation = exchange.session.generation → exchange.session.Awaits fetch
  shows : exchange.session.rejected = false →
    ∃ earlier pages, history = earlier ++ pages ∧ exchange.session.Shows pages

theorem coherent_opened (settings : SessionSettings) (criteria : Criteria) :
    (opened settings criteria : Exchange α).Coherent [] where
  ordered := ordered_opened settings criteria
  awaits number fetch waits := by cases (waitingFetch?_eq_some_iff.mp waits).1
  shows _ := ⟨[], [], rfl, .nil rfl⟩

private theorem Coherent.call {exchange : Exchange α} {history : List (Page α)}
    (coherent : exchange.Coherent history) {call : Call} (calm : exchange.Calm (.call call)) :
    (exchange.step (.call call)).Coherent history := by
  have ordered := coherent.ordered.step (.call call)
  rcases calm.call_cases with ⟨after, effect, step⟩ | ⟨after, fetch, effect, step⟩
  · rw [step] at ordered ⊢
    cases effect with
    | paused => exact ⟨ordered, coherent.awaits, coherent.shows⟩
    | noted _ prepared muted =>
      -- While navigation is rejected, nothing is awaited and nothing is claimed of the rows.
      cases prepared
      refine ⟨ordered, fun number fetch waits current => ?_, fun active => ?_⟩
      · exact Bool.noConfusion (muted.symm.trans (coherent.awaits number fetch waits current).active)
      · exact Bool.noConfusion (muted.symm.trans active)
    | turnedAway =>
      refine ⟨ordered, fun number fetch waits current => ?_, fun active => Bool.noConfusion active⟩
      have bound := coherent.ordered.generation_le waits
      simp only [Session.turnedAway] at current
      omega
  · rw [step] at ordered ⊢
    refine ⟨ordered, fun number other waits current => ?_, fun active => ?_⟩
    · rcases coherent.ordered.waitingFetch?_issue_iff.mp waits with ⟨_, rfl⟩ | old
      · cases effect with
        | opened prepared active compiled => exact ⟨active, rfl, compiled, fun begun => absurd begun (Nat.lt_irrefl 0)⟩
        | extended _ ready more active compiled => exact ⟨active, rfl, compiled, fun _ => more⟩
      · -- The fetches from before are of earlier generations.
        have bound := coherent.ordered.generation_le old
        have fresh := effect.waiting.2
        dsimp only [Exchange.issue] at current
        omega
    · cases effect with
      | opened => exact ⟨history, [], (List.append_nil history).symm, .nil rfl⟩
      | extended =>
        obtain ⟨earlier, pages, split, shows⟩ := coherent.shows active
        exact ⟨earlier, pages, split, shows.count, shows.compiled, shows.items, shows.index, shows.more, shows.full⟩

private theorem Coherent.answer {exchange : Exchange α} {history : List (Page α)}
    (coherent : exchange.Coherent history) (number : Nat) (answer : Answer α) :
    (exchange.step (.answer number answer)).Coherent
      (history ++ (exchange.accepted? (.answer number answer)).toList) := by
  have ordered := coherent.ordered.step (.answer number answer)
  cases waits : exchange.waitingFetch? number with
  | none =>
    rw [step_answer_of_none answer waits]
    cases answer <;> simpa [accepted?, waits] using coherent
  | some fetch =>
    rw [step_answer_of_some answer waits] at ordered ⊢
    by_cases current : fetch.generation = exchange.session.generation
    · refine ⟨ordered, fun other later found same => ?_, fun active => ?_⟩
      · -- No other fetch of this generation waits, so that nothing is awaited any more.
        simp only [settle, Session.receive_generation] at same
        exact absurd (same.trans current.symm) (coherent.ordered.alone waits found)
      · have awaits := coherent.awaits number fetch waits current
        obtain ⟨earlier, pages, split, shows⟩ := coherent.shows awaits.active
        cases answer with
        | rows rows =>
          have page : exchange.accepted? (.answer number (.rows rows)) = some ⟨fetch, rows⟩ :=
            accepted?_eq_some_iff.mpr ⟨number, rfl, waits, current⟩
          rw [page, split, Option.toList_some, List.append_assoc]
          exact ⟨earlier, _, rfl, shows.concat awaits current rows⟩
        | failed message =>
          refine ⟨earlier, pages, by simpa [accepted?] using split, ?_⟩
          rw [Session.receive_failed message current]
          exact ⟨shows.count, shows.compiled, shows.items, shows.index, shows.more, shows.full⟩
        | crashed =>
          refine ⟨earlier, pages, by simpa [accepted?] using split, ?_⟩
          rw [Session.receive_crashed]
          exact shows
    · have dropped : exchange.accepted? (.answer number answer) = none := by
        cases answer <;> simp [accepted?, waits, Option.filter, current]
      rw [Session.receive_of_ne answer current] at ordered ⊢
      rw [dropped, Option.toList_none, List.append_nil]
      refine ⟨ordered, fun other later found same => ?_, coherent.shows⟩
      exact coherent.awaits other later (coherent.ordered.waitingFetch?_settle_iff.mp found).2 same

/-- One event of a run without raising calls. -/
theorem Coherent.step {exchange : Exchange α} {history : List (Page α)} (coherent : exchange.Coherent history)
    {event : Event α} (calm : exchange.Calm event) :
    (exchange.step event).Coherent (history ++ (exchange.accepted? event).toList) := by
  cases event with
  | call call =>
    have none : exchange.accepted? (.call call) = none := rfl
    rw [none, Option.toList_none, List.append_nil]
    exact coherent.call calm
  | answer number answer => exact coherent.answer number answer

theorem Coherent.run {exchange : Exchange α} {history : List (Page α)} (coherent : exchange.Coherent history)
    {events : List (Event α)} (calm : Throughout Calm exchange events) :
    (exchange.run events).Coherent (history ++ exchange.accepted events) := by
  induction events generalizing exchange history with
  | nil => simpa only [run_nil, accepted, List.append_nil] using coherent
  | cons event rest ih =>
    have after := ih (coherent.step calm.1) calm.2
    rwa [List.append_assoc] at after

/-- In a run without raising calls, a session whose last navigation was not rejected and that counts pages
shows the rows of the last accepted pages, each of which answers the query that its place has under the
present criteria, lookup and categories. -/
theorem pages_coherent {settings : SessionSettings} {criteria : Criteria} {events : List (Event α)}
    (calm : Throughout Calm (opened settings criteria) events)
    (active : ((opened settings criteria).run events).session.rejected = false)
    (begun : 0 < ((opened settings criteria).run events).session.page) :
    let session := ((opened settings criteria).run events).session
    ∃ earlier pages, (opened settings criteria).accepted events = earlier ++ pages ∧
      pages.length = session.page ∧
      (∀ index page, pages[index]? = some page → session.compile (index + 1) = .ok page.fetch.query) ∧
      session.results.items = pages.flatMap Page.rows ∧
      session.results.pageIndex = session.page ∧
      ∃ last, pages.getLast? = some last ∧
        (session.results.hasMore = true ↔ (last.rows.length : Int) = session.settings.pageSize) := by
  intro session
  have coherent := (coherent_opened settings criteria).run calm
  obtain ⟨earlier, pages, split, shows⟩ := coherent.shows active
  have nonempty : pages ≠ [] := List.ne_nil_of_length_pos (shows.count ▸ begun)
  refine ⟨earlier, pages, split, shows.count, shows.compiled, shows.items begun, shows.index begun, ?_⟩
  have last := List.getLast?_eq_some_getLast nonempty
  exact ⟨_, last, shows.more _ last⟩

/-- A second page that is overtaken by a change of categories, and a second page of what is then shown. -/
def overtakenPage : List (Event Nat) :=
  [.call (.submit "dune"), .answer 0 (.rows [1, 2]), .call .loadMore, .call (.setCategories ["Fiction"]),
    .answer 1 (.rows [3, 4]), .answer 2 (.rows [5, 6]), .call .loadMore, .answer 3 (.rows [7])]

theorem pages_coherent_overtakenPage :
    let exchange : Exchange Nat := opened { pageSize := 2 } {}
    Throughout Calm exchange overtakenPage ∧ (exchange.run overtakenPage).session.rejected = false ∧
      0 < (exchange.run overtakenPage).session.page ∧
      (exchange.run overtakenPage).session.results.items = [5, 6, 7] ∧
      ∃ earlier pages, exchange.accepted overtakenPage = earlier ++ pages ∧ pages.length = 2 ∧
        pages.flatMap Page.rows = [5, 6, 7] := by
  have calm : Throughout Calm (opened { pageSize := 2 } {}) overtakenPage := by decide +kernel
  have active : ((opened { pageSize := 2 } {}).run overtakenPage).session.rejected = false := by decide +kernel
  have count : ((opened { pageSize := 2 } {}).run overtakenPage).session.page = 2 := by decide +kernel
  have shown : ((opened { pageSize := 2 } {}).run overtakenPage).session.results.items = [5, 6, 7] := by
    decide +kernel
  have begun : 0 < ((opened { pageSize := 2 } {}).run overtakenPage).session.page := by
    rw [count]
    exact Nat.two_pos
  obtain ⟨earlier, pages, split, length, _, items, _⟩ := pages_coherent calm active begun
  exact ⟨calm, active, begun, shown, earlier, pages, split, length.trans count, items.symm.trans shown⟩

end Exchange

end CatalogSearch
