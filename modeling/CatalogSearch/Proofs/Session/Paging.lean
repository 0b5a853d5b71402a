import CatalogSearch.Proofs.Executor.Selection
import CatalogSearch.Proofs.Query.Compile
import CatalogSearch.Proofs.Session.Coherence
import CatalogSearch.Proofs.Session.Status

/-! # Paging through a collection

Over collections that stay as they are, the pages of a search are consecutive windows of one list: the rows
that the query selects, in their order. A session therefore shows the first rows of this list, as many full
pages as it counts, and goes on until a page is not full. Where the list ends with a full page, one more page
is asked for, which is empty. Fetches that fail in between do not count.
-/

namespace CatalogSearch

theorem Fetch.answerFrom_eq_rows_iff {fetch : Fetch} {collections : Collections} {name : String}
    {rows : List Table} :
    fetch.answerFrom collections name = .ok (.rows rows) ↔ fetch.query.run collections name = .ok rows := by
  unfold answerFrom
  split <;> next found => simp [found]

namespace Page

variable {α : Type}

/-- The rows of the pages are consecutive windows of a list, from its start on. -/
def Windows (pages : List (Page α)) (size : Nat) (selected : List α) : Prop :=
  ∀ index page, pages[index]? = some page → page.rows = (selected.drop (index * size)).take size

private theorem flatMap_of_windows_from {pages : List (Page α)} {size : Nat} {selected : List α} {start : Nat}
    (windows : ∀ index page, pages[index]? = some page →
      page.rows = (selected.drop ((start + index) * size)).take size) :
    pages.flatMap Page.rows = (selected.drop (start * size)).take (pages.length * size) := by
  induction pages generalizing start with
  | nil => simp
  | cons first rest ih =>
    have head : first.rows = (selected.drop (start * size)).take size := windows 0 first rfl
    have tail : rest.flatMap Page.rows = (selected.drop ((start + 1) * size)).take (rest.length * size) := by
      apply ih
      intro index page found
      rw [windows (index + 1) page found, Nat.add_right_comm, Nat.add_assoc start]
    have whole : (rest.length + 1) * size = size + rest.length * size := by rw [Nat.succ_mul, Nat.add_comm]
    rw [List.flatMap_cons, head, tail, List.length_cons, whole, List.take_add, List.drop_drop, Nat.succ_mul]

/-- Together, consecutive windows hold the rows up to the end of the last one. -/
theorem Windows.flatMap {pages : List (Page α)} {size : Nat} {selected : List α}
    (windows : Windows pages size selected) :
    pages.flatMap Page.rows = selected.take (pages.length * size) := by
  have fromStart : ∀ index page, pages[index]? = some page →
      page.rows = (selected.drop ((0 + index) * size)).take size := by
    intro index page found
    rw [Nat.zero_add]
    exact windows index page found
  rw [flatMap_of_windows_from fromStart, Nat.zero_mul, List.drop_zero]

/-- A window is full when the rows reach its end. -/
theorem Windows.full_iff {pages : List (Page α)} {size : Nat} {selected : List α}
    (windows : Windows pages size selected) {index : Nat} {page : Page α} (found : pages[index]? = some page)
    (positive : 0 < size) : page.rows.length = size ↔ (index + 1) * size ≤ selected.length := by
  rw [windows index page found, List.length_take, List.length_drop, Nat.succ_mul]
  omega

end Page

namespace Session

/-- The rows that a search is about, in their order: what the query for its first page selects. -/
structure Selects (session : Session Table) (collections : Collections) (query : Query)
    (rows selected : List Table) : Prop where
  compiled : session.compile 1 = .ok query
  found : collections.lookup session.settings.collection = some rows
  selected : query.select rows = .ok selected

/-- More rows are announced exactly as long as the list reaches the end of the last page; it always reaches the
end of the page before. -/
private theorem Shows.more_of_windows {α : Type} {session : Session α} {pages : List (Page α)} {size : Nat}
    {selected : List α} (shows : session.Shows pages) (windows : Page.Windows pages size selected)
    (sized : session.settings.pageSize = size) (positive : 0 < size) (begun : 0 < session.page) :
    (session.results.hasMore = true ↔ session.page * size ≤ selected.length) ∧
      (session.page - 1) * size ≤ selected.length := by
  have nonempty : pages ≠ [] := List.ne_nil_of_length_pos (shows.count ▸ begun)
  have last := List.getLast?_eq_some_getLast nonempty
  have place : pages[session.page - 1]? = some (pages.getLast nonempty) := by
    rw [← shows.count, ← List.getLast?_eq_getElem?, last]
  have full := windows.full_iff place positive
  rw [Nat.sub_add_cancel begun] at full
  constructor
  · rw [shows.more _ last, sized, Int.ofNat_inj, full]
  · rcases Nat.eq_or_lt_of_le begun with first | further
    · rw [← first, Nat.sub_self, Nat.zero_mul]
      exact Nat.zero_le _
    · -- The page before the last was full, or the last would not have been asked for.
      have before : session.page - 2 < pages.dropLast.length := by
        rw [List.length_dropLast, shows.count]
        omega
      have found : pages[session.page - 2]? = some pages.dropLast[session.page - 2] := by
        rw [List.getElem_dropLast, List.getElem?_eq_getElem]
      have reached := (windows.full_iff found positive).mp
      rw [show session.page - 2 + 1 = session.page - 1 by omega] at reached
      exact reached (Int.ofNat_inj.mp ((shows.full _ (List.getElem_mem before)).trans sized))

/-- The answer to the query for a page is a window of the selected rows. -/
theorem Selects.run_page {session : Session Table} {collections : Collections} {query further : Query}
    {rows selected : List Table} {index size : Nat} (selects : session.Selects collections query rows selected)
    (sized : session.settings.pageSize = size) (compiled : session.compile (index + 1) = .ok further) :
    further.run collections session.settings.collection = .ok ((selected.drop (index * size)).take size) := by
  obtain ⟨first, same, rfl⟩ := Criteria.compile_succ_eq_ok_iff.mp compiled
  obtain rfl : first = query := Except.ok.inj (same.symm.trans selects.compiled)
  refine Query.run_eq_ok_iff.mpr ⟨rows, selected, selects.found, ?_, ?_⟩
  · rw [Query.select_withOffset, selects.selected]
  apply Query.window_eq
  · rw [sized, Int.natCast_mul]
  · exact (Criteria.limit_of_compile same).trans sized

/-- Every further page has a query, which is answered. -/
theorem Selects.exists_page {session : Session Table} {collections : Collections} {query : Query}
    {rows selected : List Table} {size : Nat} (selects : session.Selects collections query rows selected)
    (sized : session.settings.pageSize = size) (index : Nat) :
    ∃ further, session.compile (index + 1) = .ok further ∧
      further.run collections session.settings.collection = .ok ((selected.drop (index * size)).take size) := by
  obtain ⟨further, compiled⟩ : ∃ further, session.compile (index + 1) = .ok further :=
    ⟨_, Criteria.compile_succ_eq_ok_iff.mpr ⟨query, selects.compiled, rfl⟩⟩
  exact ⟨further, compiled, selects.run_page sized compiled⟩

private theorem exists_selects {session : Session Table} {collections : Collections} {query : Query} {page : List Table}
    (compiled : session.compile 1 = .ok query)
    (answered : query.run collections session.settings.collection = .ok page) :
    ∃ rows selected, session.Selects collections query rows selected := by
  obtain ⟨rows, selected, found, chosen, _⟩ := Query.run_eq_ok_iff.mp answered
  exact ⟨rows, selected, compiled, found, chosen⟩

end Session

namespace Exchange

/-- An executor over fixed collections: it answers each fetch with the rows of its query, or fails. A query whose
conditions fail on a row has no answer. -/
def Served (collections : Collections) (exchange : Exchange Table) : Event Table → Prop
  | .call _ => True
  | .answer number answer => ∀ fetch, exchange.waitingFetch? number = some fetch →
      fetch.answerFrom collections exchange.session.settings.collection = .ok answer ∨
        ∃ message, answer = .failed message

theorem Served.intact {collections : Collections} {exchange : Exchange Table} {event : Event Table}
    (served : exchange.Served collections event) : exchange.Intact event := by
  cases event with
  | call call => trivial
  | answer number answer =>
    cases answer with
    | rows rows => trivial
    | failed message => trivial
    | crashed =>
      refine Option.eq_none_iff_forall_ne_some.mpr fun fetch waits => ?_
      rcases served fetch waits with same | ⟨message, same⟩
      · unfold Fetch.answerFrom at same
        split at same <;> cases same
      · cases same

private theorem Served.run_accepted {collections : Collections} {exchange : Exchange Table} {event : Event Table}
    (served : exchange.Served collections event) {page : Page Table}
    (accepted : exchange.accepted? event = some page) :
    page.fetch.query.run collections exchange.session.settings.collection = .ok page.rows := by
  obtain ⟨number, rfl, waits, _⟩ := accepted?_eq_some_iff.mp accepted
  rcases served page.fetch waits with same | ⟨message, same⟩
  · exact Fetch.answerFrom_eq_rows_iff.mp same
  · cases same

/-- What links an exchange to an executor over fixed collections. -/
structure Paged (collections : Collections) (exchange : Exchange Table) (history : List (Page Table)) : Prop where
  coherent : exchange.Coherent history
  attended : exchange.Attended
  answered : ∀ page ∈ history,
    page.fetch.query.run collections exchange.session.settings.collection = .ok page.rows

variable {collections : Collections}

private theorem paged_opened (collections : Collections) (settings : SessionSettings) (criteria : Criteria) :
    Paged collections (opened settings criteria) [] where
  coherent := coherent_opened settings criteria
  attended := attended_opened settings criteria
  answered := by simp

theorem Paged.step {exchange : Exchange Table} {history : List (Page Table)}
    (paged : exchange.Paged collections history) {event : Event Table} (calm : exchange.Calm event)
    (served : exchange.Served collections event) :
    (exchange.step event).Paged collections (history ++ (exchange.accepted? event).toList) := by
  refine ⟨paged.coherent.step calm, paged.attended.step calm served.intact, fun page member => ?_⟩
  rw [step_settings]
  rcases List.mem_append.mp member with old | new
  · exact paged.answered page old
  · exact served.run_accepted (Option.mem_toList.mp new)

theorem Paged.run {exchange : Exchange Table} {history : List (Page Table)}
    (paged : exchange.Paged collections history) {events : List (Event Table)}
    (calm : Throughout Calm exchange events) (served : Throughout (Served collections) exchange events) :
    (exchange.run events).Paged collections (history ++ exchange.accepted events) := by
  induction events generalizing exchange history with
  | nil => simpa only [run_nil, accepted, List.append_nil] using paged
  | cons event rest ih =>
    have after := ih (paged.step calm.1 served.1) calm.2 served.2
    rwa [List.append_assoc] at after

/-- The pages that a session shows are consecutive windows of one list, which is what the search is about. -/
private theorem Paged.windows {exchange : Exchange Table} {history : List (Page Table)} {size : Nat}
    (paged : exchange.Paged collections history) (sized : exchange.session.settings.pageSize = size)
    (active : exchange.session.rejected = false) (begun : 0 < exchange.session.page) :
    ∃ pages query rows selected, exchange.session.Shows pages ∧
      exchange.session.Selects collections query rows selected ∧ Page.Windows pages size selected := by
  obtain ⟨earlier, pages, split, shows⟩ := paged.coherent.shows active
  have answered : ∀ page ∈ pages,
      page.fetch.query.run collections exchange.session.settings.collection = .ok page.rows := by
    intro page member
    exact paged.answered page (split ▸ List.mem_append_right earlier member)
  obtain ⟨first, there⟩ : ∃ first, pages[0]? = some first := by
    refine ⟨_, List.getElem?_eq_getElem ?_⟩
    rw [shows.count]
    exact begun
  obtain ⟨rows, selected, selects⟩ := Session.exists_selects (shows.compiled 0 first there)
    (answered first (List.mem_of_getElem? there))
  refine ⟨pages, _, rows, selected, shows, selects, fun index page found => ?_⟩
  have ran := selects.run_page sized (shows.compiled index page found)
  exact Except.ok.inj ((answered page (List.mem_of_getElem? found)).symm.trans ran)

/-- Whatever came in or failed, the session shows the selected rows up to the end of its last page, and all
pages before the last are full. -/
theorem Paged.shown {exchange : Exchange Table} {history : List (Page Table)} {size : Nat}
    (paged : exchange.Paged collections history) (sized : exchange.session.settings.pageSize = size)
    (positive : 0 < size) (active : exchange.session.rejected = false) (begun : 0 < exchange.session.page) :
    ∃ query rows selected, exchange.session.Selects collections query rows selected ∧
      exchange.session.results.items = selected.take (exchange.session.page * size) ∧
      (exchange.session.results.hasMore = true ↔ exchange.session.page * size ≤ selected.length) ∧
      (exchange.session.page - 1) * size ≤ selected.length := by
  obtain ⟨pages, query, rows, selected, shows, selects, windows⟩ := paged.windows sized active begun
  obtain ⟨more, reached⟩ := shows.more_of_windows windows sized positive begun
  refine ⟨query, rows, selected, selects, ?_, more, reached⟩
  rw [shows.items begun, windows.flatMap, shows.count]

/-! ## Loading further pages -/

/-- The answer of the executor to the fetch of some number. -/
def reply (collections : Collections) (exchange : Exchange Table) (number : Nat) : Event Table :=
  .answer number <| match exchange.waitingFetch? number with
    | some fetch => (fetch.answerFrom collections exchange.session.settings.collection).toOption.getD .crashed
    | none => .crashed

theorem served_reply {exchange : Exchange Table} {number : Nat}
    (answered : ∀ fetch, exchange.waitingFetch? number = some fetch →
      ∃ answer, fetch.answerFrom collections exchange.session.settings.collection = .ok answer) :
    exchange.Served collections (exchange.reply collections number) := by
  intro fetch waits
  obtain ⟨answer, same⟩ := answered fetch waits
  refine .inl ?_
  rw [waits]
  dsimp only
  rw [same]
  rfl

private theorem calm_reply (exchange : Exchange Table) (number : Nat) :
    exchange.Calm (exchange.reply collections number) :=
  trivial

/-- Ask for a further page, and have the executor answer. -/
def loadPage (collections : Collections) (exchange : Exchange Table) : Exchange Table :=
  let asked := exchange.step (.call .loadMore)
  asked.step (asked.reply collections exchange.issued.length)

/-- Ask for some number of further pages, one after the other. -/
def loadPages (collections : Collections) : Nat → Exchange Table → Exchange Table
  | 0, exchange => exchange
  | count + 1, exchange => loadPages collections count (exchange.loadPage collections)

/-- A session that has loaded pages of the selected rows and waits for nothing. -/
structure Rests (collections : Collections) (selected : List Table) (exchange : Exchange Table) : Prop where
  paged : ∃ history, exchange.Paged collections history
  active : exchange.session.rejected = false
  begun : 0 < exchange.session.page
  quiet : ¬exchange.Pending
  selects : ∃ query rows, exchange.session.Selects collections query rows selected

/-- A further page is asked for by one more fetch, which waits for its answer. -/
theorem step_loadMore_of_ok {exchange : Exchange Table} {query : Query} (ready : exchange.session.isLoading = false)
    (more : exchange.session.results.hasMore = true) (active : exchange.session.rejected = false)
    (compiled : exchange.session.compile (exchange.session.page + 1) = .ok query) :
    let fetch : Fetch := ⟨exchange.session.generation + 1, exchange.session.page + 1, query⟩
    exchange.step (.call .loadMore) = exchange.issue (exchange.session.fetching query) fetch ∧
      (exchange.step (.call .loadMore)).waitingFetch? exchange.issued.length = some fetch := by
  intro fetch
  have asked := exchange.session.call_loadMore_of_ok ready more active compiled
  have step : exchange.step (.call .loadMore) = exchange.issue (exchange.session.fetching query) fetch := by
    rw [step_call_of_waiting (congrArg Prod.snd asked), asked]
  refine ⟨step, ?_⟩
  rw [step, waitingFetch?_eq_some_iff]
  exact ⟨List.mem_append_right _ (List.mem_singleton_self _), List.getElem?_concat_length⟩

private theorem loadPage_of_ok {exchange : Exchange Table} {query : Query} {rows : List Table}
    (ready : exchange.session.isLoading = false) (more : exchange.session.results.hasMore = true)
    (active : exchange.session.rejected = false)
    (compiled : exchange.session.compile (exchange.session.page + 1) = .ok query)
    (answered : query.run collections exchange.session.settings.collection = .ok rows) :
    let fetch : Fetch := ⟨exchange.session.generation + 1, exchange.session.page + 1, query⟩
    let asked := exchange.step (.call .loadMore)
    asked.Served collections (asked.reply collections exchange.issued.length) ∧
      exchange.loadPage collections =
        (exchange.issue (exchange.session.fetching query) fetch).settle
          ((exchange.session.fetching query).receive fetch (.rows rows)) exchange.issued.length := by
  intro fetch asked
  obtain ⟨step, waits⟩ := step_loadMore_of_ok ready more active compiled
  have answer : fetch.answerFrom collections asked.session.settings.collection = .ok (.rows rows) := by
    rw [step_settings]
    exact Fetch.answerFrom_eq_rows_iff.mpr answered
  constructor
  · apply served_reply
    intro other waiting
    obtain rfl : fetch = other := Option.some.inj (waits.symm.trans waiting)
    exact ⟨_, answer⟩
  · change asked.step (.answer _ (match asked.waitingFetch? exchange.issued.length with
      | some fetch => (fetch.answerFrom collections asked.session.settings.collection).toOption.getD .crashed
      | none => .crashed)) = _
    rw [waits]
    dsimp only
    rw [answer, step_answer_of_some _ waits, step]
    rfl

/-- As long as more rows are announced, a further page comes in, with one fetch. -/
theorem Rests.loadPage {exchange : Exchange Table} {selected : List Table} {size : Nat}
    (rests : exchange.Rests collections selected) (sized : exchange.session.settings.pageSize = size)
    (more : exchange.session.results.hasMore = true) :
    (exchange.loadPage collections).Rests collections selected ∧
      (exchange.loadPage collections).session.page = exchange.session.page + 1 ∧
      (exchange.loadPage collections).issued.length = exchange.issued.length + 1 := by
  obtain ⟨history, paged⟩ := rests.paged
  obtain ⟨query, rows, selects⟩ := rests.selects
  have ready : exchange.session.isLoading = false := by
    refine beq_eq_false_iff_ne.mpr fun loading => ?_
    exact rests.quiet (paged.attended.fetching_iff.mp loading)
  obtain ⟨further, compiled, answered⟩ := selects.exists_page sized exchange.session.page
  obtain ⟨served, loaded⟩ := loadPage_of_ok ready more rests.active compiled answered
  have calm : exchange.Calm (.call .loadMore) := by
    rw [Calm, exchange.session.call_loadMore_of_ok ready more rests.active compiled]
    rfl
  obtain ⟨later, paged⟩ : ∃ later, (exchange.loadPage collections).Paged collections later :=
    ⟨_, (paged.step calm trivial).step (calm_reply _ _) served⟩
  -- The session is written out from here on, so that what it has kept is seen by computation.
  rw [loaded, Session.receive_rows _ rfl] at paged ⊢
  refine ⟨⟨⟨later, paged⟩, rests.active, Nat.succ_pos _, fun pending => ?_, query, rows, ?_⟩, rfl, ?_⟩
  · cases paged.attended.fetching_iff.mpr pending
  · exact ⟨selects.compiled, selects.found, selects.selected⟩
  · exact List.length_append

theorem Rests.shown {exchange : Exchange Table} {selected : List Table} {size : Nat}
    (rests : exchange.Rests collections selected) (sized : exchange.session.settings.pageSize = size)
    (positive : 0 < size) :
    exchange.session.results.items = selected.take (exchange.session.page * size) ∧
      (exchange.session.results.hasMore = true ↔ exchange.session.page * size ≤ selected.length) ∧
      exchange.session.page ≤ selected.length / size + 1 := by
  obtain ⟨history, paged⟩ := rests.paged
  obtain ⟨query, rows, selects⟩ := rests.selects
  obtain ⟨other, _, same, found, items, more, reached⟩ := paged.shown sized positive rests.active rests.begun
  obtain rfl : other = query := Except.ok.inj (found.compiled.symm.trans selects.compiled)
  obtain rfl := Option.some.inj (found.found.symm.trans selects.found)
  obtain rfl : same = selected := Except.ok.inj (found.selected.symm.trans selects.selected)
  have bound := (Nat.le_div_iff_mul_le positive).mpr reached
  exact ⟨items, more, by omega⟩

/-- Page after page, the session gets to the end of the selected rows and not further. -/
theorem Rests.loadPages {selected : List Table} {size : Nat} (positive : 0 < size) {further : Nat}
    {exchange : Exchange Table} (rests : exchange.Rests collections selected)
    (sized : exchange.session.settings.pageSize = size)
    (left : exchange.session.page + further = selected.length / size + 1) :
    (∀ count < further, (exchange.loadPages collections count).session.results.hasMore = true) ∧
      (exchange.loadPages collections further).session.results.hasMore = false ∧
      (exchange.loadPages collections further).session.results.items = selected ∧
      (exchange.loadPages collections further).issued.length = exchange.issued.length + further := by
  induction further generalizing exchange with
  | zero =>
    obtain ⟨items, more, _⟩ := rests.shown sized positive
    rw [← Nat.le_div_iff_mul_le positive] at more
    have reached : selected.length < exchange.session.page * size := by
      rw [← Nat.div_lt_iff_lt_mul positive]
      omega
    refine ⟨fun count less => absurd less (Nat.not_lt_zero count), ?_, ?_, rfl⟩
    · rw [← Bool.not_eq_true]
      exact fun announced => absurd (more.mp announced) (by omega)
    · rw [Exchange.loadPages, items, List.take_of_length_le (Nat.le_of_lt reached)]
  | succ further ih =>
    have announced : exchange.session.results.hasMore = true := by
      rw [(rests.shown sized positive).2.1, ← Nat.le_div_iff_mul_le positive]
      omega
    obtain ⟨after, page, issued⟩ := rests.loadPage sized announced
    have kept : (exchange.loadPage collections).session.settings.pageSize = size := by
      rw [Exchange.loadPage, step_settings, step_settings, sized]
    obtain ⟨before, last, all, count⟩ := ih after kept (by omega)
    refine ⟨fun count less => ?_, last, all, ?_⟩
    · cases count with
      | zero => exact announced
      | succ count => exact before count (Nat.lt_of_succ_lt_succ less)
    · rw [Exchange.loadPages, count, issued, Nat.add_assoc, Nat.add_comm 1]

/-- Paging loses no row and doubles none. Over collections that stay as they are, in a run without raising calls
whose fetches may fail, take a state in which the last navigation was not rejected, no fetch is under way, and
pages are counted. The session shows the rows that its present criteria, lookup and categories select, in their
order, up to the end of its last page; it announces more rows exactly as long as there may be some; and loading
page after page it announces none after as many fetches as full pages are left and one more, and shows them all. -/
theorem paging_complete {settings : SessionSettings} {criteria : Criteria} {events : List (Event Table)}
    {size : Nat} (sized : settings.pageSize = size) (positive : 0 < size)
    (calm : Throughout Calm (opened settings criteria) events)
    (served : Throughout (Served collections) (opened settings criteria) events)
    (active : ((opened settings criteria).run events).session.rejected = false)
    (quiet : ¬((opened settings criteria).run events).Pending)
    (begun : 0 < ((opened settings criteria).run events).session.page) :
    let exchange := (opened settings criteria).run events
    ∃ query rows selected, exchange.session.compile 1 = .ok query ∧
      collections.lookup settings.collection = some rows ∧ query.select rows = .ok selected ∧
      query.Decides rows ∧ selected.Perm (rows.filter query.predicate.accepts) ∧
      exchange.session.results.items = selected.take (exchange.session.page * size) ∧
      (exchange.session.results.hasMore = true ↔ exchange.session.page * size ≤ selected.length) ∧
      ∃ further, exchange.session.page + further = selected.length / size + 1 ∧
        (∀ count < further, (exchange.loadPages collections count).session.results.hasMore = true) ∧
        (exchange.loadPages collections further).session.results.hasMore = false ∧
        (exchange.loadPages collections further).session.results.items = selected ∧
        (exchange.loadPages collections further).issued.length = exchange.issued.length + further := by
  intro exchange
  have settled : exchange.session.settings = settings := run_settings _ _
  have paged := (paged_opened collections settings criteria).run calm served
  have sized : exchange.session.settings.pageSize = size := settled ▸ sized
  obtain ⟨query, rows, selected, selects, _⟩ := paged.shown sized positive active begun
  have rests : exchange.Rests collections selected := ⟨⟨_, paged⟩, active, begun, quiet, query, rows, selects⟩
  obtain ⟨items, more, reached⟩ := rests.shown sized positive
  have found := selects.found
  rw [settled] at found
  obtain ⟨decided, perm⟩ := Query.perm_of_select selects.selected
  refine ⟨query, rows, selected, selects.compiled, found, selects.selected, decided, perm, items, more, _,
    Nat.add_sub_cancel' reached, ?_⟩
  exact rests.loadPages positive sized (Nat.add_sub_cancel' reached)

/-- A collection of two full pages. -/
def shelf : Collections :=
  [("books", [[("id", .int 1), ("created_at", .int 10)], [("id", .int 2)], [("id", .int 3), ("created_at", .int 30)],
    [("id", .int 4), ("created_at", .int 20)]])]

/-- A fetch that fails, and one that is still under way. -/
def secondAttempt : List (Event Table) :=
  [.call .resetFilters, .answer 0 (.failed "connection reset"), .call .resetFilters]

theorem paging_complete_shelf :
    let events := secondAttempt ++ [((opened { pageSize := 2 } {}).run secondAttempt).reply shelf 1]
    let exchange := (opened { pageSize := 2 } {}).run events
    Throughout Calm (opened { pageSize := 2 } {}) events ∧
      Throughout (Served shelf) (opened { pageSize := 2 } {}) events ∧
      exchange.session.rejected = false ∧ ¬exchange.Pending ∧ exchange.session.page = 1 ∧
      ∃ selected, selected.length = 4 ∧ exchange.session.results.items = selected.take 2 ∧
        (exchange.loadPages shelf 2).session.results.hasMore = false ∧
        (exchange.loadPages shelf 2).session.results.items = selected ∧
        (exchange.loadPages shelf 2).issued.length = 4 := by
  intro events exchange
  have calm : Throughout Calm (opened { pageSize := 2 } {}) events := by decide +kernel
  have served : Throughout (Served shelf) (opened { pageSize := 2 } {}) events := by
    refine Throughout.append.mpr ⟨⟨trivial, fun _ _ => .inr ⟨_, rfl⟩, trivial, trivial⟩, ?_, trivial⟩
    have answered : ∀ fetch ∈ ((opened { pageSize := 2 } {}).run secondAttempt).waitingFetch? 1,
        (fetch.answerFrom shelf "books").isOk = true := by decide +kernel
    apply served_reply
    intro fetch waits
    cases found : fetch.answerFrom shelf "books" with
    | ok answer => exact ⟨answer, found⟩
    | error error => cases (found ▸ answered fetch waits)
  have active : exchange.session.rejected = false := by decide +kernel
  have count : exchange.session.page = 1 := by decide +kernel
  have fetches : exchange.issued.length = 2 := by decide +kernel
  have quiet : ¬exchange.Pending := by
    rintro ⟨number, fetch, waits, _⟩
    have none : exchange.waiting = [] := by decide +kernel
    rw [waitingFetch?_eq_some_iff, none] at waits
    cases waits.1
  have sized : ({ pageSize := 2 } : SessionSettings).pageSize = (2 : Nat) := rfl
  obtain ⟨query, rows, selected, compiled, found, _, _, perm, items, _, further, left, _, last, all, issued⟩ :=
    paging_complete sized Nat.two_pos calm served active quiet (count ▸ Nat.one_pos)
  have length : selected.length = 4 := by
    have matching : ((exchange.session.compile 1).toOption.bind fun query =>
        (shelf.lookup "books").map fun rows => (rows.filter query.predicate.accepts).length) = some 4 := by
      decide +kernel
    have located : shelf.lookup "books" = some rows := found
    rw [compiled, located] at matching
    rw [perm.length_eq]
    exact Option.some.inj matching
  rw [count] at items left
  obtain rfl : further = 2 := by omega
  exact ⟨calm, served, active, quiet, count, selected, length, items, last, all, issued.trans (by rw [fetches])⟩

end Exchange

end CatalogSearch
