import CatalogSearch.Proofs.Query.Columns
import CatalogSearch.Proofs.Session.Paging
import CatalogSearch.Session.Search

/-! # A search is one query

A search that navigates, refines and loads pages, fetching anew at each step, ends where a single query would:
with the first rows that the last criteria select. Over books no fetch fails, so that nothing but the end of
the rows stops it early.
-/

namespace CatalogSearch

/-- The lookup that a request asks for, if it can be carried out. -/
def Request.lookup? (request : Request) : Option Lookup :=
  if request.hasLookup then (Session.lookupOf request.field request.value).toOption else none

/-- The criteria of a navigation that starts from the default ones. A lookup is written into the search box, and
so is a search text, whose tokens change further filters. -/
def Request.criteria (request : Request) (defaults : Criteria) : Except Number.IntegerError Criteria :=
  match request.lookup?, request.text? with
  | some lookup, _ => .ok (defaults.set .query (.string lookup.searchText))
  | none, some text => (Token.allChanges (Token.ofText text)).map (defaults.set .query (.string text)).setAll
  | none, none => .ok defaults

/-- Collections that give rows under some name and can select and sort them under every query for a page of
results. -/
structure Collections.Answers (collections : Collections) (name : String) (rows : List Table) : Prop where
  found : collections.lookup name = some rows
  decided : ∀ {criteria : Criteria} {lookup : Option Lookup} {categories : List Value} {page pageSize : Int}
    {query : Query}, criteria.compile lookup categories page pageSize = .ok query → query.Decides rows
  sortable : ∀ {criteria : Criteria} {lookup : Option Lookup} {categories : List Value} {page pageSize : Int}
    {query : Query}, criteria.compile lookup categories page pageSize = .ok query →
    query.Sortable (rows.filter query.predicate.accepts)

private theorem Collections.answers_books (name : String) (books : List Book) :
    Collections.Answers [(name, books.map Book.toTable)] name (books.map Book.toTable) where
  found := List.lookup_cons_self
  decided compiled := Criteria.decides_of_compile compiled books
  sortable compiled := Criteria.sortable_of_compile compiled books

namespace Session

variable {collections : Collections} {rows selected : List Table} {size : Nat} {session : Session Table}

/-! ## Loading pages -/

/-- A session that shows the first pages of some rows, and waits for nothing. -/
structure Loaded (session : Session Table) (collections : Collections) (selected : List Table) (size : Nat) :
    Prop where
  sized : session.settings.pageSize = size
  active : session.rejected = false
  status : session.status = .success
  calm : session.error = none
  selects : ∃ query rows, session.Selects collections query rows selected
  items : session.results.items = selected.take (session.page * size)
  more : session.results.hasMore = true ↔ session.page * size ≤ selected.length

theorem callOver_of_waiting {call : Call} {after : Session Table} {fetch : Fetch} {page : List Table}
    (asked : session.call call = (after, .waiting fetch)) (current : fetch.generation = after.generation)
    (answered : fetch.query.run collections after.settings.collection = .ok page) :
    session.callOver collections call = .ok { after with
      results := after.results.addPage after.settings.pageSize fetch.page page
      page := fetch.page
      status := .success } := by
  have answer := Fetch.answerFrom_eq_rows_iff.mpr answered
  simp only [callOver, asked, answer, receive_rows page current]

/-- A window that comes in behind the windows before it. -/
theorem items_addPage {results : Results Table} {pageSize : Int} (count : Nat)
    (before : count ≠ 0 → results.items = selected.take (count * size)) :
    (results.addPage pageSize ((count + 1 : Nat) : Int) ((selected.drop (count * size)).take size)).items =
      selected.take ((count + 1) * size) := by
  unfold Results.addPage
  cases count with
  | zero => simp
  | succ count =>
    have later : ¬((count + 1 + 1 : Nat) : Int) ≤ 1 := by omega
    rw [if_neg later, before (Nat.succ_ne_zero count), ← List.take_add, Nat.succ_mul (count + 1)]

/-- A window is full if the rows reach its end. -/
theorem more_addPage {results : Results Table} {index : Int} (count : Nat) :
    (results.addPage size index ((selected.drop (count * size)).take size)).hasMore = true ↔
      (count + 1) * size ≤ selected.length := by
  rcases Nat.eq_zero_or_pos size with rfl | positive
  · simp [Results.addPage]
  · simp only [Results.addPage, beq_iff_eq, List.length_take, List.length_drop, Nat.succ_mul]
    omega

/-- While more rows are announced, the next page comes in. -/
theorem Loaded.loadMore (loaded : session.Loaded collections selected size)
    (more : session.results.hasMore = true) :
    ∃ after, session.callOver collections .loadMore = .ok after ∧ after.Loaded collections selected size ∧
      after.page = session.page + 1 := by
  obtain ⟨query, rows, selects⟩ := loaded.selects
  have ready : session.isLoading = false := by
    rw [isLoading, loaded.status]
    rfl
  obtain ⟨further, compiled, answered⟩ := selects.exists_page loaded.sized session.page
  have asked := session.call_loadMore_of_ok ready more loaded.active compiled
  refine ⟨_, callOver_of_waiting asked rfl answered, ?_, rfl⟩
  refine ⟨loaded.sized, loaded.active, rfl, rfl,
    ⟨query, rows, selects.compiled, selects.found, selects.selected⟩, ?_, ?_⟩
  · exact items_addPage session.page fun _ => loaded.items
  · have kept : (session.fetching further).settings.pageSize = size := loaded.sized
    rw [kept]
    exact more_addPage session.page

/-- Up to some number of further pages come in, or as many as there are. -/
theorem Loaded.loadPages (loaded : session.Loaded collections selected size) (further : Nat) :
    ∃ after, Session.loadPages collections further session = .ok after ∧ after.view.error = none ∧
      after.view.items = selected.take ((session.page + further) * size) ∧
      (after.view.hasMore = true ↔ (session.page + further) * size ≤ selected.length) := by
  induction further generalizing session with
  | zero => exact ⟨session, rfl, loaded.calm, loaded.items, loaded.more⟩
  | succ further ih =>
    have calm : session.view.error.isNone = true := Option.isNone_iff_eq_none.mpr loaded.calm
    cases announced : session.results.hasMore with
    | true =>
      obtain ⟨next, loads, rests, counted⟩ := loaded.loadMore announced
      obtain ⟨after, done, shown⟩ := ih rests
      have go : (session.view.hasMore && session.view.error.isNone) = true := Bool.and_eq_true_iff.mpr ⟨announced, calm⟩
      refine ⟨after, ?_, ?_⟩
      · simp only [Session.loadPages, go, if_true, loads]
        exact done
      · rw [counted, Nat.add_right_comm] at shown
        exact shown
    | false =>
      -- The last page ended the rows, so that further ones would add none.
      have short : selected.length < session.page * size := by
        rw [← Nat.not_le, ← loaded.more, announced]
        exact Bool.false_ne_true
      have further : session.page * size ≤ (session.page + (further + 1)) * size :=
        Nat.mul_le_mul_right size (Nat.le_add_right _ _)
      have stop : (session.view.hasMore && session.view.error.isNone) = false := by
        rw [view, announced, Bool.false_and]
      refine ⟨session, ?_, loaded.calm, ?_, ?_⟩
      · simp only [Session.loadPages, stop, Bool.false_eq_true, if_false]
      · rw [view, loaded.items, List.take_of_length_le (by omega), List.take_of_length_le (by omega)]
      · rw [view, announced]
        simp only [Bool.false_eq_true, false_iff]
        omega

/-! ## First pages -/

/-- A session that shows the first page of the rows that some criteria, lookup and categories select. -/
structure Opened (session : Session Table) (collections : Collections) (rows : List Table) (size : Nat)
    (criteria : Criteria) (lookup : Option Lookup) (categories : List String) : Prop where
  criteria : session.criteria = criteria
  lookup : session.lookup = lookup
  categories : session.categories = categories
  first : session.page = 1
  answers : collections.Answers session.settings.collection rows
  loaded : ∃ query, session.compile 1 = .ok query ∧ session.Loaded collections (query.ordered rows) size

variable {after base : Session Table} {criteria : Criteria} {lookup : Option Lookup} {categories : List String}

private theorem selects_of_answers {query : Query} (answers : collections.Answers session.settings.collection rows)
    (compiled : session.compile 1 = .ok query) : session.Selects collections query rows (query.ordered rows) :=
  ⟨compiled, answers.found, Query.select_eq (answers.decided compiled) (answers.sortable compiled)⟩

/-- A call that asks for the first page of a state shows it. -/
theorem opened_of_refresh {call : Call} (asks : session.call call = base.refresh 1)
    (answers : collections.Answers base.settings.collection rows) (sized : base.settings.pageSize = size)
    (active : base.rejected = false) (done : session.callOver collections call = .ok after) :
    after.Opened collections rows size base.criteria base.lookup base.categories := by
  cases compiled : base.compile 1 with
  | error error =>
    rw [refresh_of_error active compiled] at asks
    simp only [callOver, asks] at done
    cases done
  | ok query =>
    rw [refresh_of_ok active compiled] at asks
    have selects := selects_of_answers answers compiled
    have answered : query.run collections base.settings.collection =
        .ok (((query.ordered rows).drop (0 * size)).take size) := selects.run_page sized compiled
    rw [callOver_of_waiting asks rfl answered] at done
    cases done
    refine ⟨rfl, rfl, rfl, rfl, answers, query, compiled, sized, active, rfl, rfl, ⟨query, rows, ?_⟩, ?_, ?_⟩
    · exact ⟨compiled, selects.found, selects.selected⟩
    · exact items_addPage 0 (absurd rfl)
    · dsimp only [fetching]
      rw [sized]
      exact more_addPage 0

theorem Opened.active (opened : session.Opened collections rows size criteria lookup categories) :
    session.rejected = false := by
  obtain ⟨_, _, loaded⟩ := opened.loaded
  exact loaded.active

theorem Opened.sized (opened : session.Opened collections rows size criteria lookup categories) :
    session.settings.pageSize = size := by
  obtain ⟨_, _, loaded⟩ := opened.loaded
  exact loaded.sized

theorem Opened.update (opened : session.Opened collections rows size criteria lookup categories) {updates : Table}
    (done : session.callOver collections (.update updates) = .ok after) :
    ∃ updated, criteria.update updates = .ok updated ∧
      after.Opened collections rows size updated lookup categories := by
  obtain rfl := opened.criteria
  obtain rfl := opened.lookup
  obtain rfl := opened.categories
  cases changed : session.criteria.update updates with
  | error error =>
    simp only [callOver, call, changed] at done
    cases done
  | ok updated =>
    have asks : session.call (.update updates) = (session.withCriteria updated).refresh 1 := by
      simp only [call, changed]
    exact ⟨updated, rfl, opened_of_refresh asks opened.answers opened.sized opened.active done⟩

theorem Opened.setCategories (opened : session.Opened collections rows size criteria lookup categories)
    {labels : List String} (done : session.callOver collections (.setCategories labels) = .ok after) :
    after.Opened collections rows size criteria lookup (distinctLabels labels) := by
  obtain rfl := opened.criteria
  obtain rfl := opened.lookup
  have asks : session.call (.setCategories labels) =
      ({ session with categories := distinctLabels labels } : Session Table).refresh 1 := rfl
  exact opened_of_refresh asks opened.answers opened.sized opened.active done

/-- Updating nothing is left out, and changes nothing if it is not. -/
private theorem Opened.updateStep (opened : session.Opened collections rows size criteria lookup categories)
    {updates : Table} (done : (if updates.isEmpty then .ok session
      else session.callOver collections (.update updates)) = .ok after) :
    ∃ updated, criteria.update updates = .ok updated ∧
      after.Opened collections rows size updated lookup categories := by
  split at done
  · next none =>
    rw [List.isEmpty_iff.mp none]
    cases done
    exact ⟨criteria, rfl, opened⟩
  · exact opened.update done

private theorem Opened.categoryStep (opened : session.Opened collections rows size criteria lookup [])
    {labels : List String} (done : (if labels.isEmpty then .ok session
      else session.callOver collections (.setCategories labels)) = .ok after) :
    after.Opened collections rows size criteria lookup (distinctLabels labels) := by
  split at done
  · next none =>
    rw [List.isEmpty_iff.mp none]
    cases done
    exact opened
  · exact opened.setCategories done

theorem Opened.refine (opened : session.Opened collections rows size criteria lookup []) {search : Search}
    (done : session.refine collections search = .ok after) :
    ∃ updated, criteria.update search.updates = .ok updated ∧
      after.Opened collections rows size updated lookup (distinctLabels search.categories) := by
  have steps : ((if search.updates.isEmpty then .ok session
      else session.callOver collections (.update search.updates)).bind fun middle =>
        if search.categories.isEmpty then .ok middle
        else middle.callOver collections (.setCategories search.categories)) = .ok after := by
    rw [← done, Session.refine]
    split <;> rfl
  obtain ⟨middle, updating, selecting⟩ := bind_eq_ok_iff.mp steps
  obtain ⟨updated, changed, opened⟩ := opened.updateStep updating
  exact ⟨updated, changed, opened.categoryStep selecting⟩

/-- An accepted navigation of a new session opens what the request asks for. -/
theorem opened_navigate {settings : SessionSettings} {request : Request} (admitted : request.rejection? = none)
    (answers : collections.Answers settings.collection rows) (sized : settings.pageSize = size)
    (done : (start settings).callOver collections (.navigate request) = .ok after) :
    ∃ asked, request.criteria settings.defaults = .ok asked ∧
      after.Opened collections rows size asked request.lookup? [] := by
  -- Whatever the request asks for, the first page is fetched for it.
  have opens {asked : Criteria} {lookup : Option Lookup} (asks : (start settings).call (.navigate request) =
      ({ start settings with criteria := asked, lookup } : Session Table).refresh 1) :
      after.Opened collections rows size asked lookup [] :=
    opened_of_refresh asks answers sized rfl done
  cases asked : request.hasLookup with
  | true =>
    cases found : lookupOf request.field request.value with
    | error rejection => simp [Request.rejection?, asked, found] at admitted
    | ok lookup =>
      have wanted : request.lookup? = some lookup := by
        rw [Request.lookup?, if_pos asked, found]
        rfl
      rw [Request.criteria, wanted]
      refine ⟨_, rfl, opens ?_⟩
      simp only [call, navigate, asked, if_true, navigateLookup, found]
      rfl
  | false =>
    have wanted : request.lookup? = none := by
      rw [Request.lookup?, asked]
      rfl
    have written : request.text? = Request.nonempty request.query := by
      rw [Request.text?, asked]
      rfl
    rw [Request.criteria, wanted, written]
    cases given : Request.nonempty request.query with
    | none =>
      refine ⟨_, rfl, opens ?_⟩
      simp only [call, navigate, asked, given]
      rfl
    | some text =>
      cases read : Token.allChanges (Token.ofText text) with
      | error error =>
        simp [callOver, call, navigate, asked, given, submit, read] at done
      | ok changes =>
        refine ⟨(settings.defaults.set .query (.string text)).setAll changes, ?_, opens ?_⟩
        · simp only [read, Except.map]
        · simp only [call, navigate, asked, given, submit, read]
          rfl

/-- A search over books is one query. Where no call raises and the navigation is not rejected, the session ends
without an error. It shows, page by page as far as it was asked to go, the rows that the last criteria select: the
default ones as the request and then the updates change them. It announces more rows if there are as many as were
asked for. -/
theorem search_eq_query {settings : SessionSettings} {books : List Book} {search : Search} {size : Nat}
    {session : Session Table} (sized : settings.pageSize = size) (counted : 0 < search.pages)
    (admitted : search.request.rejection? = none)
    (done : (start settings).search [(settings.collection, books.map Book.toTable)] search = .ok session) :
    ∃ asked criteria query, search.request.criteria settings.defaults = .ok asked ∧
      asked.update search.updates = .ok criteria ∧
      criteria.compile search.request.lookup? ((distinctLabels search.categories).map .string) 1 size = .ok query ∧
      query.Decides (books.map Book.toTable) ∧ session.view.error = none ∧
      session.view.items = (query.ordered (books.map Book.toTable)).take (search.pages * size) ∧
      (session.view.hasMore = true ↔
        search.pages * size ≤ (books.map Book.toTable).countP query.predicate.accepts) := by
  have answers := Collections.answers_books settings.collection books
  obtain ⟨opened, navigated, done⟩ := bind_eq_ok_iff.mp done
  obtain ⟨asked, read, opening⟩ := opened_navigate admitted answers sized navigated
  have calm : opened.view.error.isSome = false := by
    obtain ⟨_, _, loaded⟩ := opening.loaded
    rw [view, loaded.calm]
    rfl
  rw [calm, if_neg Bool.false_ne_true] at done
  obtain ⟨refined, refining, done⟩ := bind_eq_ok_iff.mp done
  obtain ⟨criteria, updated, refined⟩ := opening.refine refining
  obtain ⟨query, compiled, loaded⟩ := refined.loaded
  obtain ⟨last, ran, error, items, more⟩ := loaded.loadPages (search.pages - 1)
  obtain rfl : last = session := Except.ok.inj (ran.symm.trans done)
  rw [refined.first, Nat.add_sub_cancel' counted] at items more
  rw [Query.length_ordered] at more
  rw [compile, refined.criteria, refined.lookup, refined.categories, loaded.sized] at compiled
  exact ⟨asked, criteria, query, read, updated, compiled, answers.decided compiled, error, items, more⟩

/-- Three books in English, one of them without a date, and one in German. -/
def trilogy : List Book :=
  [{ id := "1", title := "Dune", language := some "en", publishedDate := some "1965", categories := ["saga"] },
    { id := "2", title := "Dune Messiah", language := some "en", categories := ["saga"] },
    { id := "3", title := "Children of Dune", language := some "en", publishedDate := some "1976",
      categories := ["saga", "desert"] },
    { id := "4", title := "Dune", language := some "de", publishedDate := some "1970", categories := ["saga"] }]

/-- A search with a token in its text, an update that keeps the filter of the token, and categories. -/
def trilogySearch : Search where
  request := { query := some "dune language:en" }
  updates := [("sortBy", .string "year"), ("query", .string "dune")]
  categories := ["saga", "", "saga"]
  pages := 2

theorem search_eq_query_trilogy :
    ∃ session asked criteria query,
      (start { pageSize := 1 }).search [("books", trilogy.map Book.toTable)] trilogySearch = .ok session ∧
      trilogySearch.request.criteria {} = .ok asked ∧ asked.update trilogySearch.updates = .ok criteria ∧
      criteria.compile none [.string "saga"] 1 1 = .ok query ∧ session.view.error = none ∧
      session.view.items = (query.ordered (trilogy.map Book.toTable)).take 2 ∧
      session.view.items.map (fun row => (row.column "title").asText?) = [some "Children of Dune", some "Dune"] ∧
      2 ≤ (trilogy.map Book.toTable).countP query.predicate.accepts := by
  have reached : ((start { pageSize := 1 }).search [("books", trilogy.map Book.toTable)] trilogySearch).toOption.map
      (fun session => (session.view.items.map fun row => (row.column "title").asText?, session.view.hasMore)) =
      some ([some "Children of Dune", some "Dune"], true) := by decide +kernel
  have sized : ({ pageSize := 1 } : SessionSettings).pageSize = (1 : Nat) := rfl
  cases done : (start { pageSize := 1 }).search [("books", trilogy.map Book.toTable)] trilogySearch with
  | error error =>
    rw [done] at reached
    cases reached
  | ok session =>
    rw [done] at reached
    obtain ⟨titles, more⟩ := Prod.mk.inj (Option.some.inj reached)
    obtain ⟨asked, criteria, query, read, updated, compiled, _, error, items, announced⟩ :=
      search_eq_query sized Nat.two_pos (by decide +kernel) done
    exact ⟨session, asked, criteria, query, rfl, read, updated, compiled, error, items, titles, announced.mp more⟩

end Session

end CatalogSearch
