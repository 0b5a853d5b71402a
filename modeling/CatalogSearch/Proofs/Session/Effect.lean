import CatalogSearch.Session.Exchange

/-! # What a call does to a session

A call first changes what the search is about, and then asks for rows. `Session.Effect` lists every way in
which it can end, with the guard under which it ends so; whoever asks what calls keep looks at these cases
and at no call. An answer either is dropped or changes the session in one of two ways.
-/

namespace CatalogSearch

/-- Navigations start a search anew. All other calls go on with the one that is there. -/
def Call.navigates : Call → Bool
  | .navigate _ | .openLink _ => true
  | _ => false

/-- The search text of a request that asks for no lookup. -/
def Request.text? (request : Request) : Option String :=
  if request.hasLookup then none else Request.nonempty request.query

/-- Why a navigation to a request is rejected, if it is. -/
def Request.rejection? (request : Request) : Option Rejection :=
  if request.hasLookup then
    match Session.lookupOf request.field request.value with
    | .ok _ => none
    | .error rejection => some rejection
  else none

/-- The request that a call navigates to. -/
def Call.request? : Call → Option Request
  | .navigate request => some request
  | .openLink link => (Request.ofLink link).toOption
  | _ => none

/-- Why a call is a rejected navigation, if it is one. -/
def Call.rejection? (call : Call) : Option Rejection :=
  call.request?.bind Request.rejection?

/-- The text that a call puts into the search box and reads tokens from. -/
def Call.text? : Call → Option String
  | .navigate request => request.text?
  | .openLink link => (Request.ofLink link).toOption.bind Request.text?
  | .submit text => some text
  | _ => none

namespace Session

variable {α : Type}

/-- The session once the fetch for a query is issued. -/
def fetching (session : Session α) (query : Query) : Session α :=
  { session with
    generation := session.generation + 1
    lastQuery := some query
    status := .fetching
    error := none }

/-- The session after a navigation that leads nowhere. -/
def turnedAway (session : Session α) (rejection : Rejection) : Session α :=
  { session with
    lookup := none
    results := {}
    generation := session.generation + 1
    rejected := true
    status := .failed
    error := some rejection.message }

def withText (session : Session α) (text : String) : Session α :=
  session.withCriteria (session.criteria.set .query (.string text))

/-- What a call changes before it asks for rows. A navigation drops the rows and the verdict on the
navigation before it. -/
inductive Prepared (session : Session α) : Bool → Session α → Prop where
  | refined (criteria : Criteria) (categories : List String) :
      Prepared session false { session with criteria, categories }
  | navigated (criteria : Criteria) (lookup : Option Lookup) :
      Prepared session true { session with criteria, lookup, results := {}, rejected := false }

/-- What a call does before it puts a text into the search box. -/
def cleared (session : Session α) (navigates : Bool) : Session α :=
  if navigates then { session with lookup := none, results := {}, rejected := false } else session

/-- What a call can do to a session, and how it goes on. -/
inductive Effect (session : Session α) (call : Call) : Session α → Outcome → Prop where
  /-- While the last navigation stands rejected, changes are noted and nothing is fetched. -/
  | noted {base : Session α} (stays : call.navigates = false) (prepared : session.Prepared false base)
      (muted : session.rejected = true) : Effect session call base .done
  /-- No further page is asked for. -/
  | paused (asks : call = .loadMore)
      (stop : session.isLoading = true ∨ session.results.hasMore = false ∨ session.rejected = true) :
      Effect session call session .done
  | turnedAway {rejection : Rejection} (rejects : call.rejection? = some rejection) :
      Effect session call (session.turnedAway rejection) .done
  /-- The first page is fetched, and the count of pages starts again. -/
  | opened {base : Session α} {query : Query} (prepared : session.Prepared call.navigates base)
      (active : base.rejected = false) (compiled : base.compile 1 = .ok query) (anew : call ≠ .loadMore)
      (admitted : call.rejection? = none) :
      Effect session call (({ base with page := 0 } : Session α).fetching query)
        (.waiting ⟨base.generation + 1, 1, query⟩)
  /-- The page after the last one is fetched. -/
  | extended {query : Query} (asks : call = .loadMore) (ready : session.isLoading = false)
      (more : session.results.hasMore = true) (active : session.rejected = false)
      (compiled : session.compile (session.page + 1) = .ok query) :
      Effect session call (session.fetching query) (.waiting ⟨session.generation + 1, session.page + 1, query⟩)
  /-- The call is refused before it changes anything. -/
  | refused {error : CallError} (named : ∀ number, error ≠ .number number) :
      Effect session call session (.raised error)
  /-- A number in the search text cannot be read; the text stays in the search box. -/
  | misread {text : String} {error : Number.IntegerError} (asks : call.text? = some text)
      (unread : Token.allChanges (Token.ofText text) = .error error) :
      Effect session call ((session.cleared call.navigates).withText text) (.raised (.number error))
  /-- There is no query for the first page. -/
  | unopened {base : Session α} {error : Number.IntegerError} (prepared : session.Prepared call.navigates base)
      (active : base.rejected = false) (failed : base.compile 1 = .error error) :
      Effect session call { base with generation := base.generation + 1, page := 0 } (.raised (.number error))
  /-- There is no query for the page after the last one. -/
  | unextended {error : Number.IntegerError} (asks : call = .loadMore) (ready : session.isLoading = false)
      (more : session.results.hasMore = true) (active : session.rejected = false)
      (failed : session.compile (session.page + 1) = .error error) :
      Effect session call { session with generation := session.generation + 1 } (.raised (.number error))

theorem Prepared.generation {session base : Session α} {navigates : Bool}
    (prepared : session.Prepared navigates base) : base.generation = session.generation := by
  cases prepared <;> rfl

theorem Prepared.settings {session base : Session α} {navigates : Bool}
    (prepared : session.Prepared navigates base) : base.settings = session.settings := by
  cases prepared <;> rfl

theorem refresh_of_rejected {session : Session α} (page : Nat) (muted : session.rejected = true) :
    session.refresh page = (session, .done) := by
  simp only [refresh, muted, if_true]

theorem refresh_of_ok {session : Session α} {page : Nat} {query : Query} (active : session.rejected = false)
    (compiled : session.compile page = .ok query) :
    session.refresh page =
      (({ session with page := if page = 1 then 0 else session.page } : Session α).fetching query,
        .waiting ⟨session.generation + 1, page, query⟩) := by
  simp only [compile] at compiled
  simp only [refresh, active, Bool.false_eq_true, if_false, compile, compiled, fetching]

theorem refresh_of_error {session : Session α} {page : Nat} {error : Number.IntegerError}
    (active : session.rejected = false) (failed : session.compile page = .error error) :
    session.refresh page =
      ({ session with
          generation := session.generation + 1, page := if page = 1 then 0 else session.page },
        .raised (.number error)) := by
  simp only [compile] at failed
  simp only [refresh, active, Bool.false_eq_true, if_false, compile, failed]

theorem submit_of_ok {session : Session α} {text : String} {changes : List (Filter × Value)}
    (read : Token.allChanges (Token.ofText text) = .ok changes) :
    session.submit text =
      (session.withCriteria ((session.criteria.set .query (.string text)).setAll changes)).refresh 1 := by
  simp only [submit, read, withCriteria]

theorem submit_of_error {session : Session α} {text : String} {error : Number.IntegerError}
    (unread : Token.allChanges (Token.ofText text) = .error error) :
    session.submit text = (session.withText text, .raised (.number error)) := by
  simp only [submit, unread, withText]

theorem prepared_cleared (session : Session α) (navigates : Bool) :
    session.Prepared navigates (session.cleared navigates) := by
  cases navigates with
  | false => exact .refined session.criteria session.categories
  | true => exact .navigated session.criteria none

/-- A change of criteria is of the same kind as the change that it comes on top of. -/
theorem Prepared.withCriteria {session base : Session α} {navigates : Bool}
    (prepared : session.Prepared navigates base) (criteria : Criteria) :
    session.Prepared navigates (base.withCriteria criteria) := by
  cases prepared with
  | refined _ categories => exact .refined criteria categories
  | navigated _ lookup => exact .navigated criteria lookup

private theorem Prepared.stays_of_rejected {session base : Session α} {navigates : Bool}
    (prepared : session.Prepared navigates base) (muted : base.rejected = true) :
    navigates = false ∧ session.rejected = true := by
  cases prepared with
  | refined => exact ⟨rfl, muted⟩
  | navigated => cases muted

/-- Asking for the first page is one of three cases. -/
theorem Prepared.refresh {session base : Session α} {call : Call}
    (prepared : session.Prepared call.navigates base) (anew : call ≠ .loadMore)
    (admitted : call.rejection? = none) :
    session.Effect call (base.refresh 1).1 (base.refresh 1).2 := by
  cases muted : base.rejected with
  | true =>
    obtain ⟨stays, muted'⟩ := prepared.stays_of_rejected muted
    rw [refresh_of_rejected 1 muted]
    exact .noted stays (stays ▸ prepared) muted'
  | false =>
    cases compiled : base.compile 1 with
    | ok query =>
      rw [refresh_of_ok muted compiled, if_pos rfl]
      exact .opened prepared muted compiled anew admitted
    | error error =>
      rw [refresh_of_error muted compiled, if_pos rfl]
      exact .unopened prepared muted compiled

private theorem submit_effect (session : Session α) {call : Call} {text : String} (asks : call.text? = some text)
    (anew : call ≠ .loadMore) (admitted : call.rejection? = none) :
    session.Effect call ((session.cleared call.navigates).submit text).1
      ((session.cleared call.navigates).submit text).2 := by
  cases read : Token.allChanges (Token.ofText text) with
  | ok changes =>
    rw [submit_of_ok read]
    exact ((session.prepared_cleared call.navigates).withCriteria _).refresh anew admitted
  | error error =>
    rw [submit_of_error read]
    exact .misread asks read

private theorem navigate_effect (session : Session α) {call : Call} {request : Request}
    (goes : call.navigates = true) (asks : call.text? = request.text?)
    (verdict : call.rejection? = request.rejection?) :
    session.Effect call (session.navigate request).1 (session.navigate request).2 := by
  have prepared (criteria : Criteria) (lookup : Option Lookup) : session.Prepared call.navigates
      { session with criteria, lookup, results := {}, rejected := false } := by
    rw [goes]
    exact .navigated criteria lookup
  have anew : call ≠ .loadMore := by
    rintro rfl
    cases goes
  unfold navigate
  split
  · next asked =>
    rw [Request.rejection?, if_pos asked] at verdict
    unfold navigateLookup
    split
    · next found =>
      rw [found] at verdict
      exact (prepared _ _).refresh anew verdict
    · next found =>
      rw [found] at verdict
      exact .turnedAway verdict
  · next direct =>
    have admitted : call.rejection? = none := verdict.trans (if_neg direct)
    split
    · next text given =>
      have submitted := session.submit_effect (asks.trans ((if_neg direct).trans given)) anew admitted
      rwa [goes] at submitted
    · exact (prepared _ _).refresh anew admitted

/-- A later page leaves the count of pages alone. -/
private theorem page_kept (session : Session α) :
    (if session.page + 1 = 1 then 0 else session.page) = session.page := by
  split <;> omega

/-- Every call has one of the listed effects. -/
theorem call_effect (session : Session α) (call : Call) :
    session.Effect call (session.call call).1 (session.call call).2 := by
  cases call with
  | navigate request => exact session.navigate_effect rfl rfl rfl
  | openLink link =>
    simp only [Session.call]
    split
    · next request read =>
      refine session.navigate_effect rfl ?_ ?_
      · simp only [Call.text?, read, Except.toOption, Option.bind_some]
      · simp only [Call.rejection?, Call.request?, read, Except.toOption, Option.bind_some]
    · exact .refused (by simp)
  | submit text => exact session.submit_effect rfl (by simp) rfl
  | update updates =>
    simp only [Session.call]
    split
    · exact Prepared.refresh (.refined _ session.categories) (by simp) rfl
    · exact .refused (by simp)
  | resetFilters => exact Prepared.refresh (.refined session.settings.defaults session.categories) (by simp) rfl
  | setCategories labels => exact Prepared.refresh (.refined session.criteria _) (by simp) rfl
  | toggleCategory label => exact Prepared.refresh (.refined session.criteria _) (by simp) rfl
  | loadMore =>
    simp only [Session.call]
    split
    · next stop =>
      refine .paused rfl ?_
      simpa only [Bool.or_eq_true, Bool.not_eq_eq_eq_not, Bool.not_true, or_assoc] using stop
    · next go =>
      simp only [Bool.or_eq_true, Bool.not_eq_eq_eq_not, Bool.not_true, not_or, Bool.not_eq_true,
        Bool.not_eq_false] at go
      obtain ⟨⟨ready, more⟩, active⟩ := go
      cases compiled : session.compile (session.page + 1) with
      | ok query =>
        rw [refresh_of_ok active compiled, page_kept]
        exact .extended rfl ready more active compiled
      | error error =>
        rw [refresh_of_error active compiled, page_kept]
        exact .unextended rfl ready more active compiled

/-- Where nothing stands against it, a further page is fetched. -/
theorem call_loadMore_of_ok {session : Session α} {query : Query} (ready : session.isLoading = false)
    (more : session.results.hasMore = true) (active : session.rejected = false)
    (compiled : session.compile (session.page + 1) = .ok query) :
    session.call .loadMore =
      (session.fetching query, .waiting ⟨session.generation + 1, session.page + 1, query⟩) := by
  have go : (session.isLoading || !session.results.hasMore || session.rejected) = false := by
    rw [ready, more, active]
    rfl
  rw [Session.call, go, if_neg Bool.false_ne_true, refresh_of_ok active compiled, page_kept]

theorem Effect.settings {session after : Session α} {call : Call} {outcome : Outcome}
    (effect : session.Effect call after outcome) : after.settings = session.settings := by
  cases effect with
  | noted _ prepared | opened prepared | unopened prepared => exact prepared.settings
  | misread => exact (session.prepared_cleared call.navigates).settings
  | paused | turnedAway | extended | refused | unextended => rfl

/-- A generation never comes back. -/
theorem Effect.generation_le {session after : Session α} {call : Call} {outcome : Outcome}
    (effect : session.Effect call after outcome) : session.generation ≤ after.generation := by
  cases effect with
  | noted _ prepared => exact Nat.le_of_eq prepared.generation.symm
  | misread => exact Nat.le_of_eq (session.prepared_cleared call.navigates).generation.symm
  | opened prepared | unopened prepared =>
    have same := prepared.generation
    simp only [fetching]
    omega
  | paused | refused => exact Nat.le_refl _
  | turnedAway | extended | unextended => exact Nat.le_succ _

/-- An issued fetch carries the generation that the session has from then on, which is a new one. -/
theorem Effect.waiting {session after : Session α} {call : Call} {fetch : Fetch}
    (effect : session.Effect call after (.waiting fetch)) :
    fetch.generation = after.generation ∧ after.generation = session.generation + 1 := by
  cases effect with
  | opened prepared => simp only [fetching, prepared.generation, and_self]
  | extended => simp only [fetching, and_self]

/-- Of all navigations only a rejected one is done at once, and it starts a new generation too. -/
theorem Effect.done_of_navigates {session after : Session α} {call : Call}
    (effect : session.Effect call after .done) (goes : call.navigates = true) :
    after.generation = session.generation + 1 := by
  cases effect with
  | turnedAway => rfl
  | noted stays => cases goes.symm.trans stays
  | paused asks =>
    subst asks
    cases goes

theorem receive_of_ne {session : Session α} {fetch : Fetch} (answer : Answer α)
    (late : fetch.generation ≠ session.generation) : session.receive fetch answer = session := by
  simp only [receive, ne_eq, late, not_false_eq_true, if_true]

theorem receive_rows {session : Session α} {fetch : Fetch} (rows : List α)
    (current : fetch.generation = session.generation) :
    session.receive fetch (.rows rows) =
      { session with
        results := session.results.addPage session.settings.pageSize fetch.page rows
        page := fetch.page
        status := .success } := by
  simp only [receive, current, ne_eq, not_true_eq_false, if_false]

theorem receive_failed {session : Session α} {fetch : Fetch} (message : String)
    (current : fetch.generation = session.generation) :
    session.receive fetch (.failed message) =
      { session with status := .failed, error := some ("Error fetching books: " ++ message) } := by
  simp only [receive, current, ne_eq, not_true_eq_false, if_false]

theorem receive_crashed (session : Session α) (fetch : Fetch) : session.receive fetch .crashed = session := by
  simp only [receive, ite_self]

theorem receive_settings (session : Session α) (fetch : Fetch) (answer : Answer α) :
    (session.receive fetch answer).settings = session.settings := by
  unfold receive
  split
  · rfl
  · cases answer <;> rfl

theorem receive_generation (session : Session α) (fetch : Fetch) (answer : Answer α) :
    (session.receive fetch answer).generation = session.generation := by
  unfold receive
  split
  · rfl
  · cases answer <;> rfl

end Session

end CatalogSearch
