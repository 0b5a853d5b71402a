import CatalogSearch.Filter.Update
import CatalogSearch.Link.Request
import CatalogSearch.Query.Compile
import CatalogSearch.Session.Results

/-! # Search sessions

A session turns navigations and interactive changes into fetches. A call either raises, ends at once, or
issues one fetch, which carries the generation of the session at that moment. Answers may come in any order;
one whose generation is over is dropped. After a rejected navigation nothing is fetched until the next
navigation.
-/

namespace CatalogSearch

/-- The state of the newest fetch. -/
inductive Status where
  | idle
  | fetching
  | success
  | failed
  deriving DecidableEq, Repr

/-- Why a navigation is rejected. -/
inductive Rejection where
  | incomplete
  | unknownField (name : String)
  deriving DecidableEq, Repr

def Rejection.message : Rejection → String
  | .incomplete => "Missing metadata field or value"
  | .unknownField name => "Unknown metadata field: " ++ name

/-- Why a call raises. -/
inductive CallError where
  | unknownFilter (error : UnknownFilter)
  | number (error : Number.IntegerError)
  | link (error : Link.LinkError)
  deriving DecidableEq, Repr

/-- A query that was issued, with the generation and the page that it is for. -/
structure Fetch where
  generation : Nat
  page : Nat
  query : Query
  deriving Repr

/-- The answer to a fetch. -/
inductive Answer (α : Type) where
  | rows (rows : List α)
  | failed (message : String)
  | crashed
  deriving Repr

/-- What a session is set up with. -/
structure SessionSettings where
  collection : String := "books"
  pageSize : Int := 20
  defaults : Criteria := {}
  deriving Repr

/-- A search session over rows of some kind. The error that the user sees is kept beside the status, and each
is written on its own. -/
structure Session (α : Type) where
  settings : SessionSettings
  criteria : Criteria
  lookup : Option Lookup := none
  categories : List String := []
  page : Nat := 0
  generation : Nat := 0
  status : Status := .idle
  error : Option String := none
  lastQuery : Option Query := none
  rejected : Bool := false
  results : Results α := {}
  deriving Repr

/-- What a user or a link asks of a session. -/
inductive Call where
  | navigate (request : Request)
  | openLink (link : String)
  | submit (text : String)
  | update (updates : Table)
  | resetFilters
  | setCategories (labels : List String)
  | toggleCategory (label : String)
  | loadMore
  deriving Repr

/-- How a call goes on: it is done, waits for the answer to a fetch, or raises. -/
inductive Outcome where
  | done
  | waiting (fetch : Fetch)
  | raised (error : CallError)
  deriving Repr

/-- What is shown to the user. -/
structure View (α : Type) where
  items : List α
  loading : Bool
  hasMore : Bool
  error : Option String
  deriving Repr

namespace Status

def name : Status → String
  | .idle => "idle"
  | .fetching => "fetching"
  | .success => "success"
  | .failed => "error"

end Status

namespace Session

variable {α : Type}

def start (settings : SessionSettings) : Session α where
  settings
  criteria := settings.defaults

def isLoading (session : Session α) : Bool :=
  session.status == .fetching

/-- What is shown to the user. -/
def view (session : Session α) : View α where
  items := session.results.items
  loading := session.isLoading
  hasMore := session.results.hasMore
  error := session.error

def compile (session : Session α) (page : Nat) : Except Number.IntegerError Query :=
  session.criteria.compile session.lookup (session.categories.map .string) page session.settings.pageSize

/-- Issue the fetch of a page. The page number goes back to zero when the first page is fetched anew. -/
def refresh (session : Session α) (page : Nat) : Session α × Outcome :=
  if session.rejected then (session, .done)
  else
    let session := { session with
      generation := session.generation + 1
      page := if page = 1 then 0 else session.page }
    match session.compile page with
    | .ok query =>
      ({ session with lastQuery := some query, status := .fetching, error := none },
        .waiting ⟨session.generation, page, query⟩)
    | .error error => (session, .raised (.number error))

def withCriteria (session : Session α) (criteria : Criteria) : Session α :=
  { session with criteria }

/-- Put a text into the search box and its tokens into the filters, and fetch. -/
def submit (session : Session α) (text : String) : Session α × Outcome :=
  let session := session.withCriteria (session.criteria.set .query (.string text))
  match Token.allChanges (Token.ofText text) with
  | .ok changes => (session.withCriteria (session.criteria.setAll changes)).refresh 1
  | .error error => (session, .raised (.number error))

/-- The lookup that a navigation asks for. -/
def lookupOf (field value : Option String) : Except Rejection Lookup :=
  match Request.nonempty field, Request.nonempty value with
  | some field, some value =>
    if Field.isKnown field then
      let decoded := Link.decode value
      if decoded == "" then .error .incomplete else .ok ⟨Text.lower field, decoded⟩
    else .error (.unknownField field)
  | _, _ => .error .incomplete

/-- Navigate to a lookup, or reject it. -/
def navigateLookup (session : Session α) (field value : Option String) : Session α × Outcome :=
  match lookupOf field value with
  | .ok lookup =>
    ({ session with
      lookup := some lookup
      criteria := session.criteria.set .query (.string lookup.searchText) } : Session α).refresh 1
  | .error rejection =>
    ({ session with
      generation := session.generation + 1
      rejected := true
      status := .failed
      error := some rejection.message }, .done)

/-- Navigate: to a lookup, to a search text, or to the default filters. -/
def navigate (session : Session α) (request : Request) : Session α × Outcome :=
  let session := { session with lookup := none, results := {}, rejected := false }
  if request.hasLookup then session.navigateLookup request.field request.value
  else match Request.nonempty request.query with
    | some text => session.submit text
    | none => (session.withCriteria session.settings.defaults).refresh 1

/-- Labels without repetitions and empty ones, in the order of their first occurrence. -/
def distinctLabels (labels : List String) : List String :=
  (labels.filter (· != "")).eraseDups

def setCategories (session : Session α) (labels : List String) : Session α × Outcome :=
  ({ session with categories := distinctLabels labels } : Session α).refresh 1

def toggled (categories : List String) (label : String) : List String :=
  if categories.contains label then categories.filter (· != label) else categories ++ [label]

def call (session : Session α) : Call → Session α × Outcome
  | .navigate request => session.navigate request
  | .openLink link => match Request.ofLink link with
    | .ok request => session.navigate request
    | .error error => (session, .raised (.link error))
  | .submit text => session.submit text
  | .update updates => match session.criteria.update updates with
    | .ok criteria => (session.withCriteria criteria).refresh 1
    | .error error => (session, .raised (.unknownFilter error))
  | .resetFilters => (session.withCriteria session.settings.defaults).refresh 1
  | .setCategories labels => session.setCategories labels
  | .toggleCategory label => session.setCategories (toggled session.categories label)
  | .loadMore =>
    if session.isLoading || !session.results.hasMore || session.rejected then (session, .done)
    else session.refresh (session.page + 1)

/-- Take in the answer to a fetch; one of an older generation is dropped. -/
def receive (session : Session α) (fetch : Fetch) (answer : Answer α) : Session α :=
  if fetch.generation ≠ session.generation then session
  else match answer with
    | .rows rows =>
      { session with
        results := session.results.addPage session.settings.pageSize fetch.page rows
        page := fetch.page
        status := .success }
    | .failed message =>
      { session with status := .failed, error := some ("Error fetching books: " ++ message) }
    | .crashed => session

end Session

end CatalogSearch
