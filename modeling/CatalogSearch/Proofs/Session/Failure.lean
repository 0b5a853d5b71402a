import CatalogSearch.Proofs.Outcome
import CatalogSearch.Proofs.Session.Run

/-! # Calls that raise

A call that names an unknown filter, or a link that cannot be read, is refused before anything changes. A number
that cannot be read is noticed later: in the search text when that text is in the search box already, and in
the criteria when a new generation has begun already. Such a call leaves its traces. The next page of results may
then be fetched for a text that the pages before it were not fetched for, and a fetch under way may lose its
answer without being replaced by another one.
-/

namespace CatalogSearch

namespace Session

variable {α : Type}

/-- The criteria, the lookup, the categories, the count of pages, the generation, the status, the error and what is
shown are the same. -/
structure SameState (before after : Session α) : Prop where
  criteria : after.criteria = before.criteria
  lookup : after.lookup = before.lookup
  categories : after.categories = before.categories
  page : after.page = before.page
  generation : after.generation = before.generation
  status : after.status = before.status
  error : after.error = before.error
  items : after.results.items = before.results.items
  hasMore : after.results.hasMore = before.results.hasMore

theorem SameState.refl (session : Session α) : session.SameState session :=
  ⟨rfl, rfl, rfl, rfl, rfl, rfl, rfl, rfl, rfl⟩

private theorem navigate_of_text {request : Request} {text : String} (asks : request.text? = some text)
    (session : Session α) : session.navigate request = (session.cleared true).submit text := by
  unfold Request.text? at asks
  split at asks
  · cases asks
  · next direct =>
    simp only [navigate, if_neg direct, asks]
    rfl

/-- A text whose tokens cannot be read ends in the search box. -/
theorem call_of_unread (session : Session α) {call : Call} {text : String} {error : Number.IntegerError}
    (asks : call.text? = some text) (unread : Token.allChanges (Token.ofText text) = .error error) :
    session.call call = ((session.cleared call.navigates).withText text, .raised (.number error)) := by
  cases call with
  | navigate request => exact (session.navigate_of_text asks).trans (submit_of_error unread)
  | openLink link =>
    obtain ⟨request, read, asks⟩ := Option.bind_eq_some_iff.mp asks
    cases found : Request.ofLink link with
    | error failure => simp [found, Except.toOption] at read
    | ok given =>
      obtain rfl : given = request := by simpa [found, Except.toOption] using read
      simp only [call, found]
      exact (session.navigate_of_text asks).trans (submit_of_error unread)
  | submit given =>
    cases asks
    exact submit_of_error unread
  | update | resetFilters | setCategories | toggleCategory | loadMore => cases asks

private theorem sameState_withText_iff {session : Session α} {navigates : Bool} {text : String} :
    session.SameState ((session.cleared navigates).withText text) ↔
      session.criteria.query = .string text ∧
        (navigates = true → session.lookup = none ∧ session.results.items = [] ∧ session.results.hasMore = true) := by
  constructor
  · intro same
    cases navigates with
    | false => exact ⟨(congrArg Criteria.query same.criteria).symm, fun goes => Bool.noConfusion goes⟩
    | true =>
      have query : Value.string text = session.criteria.query := congrArg Criteria.query same.criteria
      exact ⟨query.symm, fun _ => ⟨same.lookup.symm, same.items.symm, same.hasMore.symm⟩⟩
  · rintro ⟨query, clear⟩
    have criteria : session.criteria.set .query (.string text) = session.criteria := by
      rw [← query]
      rfl
    cases navigates with
    | false => exact ⟨criteria, rfl, rfl, rfl, rfl, rfl, rfl, rfl, rfl⟩
    | true =>
      obtain ⟨lookup, items, more⟩ := clear rfl
      exact ⟨criteria, lookup.symm, rfl, rfl, rfl, rfl, rfl, items.symm, more.symm⟩

/-- The cases in which a call that raises leaves everything as it was. Either it was refused and no number was
read; or it put a text with an unreadable number into the search box that was there before, where a navigation
must have had nothing to clear. When the number is in the criteria, something always changes. -/
theorem raised_unchanged_iff {session : Session α} {call : Call} {error : CallError}
    (raised : (session.call call).2 = .raised error) :
    session.SameState (session.call call).1 ↔
      (∀ number, error ≠ .number number) ∨
        ∃ text number, call.text? = some text ∧ Token.allChanges (Token.ofText text) = .error number ∧
          session.criteria.query = .string text ∧
          (call.navigates = true →
            session.lookup = none ∧ session.results.items = [] ∧ session.results.hasMore = true) := by
  have effect := session.call_effect call
  rw [raised] at effect
  constructor
  · intro same
    generalize (session.call call).1 = after at effect same
    cases effect with
    | refused named => exact .inl named
    | @misread text number asks unread =>
      obtain ⟨query, clear⟩ := sameState_withText_iff.mp same
      exact .inr ⟨text, number, asks, unread, query, clear⟩
    | unopened prepared =>
      have changed := same.generation
      have kept := prepared.generation
      dsimp only at changed
      omega
    | unextended =>
      have changed := same.generation
      dsimp only at changed
      omega
  · rintro (named | ⟨text, number, asks, unread, query, clear⟩)
    · generalize (session.call call).1 = after at effect ⊢
      cases effect with
      | refused => exact .refl session
      | misread | unopened | unextended => exact absurd rfl (named _)
    · rw [session.call_of_unread asks unread]
      exact sameState_withText_iff.mpr ⟨query, clear⟩

end Session

namespace Exchange

def firstPage : List (Event Nat) :=
  [.call (.submit "dune"), .answer 0 (.rows [1, 2])]

theorem raised_unchanged_iff_superscript :
    let session := ((opened { pageSize := 2 } {}).run firstPage).session
    (session.call (.submit "dune year:²")).2 = .raised (.number (.notANumber "²")) ∧
      ¬session.SameState (session.call (.submit "dune year:²")).1 := by
  intro session
  have unread : Token.allChanges (Token.ofText "dune year:²") = .error (.notANumber "²") := by
    have found : (match Token.allChanges (Token.ofText "dune year:²") with
        | .error number => some number
        | .ok _ => none) = some (.notANumber "²") := by decide +kernel
    split at found
    · next read => rw [read, Option.some.inj found]
    · cases found
  have raised : (session.call (.submit "dune year:²")).2 = .raised (.number (.notANumber "²")) := by
    rw [session.call_of_unread rfl unread]
  refine ⟨raised, fun same => ?_⟩
  rcases (Session.raised_unchanged_iff raised).mp same with named | ⟨text, _, asks, _, query, _⟩
  · exact named _ rfl
  · obtain rfl : "dune year:²" = text := Option.some.inj asks
    have before : session.criteria.query.searchText? = .ok (some "dune") := by decide +kernel
    rw [query] at before
    exact absurd before (by decide +kernel)

/-- After a call that raised, the second page of another search is appended to the first page, and a fetch
loses its answer while the session goes on waiting. -/
theorem raised_call_leaves_traces :
    let mixed := (opened { pageSize := 2 } {}).run
      (firstPage ++ [.call (.submit "dune year:²"), .call .loadMore, .answer 1 (.rows [3, 4])])
    let stuck : Exchange Nat := (opened { pageSize := 2 } {}).run
      [.call (.submit "dune"), .call (.update [("yearFrom", .string "²")]), .answer 0 (.rows [1, 2])]
    mixed.session.results.items = [1, 2, 3, 4] ∧ mixed.issued.map (·.page) = [1, 2] ∧
      (mixed.issued.map (·.query.predicate.shown)).Nodup ∧
      stuck.session.isLoading = true ∧ stuck.waiting = [] := by
  decide +kernel

end Exchange

end CatalogSearch
