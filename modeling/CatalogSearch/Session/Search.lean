import CatalogSearch.Session.Exchange

/-! # Whole searches

A search from start to end, the way a user goes about it: navigate, refine, load further pages. It ends early
when the navigation is rejected or a fetch fails.
-/

namespace CatalogSearch

/-- What a search asks for: a navigation, filter updates, categories and a number of pages. -/
structure Search where
  request : Request
  updates : Table := []
  categories : List String := []
  pages : Nat := 1
  deriving Repr

namespace Session

/-- Load up to some number of further pages, as long as there are more and nothing fails. -/
def loadPages (collections : Collections) : Nat → Session Table → Except CallError (Session Table)
  | 0, session => .ok session
  | further + 1, session =>
    if session.view.hasMore && session.view.error.isNone then do
      let next ← session.callOver collections .loadMore
      loadPages collections further next
    else .ok session

/-- Update filters and set categories, each only where something is asked for. -/
def refine (session : Session Table) (collections : Collections) (search : Search) :
    Except CallError (Session Table) := do
  let updated ← if search.updates.isEmpty then .ok session
    else session.callOver collections (.update search.updates)
  if search.categories.isEmpty then .ok updated
  else updated.callOver collections (.setCategories search.categories)

def search (session : Session Table) (collections : Collections) (search : Search) :
    Except CallError (Session Table) := do
  let opened ← session.callOver collections (.navigate search.request)
  if opened.view.error.isSome then .ok opened
  else
    let refined ← opened.refine collections search
    loadPages collections (search.pages - 1) refined

end Session

end CatalogSearch
