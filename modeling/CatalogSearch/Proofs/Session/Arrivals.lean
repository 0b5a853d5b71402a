import CatalogSearch.Session.Results
import Mathlib.Data.List.Induction

/-! # Results by what came in

Pages may come in under any index and in any order, and now and then the results start anew. What the results hold
then depends on the end of this history only: their rows are those of the pages from the last first page on, and what
they say about themselves is what the last page of all says.
-/

namespace CatalogSearch.Results

variable {α : Type}

/-- A page that comes in, with the index that it is given. -/
structure Arrival (α : Type) where
  index : Int
  rows : List α
  deriving Repr, DecidableEq

/-- A page comes in, or the results start anew. -/
inductive Change (α : Type) where
  | page (arrival : Arrival α)
  | reset
  deriving Repr, DecidableEq

/-- The results after a change. -/
def change (pageSize : Int) (results : Results α) : Change α → Results α
  | .page arrival => results.addPage pageSize arrival.index arrival.rows
  | .reset => {}

def after (pageSize : Int) (changes : List (Change α)) : Results α :=
  changes.foldl (change pageSize) {}

/-- The pages that came in since the last reset, or since the start if there was none. -/
def SinceReset (changes : List (Change α)) (arrivals : List (Arrival α)) : Prop :=
  ∃ before, changes = before ++ arrivals.map .page ∧ ∀ last ∈ before.getLast?, last = .reset

/-- The last first page and the pages behind it, or all pages if none of them is a first one. An index below one is
that of a first page too. -/
structure FromLastFirst (arrivals counted : List (Arrival α)) : Prop where
  suffix : counted <:+ arrivals
  later : ∀ arrival ∈ counted.tail, 1 < arrival.index
  start : (∃ first, counted.head? = some first ∧ first.index ≤ 1) ∨
    (counted = arrivals ∧ ∀ arrival ∈ arrivals, 1 < arrival.index)

/-- The results are what the changes amount to: `arrivals` are the pages since the last reset, and the rows are those
of the `counted` ones. -/
structure Amounts (pageSize : Int) (changes : List (Change α)) (results : Results α)
    (arrivals counted : List (Arrival α)) : Prop where
  since : SinceReset changes arrivals
  onwards : FromLastFirst arrivals counted
  items : results.items = counted.flatMap Arrival.rows
  last : ∀ last ∈ arrivals.getLast?, results.pageIndex = last.index ∧
    (results.hasMore = true ↔ (last.rows.length : Int) = pageSize)
  none : arrivals = [] → results.pageIndex = 0 ∧ results.hasMore = true

private theorem after_concat (pageSize : Int) (changes : List (Change α)) (last : Change α) :
    after pageSize (changes ++ [last]) = (after pageSize changes).change pageSize last := by
  rw [after, List.foldl_append, List.foldl_cons, List.foldl_nil, after]

/-! ## One page more -/

theorem SinceReset.page {changes : List (Change α)} {arrivals : List (Arrival α)}
    (since : SinceReset changes arrivals) (arrival : Arrival α) :
    SinceReset (changes ++ [.page arrival]) (arrivals ++ [arrival]) := by
  obtain ⟨before, rfl, reset⟩ := since
  exact ⟨before, by rw [List.map_append, List.append_assoc, List.map_singleton], reset⟩

theorem FromLastFirst.first (arrivals : List (Arrival α)) {arrival : Arrival α} (first : arrival.index ≤ 1) :
    FromLastFirst (arrivals ++ [arrival]) [arrival] where
  suffix := List.suffix_append arrivals [arrival]
  later := by simp
  start := .inl ⟨arrival, rfl, first⟩

theorem FromLastFirst.concat {arrivals counted : List (Arrival α)} (onwards : FromLastFirst arrivals counted)
    {arrival : Arrival α} (later : 1 < arrival.index) :
    FromLastFirst (arrivals ++ [arrival]) (counted ++ [arrival]) where
  suffix := by
    obtain ⟨earlier, rfl⟩ := onwards.suffix
    exact ⟨earlier, (List.append_assoc ..).symm⟩
  later := by
    intro other member
    cases counted with
    | nil => cases member
    | cons head rest =>
      rcases List.mem_append.mp member with old | new
      · exact onwards.later other old
      · exact List.mem_singleton.mp new ▸ later
  start := by
    rcases onwards.start with ⟨first, head, index⟩ | ⟨rfl, all⟩
    · exact .inl ⟨first, by rw [List.head?_append, head, Option.some_or], index⟩
    · refine .inr ⟨rfl, fun other member => ?_⟩
      rcases List.mem_append.mp member with old | new
      · exact all other old
      · exact List.mem_singleton.mp new ▸ later

/-- A page starts the counted ones over or is one more of them. -/
theorem Amounts.page {pageSize : Int} {changes : List (Change α)} {results : Results α}
    {arrivals counted : List (Arrival α)} (amounts : Amounts pageSize changes results arrivals counted)
    (arrival : Arrival α) :
    ∃ counted, Amounts pageSize (changes ++ [.page arrival]) (results.change pageSize (.page arrival))
      (arrivals ++ [arrival]) counted := by
  have last : ∀ last ∈ (arrivals ++ [arrival]).getLast?,
      (results.change pageSize (.page arrival)).pageIndex = last.index ∧
        ((results.change pageSize (.page arrival)).hasMore = true ↔ (last.rows.length : Int) = pageSize) := by
    intro last member
    rw [List.getLast?_concat, Option.mem_some_iff] at member
    subst member
    exact ⟨rfl, beq_iff_eq⟩
  have none : arrivals ++ [arrival] = [] → (results.change pageSize (.page arrival)).pageIndex = 0 ∧
      (results.change pageSize (.page arrival)).hasMore = true :=
    fun empty => absurd empty (List.append_ne_nil_of_right_ne_nil _ (List.cons_ne_nil _ _))
  by_cases first : arrival.index ≤ 1
  · refine ⟨[arrival], amounts.since.page arrival, .first arrivals first, ?_, last, none⟩
    rw [change, addPage, if_pos first, List.flatMap_singleton]
  · refine ⟨counted ++ [arrival], amounts.since.page arrival, amounts.onwards.concat (Int.not_le.mp first), ?_, last,
      none⟩
    rw [change, addPage, if_neg first, amounts.items, List.flatMap_append, List.flatMap_singleton]

/-! ## All changes -/

theorem exists_amounts (pageSize : Int) (changes : List (Change α)) :
    ∃ arrivals counted, Amounts pageSize changes (after pageSize changes) arrivals counted := by
  have nothing : FromLastFirst ([] : List (Arrival α)) [] := ⟨List.suffix_rfl, by simp, .inr ⟨rfl, by simp⟩⟩
  induction changes using List.reverseRecOn with
  | nil => exact ⟨[], [], ⟨[], rfl, by simp⟩, nothing, rfl, by simp, fun _ => ⟨rfl, rfl⟩⟩
  | append_singleton changes last ih =>
    rw [after_concat]
    cases last with
    | page arrival =>
      obtain ⟨arrivals, counted, amounts⟩ := ih
      obtain ⟨counted, amounts⟩ := amounts.page arrival
      exact ⟨arrivals ++ [arrival], counted, amounts⟩
    | reset =>
      have since : SinceReset (changes ++ [.reset]) [] := ⟨changes ++ [.reset], (List.append_nil _).symm, by simp⟩
      exact ⟨[], [], since, nothing, rfl, by simp, fun _ => ⟨rfl, rfl⟩⟩

end CatalogSearch.Results
