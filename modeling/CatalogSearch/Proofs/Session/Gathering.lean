import CatalogSearch.Proofs.Session.Arrivals

/-! # Results in memory

Results hold their rows in a list, the rows of a page come in a list of the caller, and whoever looks at the results
is handed a list too. These lists lie side by side in one memory, where the caller may go on changing its own ones, and
a page may be filled from any of them, the list of the results included. What the results hold depends on nothing but
the rows that a list had when it came in, and what was handed out stays as it was.
-/

namespace CatalogSearch

/-- A list in memory: one that the caller made and may change, or one that was made for the results. -/
inductive Cell (α : Type) where
  | lent (rows : List α)
  | held (rows : List α)
  deriving Repr, DecidableEq

def Cell.rows {α : Type} : Cell α → List α
  | .lent rows | .held rows => rows

/-- All lists that were made, each at the place of its number. -/
abbrev Memory (α : Type) := List (Cell α)

namespace Memory

variable {α : Type}

/-- The rows of the list at a place, if there is one. -/
def rows (memory : Memory α) (place : Nat) : List α :=
  (memory[place]?.map Cell.rows).getD []

/-- Change a list of the caller; it has no other one at hand. -/
def write (memory : Memory α) (place : Nat) (rows : List α) : Memory α :=
  match memory[place]? with
  | some (.lent _) => memory.set place (.lent rows)
  | _ => memory

/-- A list that was made for the results lies at a place. -/
def Holds (memory : Memory α) (place : Nat) (rows : List α) : Prop :=
  memory[place]? = some (.held rows)

/-- What was made for the results is still there as it was. -/
def Keeps (before after : Memory α) : Prop :=
  ∀ place rows, before.Holds place rows → after.Holds place rows

theorem Holds.rows_eq {memory : Memory α} {place : Nat} {rows : List α} (holds : memory.Holds place rows) :
    memory.rows place = rows := by
  rw [Memory.rows, holds]
  rfl

theorem holds_concat (memory : Memory α) (rows : List α) : Holds (memory ++ [.held rows]) memory.length rows :=
  List.getElem?_concat_length

theorem Keeps.refl (memory : Memory α) : memory.Keeps memory :=
  fun _ _ holds => holds

theorem Keeps.trans {first second third : Memory α} (early : first.Keeps second) (late : second.Keeps third) :
    first.Keeps third :=
  fun place rows holds => late place rows (early place rows holds)

theorem keeps_append (memory more : Memory α) : memory.Keeps (memory ++ more) := by
  intro place rows holds
  rw [Holds, List.getElem?_append_left (List.getElem?_eq_some_iff.mp holds).1]
  exact holds

private theorem keeps_write (memory : Memory α) (place : Nat) (rows : List α) : memory.Keeps
    (memory.write place rows) := by
  intro other kept holds
  rw [write]
  split
  · next lent =>
    have apart : place ≠ other := by
      rintro rfl
      cases lent.symm.trans holds
    rw [Holds, List.getElem?_set_ne apart]
    exact holds
  · exact holds

end Memory

/-- Results as they are in memory, with the place of their list. -/
structure Gathering (α : Type) where
  memory : Memory α
  items : Nat
  pageIndex : Int := 0
  hasMore : Bool := true
  deriving Repr, DecidableEq

/-- What is handed out to those who look at the results: the place of a list, and what else they show. -/
structure Handout where
  items : Nat
  pageIndex : Int
  hasMore : Bool
  deriving Repr, DecidableEq

/-- What is done with results and with the lists around them. -/
inductive Act (α : Type) where
  | make (rows : List α)
  | write (place : Nat) (rows : List α)
  | page (index : Int) (place : Nat)
  | reset
  | look
  deriving Repr, DecidableEq

/-- What results show of themselves. -/
def Results.shown {α : Type} (results : Results α) : Results α :=
  { results with pageIndex := results.shownIndex }

/-- What a handout shows to those who look at it. -/
def Handout.read {α : Type} (handout : Handout) (memory : Memory α) : Results α :=
  ⟨memory.rows handout.items, handout.pageIndex, handout.hasMore⟩

namespace Gathering

variable {α : Type}

/-- New results with an empty list. -/
def start : Gathering α where
  memory := [.held []]
  items := 0

/-- Hold rows in a list that is made for them. -/
def hold (gathering : Gathering α) (rows : List α) : Gathering α :=
  { gathering with memory := gathering.memory ++ [.held rows], items := gathering.memory.length }

/-- Hand out a list of its own with the rows of this moment. -/
def look (gathering : Gathering α) : Gathering α × Handout :=
  ({ gathering with memory := gathering.memory ++ [.held (gathering.memory.rows gathering.items)] },
    ⟨gathering.memory.length, max gathering.pageIndex 1, gathering.hasMore⟩)

/-- Take rows as a page. Those of a first page are held in a list of their own; those of a later one, unless there are
none, are copied and then held behind the rows that are there. -/
def take (gathering : Gathering α) (pageSize index : Int) (rows : List α) : Gathering α :=
  let held :=
    if index ≤ 1 then gathering.hold rows
    else if rows.isEmpty then gathering
    else { gathering with memory := gathering.memory ++ [Cell.held rows] }.hold
      (gathering.memory.rows gathering.items ++ rows)
  { held with pageIndex := index, hasMore := (rows.length : Int) == pageSize }

/-- Take the rows of a list as a page and look at the results. -/
def addPage (gathering : Gathering α) (pageSize index : Int) (place : Nat) : Gathering α × Handout :=
  (gathering.take pageSize index (gathering.memory.rows place)).look

/-- Carry out an act, with the handout that it gives. -/
def step (pageSize : Int) (gathering : Gathering α) : Act α → Gathering α × Option Handout
  | .make rows => ({ gathering with memory := gathering.memory ++ [.lent rows] }, none)
  | .write place rows => ({ gathering with memory := gathering.memory.write place rows }, none)
  | .page index place => (gathering.addPage pageSize index place).map id some
  | .reset => ({ memory := gathering.memory ++ [.held []], items := gathering.memory.length }, none)
  | .look => gathering.look.map id some

def run (pageSize : Int) (gathering : Gathering α) (acts : List (Act α)) : Gathering α :=
  acts.foldl (fun gathering act => (gathering.step pageSize act).1) gathering

def results (gathering : Gathering α) : Results α :=
  ⟨gathering.memory.rows gathering.items, gathering.pageIndex, gathering.hasMore⟩

/-- What an act changes about the results. A page has the rows that its list holds at this moment. -/
def change? (gathering : Gathering α) : Act α → Option (Results.Change α)
  | .page index place => some (.page ⟨index, gathering.memory.rows place⟩)
  | .reset => some .reset
  | .make _ | .write _ _ | .look => none

/-- The changes of a run, in order. -/
def history (pageSize : Int) (gathering : Gathering α) : List (Act α) → List (Results.Change α)
  | [] => []
  | act :: rest => (gathering.change? act).toList ++ (gathering.step pageSize act).1.history pageSize rest

/-- The list of the results is one that was made for them. -/
def Owned (gathering : Gathering α) : Prop :=
  gathering.memory.Holds gathering.items gathering.results.items

variable {gathering : Gathering α}

private theorem run_append_cons (gathering : Gathering α) (pageSize : Int) (earlier : List (Act α)) (act : Act α)
    (later : List (Act α)) :
    gathering.run pageSize (earlier ++ act :: later) =
      ((gathering.run pageSize earlier).step pageSize act).1.run pageSize later :=
  List.foldl_append

/-! ## One act -/

theorem owned_of_holds {rows : List α} (holds : gathering.memory.Holds gathering.items rows) :
    gathering.Owned ∧ gathering.results.items = rows := by
  have items : gathering.results.items = rows := holds.rows_eq
  refine ⟨?_, items⟩
  rw [Owned, items]
  exact holds

/-- What an act does: nothing that was made for the results is changed, their list is still one of these, they are
changed as the act says, and a handout has a list of its own with what they show now. -/
structure Done (pageSize : Int) (gathering : Gathering α) (act : Act α) (after : Gathering α × Option Handout) :
    Prop where
  keeps : gathering.memory.Keeps after.1.memory
  owned : after.1.Owned
  results : after.1.results = (gathering.change? act).elim gathering.results (gathering.results.change pageSize)
  holds : ∀ handout ∈ after.2, after.1.memory.Holds handout.items after.1.results.items
  shown : ∀ handout ∈ after.2, handout.read after.1.memory = after.1.results.shown

/-- Acts of the caller on its own lists leave the results alone. -/
theorem Owned.aside (owned : gathering.Owned) {memory : Memory α} (keeps : gathering.memory.Keeps memory) :
    { gathering with memory }.Owned ∧ { gathering with memory }.results = gathering.results := by
  let after : Gathering α := { gathering with memory }
  have holds : after.memory.Holds after.items gathering.results.items := keeps _ _ owned
  obtain ⟨still, items⟩ := owned_of_holds holds
  exact ⟨still, congrArg (Results.mk · gathering.pageIndex gathering.hasMore) items⟩

theorem Owned.look (owned : gathering.Owned) (pageSize : Int) :
    Done pageSize gathering .look (gathering.look.map id some) := by
  have keeps := Memory.keeps_append gathering.memory [.held (gathering.memory.rows gathering.items)]
  have made := Memory.holds_concat gathering.memory (gathering.memory.rows gathering.items)
  obtain ⟨still, same⟩ := owned.aside keeps
  have items : gathering.look.1.results.items = gathering.results.items := congrArg Results.items same
  refine ⟨keeps, still, same, ?_, ?_⟩
  · rintro handout ⟨⟩
    exact items.symm ▸ made
  · rintro handout ⟨⟩
    exact congrArg (Results.mk · _ _) (made.rows_eq.trans items.symm)

theorem Owned.hold (gathering : Gathering α) (rows : List α) :
    gathering.memory.Keeps (gathering.hold rows).memory ∧ (gathering.hold rows).Owned ∧
      (gathering.hold rows).results.items = rows :=
  ⟨Memory.keeps_append gathering.memory [.held rows], owned_of_holds (Memory.holds_concat gathering.memory rows)⟩

/-- Of the list that is held after a page only its rows matter: the copy on the way to it is one list more. -/
theorem Owned.take (owned : gathering.Owned) (pageSize index : Int) (rows : List α) :
    gathering.memory.Keeps (gathering.take pageSize index rows).memory ∧
      (gathering.take pageSize index rows).Owned ∧
      (gathering.take pageSize index rows).results = gathering.results.addPage pageSize index rows := by
  have taken {held : Gathering α} (keeps : gathering.memory.Keeps held.memory) (still : held.Owned)
      (items : held.results.items = if index ≤ 1 then rows else gathering.results.items ++ rows) :
      let after : Gathering α := { held with pageIndex := index, hasMore := (rows.length : Int) == pageSize }
      gathering.memory.Keeps after.memory ∧ after.Owned ∧
        after.results = gathering.results.addPage pageSize index rows :=
    ⟨keeps, still, congrArg (Results.mk · index _) items⟩
  unfold Gathering.take
  split
  · next first =>
    obtain ⟨keeps, still, items⟩ := Owned.hold gathering rows
    exact taken keeps still (by rw [items, if_pos first])
  · next later =>
    split
    · next empty =>
      refine taken (.refl _) owned ?_
      rw [if_neg later, List.isEmpty_iff.mp empty, List.append_nil]
    · obtain ⟨keeps, still, items⟩ := Owned.hold { gathering with memory := gathering.memory ++ [Cell.held rows] }
        (gathering.memory.rows gathering.items ++ rows)
      refine taken ((Memory.keeps_append gathering.memory [.held rows]).trans keeps) still ?_
      rw [items, if_neg later]
      rfl

theorem Owned.addPage (owned : gathering.Owned) (pageSize index : Int) (place : Nat) :
    Done pageSize gathering (.page index place) ((gathering.addPage pageSize index place).map id some) := by
  obtain ⟨keeps, still, same⟩ := owned.take pageSize index (gathering.memory.rows place)
  have looked := still.look pageSize
  exact ⟨keeps.trans looked.keeps, looked.owned, looked.results.trans same, looked.holds, looked.shown⟩

/-- Whatever is done, the results stay in a list of their own. -/
theorem Owned.step (owned : gathering.Owned) (pageSize : Int) (act : Act α) :
    Done pageSize gathering act (gathering.step pageSize act) := by
  cases act with
  | make rows =>
    have keeps := Memory.keeps_append gathering.memory [.lent rows]
    obtain ⟨still, same⟩ := owned.aside keeps
    exact ⟨keeps, still, same, nofun, nofun⟩
  | write place rows =>
    have keeps := Memory.keeps_write gathering.memory place rows
    obtain ⟨still, same⟩ := owned.aside keeps
    exact ⟨keeps, still, same, nofun, nofun⟩
  | page index place => exact owned.addPage pageSize index place
  | reset =>
    obtain ⟨keeps, still, items⟩ := Owned.hold gathering []
    exact ⟨keeps, still, congrArg (Results.mk · 0 true) items, nofun, nofun⟩
  | look => exact owned.look pageSize

/-! ## All acts -/

theorem owned_start : (start : Gathering α).Owned :=
  rfl

theorem Owned.run (owned : gathering.Owned) (pageSize : Int) (acts : List (Act α)) :
    gathering.memory.Keeps (gathering.run pageSize acts).memory ∧ (gathering.run pageSize acts).Owned ∧
      (gathering.run pageSize acts).results =
        (gathering.history pageSize acts).foldl (Results.change pageSize) gathering.results := by
  induction acts generalizing gathering with
  | nil => exact ⟨.refl _, owned, rfl⟩
  | cons act rest ih =>
    have done := owned.step pageSize act
    obtain ⟨keeps, still, same⟩ := ih done.owned
    refine ⟨done.keeps.trans keeps, still, ?_⟩
    rw [history, List.foldl_append]
    rw [done.results] at same
    cases changed : gathering.change? act with
    | none =>
      rw [changed] at same
      exact same
    | some change =>
      rw [changed] at same
      exact same

/-- Whatever pages come in and however often the results start anew, they are what these changes amount to. In memory
they are the same, whatever is done with the lists around them: a page counts with the rows that its list had when it
came in. And what a handout has shown when it was given out it still shows, after whatever came later. -/
theorem suffix_of_history (pageSize : Int) (changes : List (Results.Change α)) (acts : List (Act α)) :
    (∃ arrivals counted, Results.Amounts pageSize changes (Results.after pageSize changes) arrivals counted) ∧
      (start.run pageSize acts).results = Results.after pageSize (start.history pageSize acts) ∧
      ∀ earlier act later handout, acts = earlier ++ act :: later →
        handout ∈ ((start.run pageSize earlier).step pageSize act).2 →
          handout.read (start.run pageSize acts).memory =
            ((start.run pageSize earlier).step pageSize act).1.results.shown := by
  refine ⟨Results.exists_amounts pageSize changes, (owned_start.run pageSize acts).2.2, ?_⟩
  rintro earlier act later handout rfl member
  have done := (owned_start.run pageSize earlier).2.1.step pageSize act
  have fresh := done.holds handout member
  have kept := (done.owned.run pageSize later).1 handout.items _ fresh
  rw [run_append_cons]
  calc handout.read _
    _ = handout.read ((start.run pageSize earlier).step pageSize act).1.memory :=
      congrArg (Results.mk · _ _) (kept.rows_eq.trans fresh.rows_eq.symm)
    _ = _ := done.shown handout member

/-- A list that is changed after it came in, and a page that is filled from the list of the results. -/
example : (start.run 2 [.make [1, 2], .page 1 1, .write 1 [9], .page 2 1, .page 3 5]).results =
    ⟨[1, 2, 9, 1, 2, 9], 3, false⟩ := by
  decide

end Gathering

end CatalogSearch
