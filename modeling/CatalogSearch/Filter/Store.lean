import CatalogSearch.Filter.Update

/-! # The filter store

The store owns the current criteria and tells registered listeners about every change. A listener may answer
its first notification with commands of its own, which are carried out on the spot: the listeners that were
registered at the moment of a change are all notified of it, whatever happens on the way. Work that is left
to do stands on an agenda, so that nested changes are finished before the round that caused them goes on.
-/

namespace CatalogSearch

/-- What can be asked of a store. -/
inductive Command where
  | update (updates : Table)
  | reset
  | applyText (text : String)
  | applyTokens (tokens : List Token)
  | subscribe (label : String) (watched : Filter) (script : List Command) (times : Nat)
  | unsubscribe (label : String)
  deriving Repr, Inhabited

/-- A listener, with the commands that it gives after its first notification. -/
structure Listener where
  label : String
  watched : Filter
  script : List Command
  deriving Repr

/-- Criteria as they were after a change, with the number of the change. -/
structure Snapshot where
  revision : Nat
  criteria : Criteria
  deriving Repr

/-- A notification that was made. -/
structure Delivery where
  listener : Nat
  snapshot : Snapshot
  deriving Repr

/-- Why a command failed. -/
inductive StoreError where
  | unknownFilter (error : UnknownFilter)
  | number (error : Number.IntegerError)
  deriving DecidableEq, Repr

/-- The store: the criteria, every listener that ever was, the registrations in order (a listener may be
registered several times), the listener that each label stands for, and the notifications made so far. -/
structure Store where
  defaults : Criteria
  current : Snapshot
  listeners : List Listener := []
  registered : List Nat := []
  labels : List (String × Nat) := []
  deliveries : List Delivery := []
  deriving Repr

/-- Something that is left to do. -/
inductive Task where
  | perform (command : Command)
  | deliver (listener : Nat) (snapshot : Snapshot)
  deriving Repr

namespace Command

mutual

/-- The number of commands in a command, those of its script included. -/
def size : Command → Nat
  | .subscribe _ _ script _ => sizeAll script + 1
  | _ => 1

def sizeAll : List Command → Nat
  | [] => 0
  | command :: rest => size command + sizeAll rest

end

end Command

namespace Task

/-- The commands that a task still holds. -/
def size : Task → Nat
  | .perform command => command.size
  | .deliver .. => 0

def isDelivery : Task → Bool
  | .deliver .. => true
  | .perform _ => false

end Task

namespace Store

def ofCriteria (defaults initial : Criteria) : Store where
  defaults
  current := ⟨0, initial⟩

def criteria (store : Store) : Criteria :=
  store.current.criteria

/-- The store with new criteria, and the notifications that this calls for. -/
def replace (store : Store) (criteria : Criteria) : Store × List Task :=
  let snapshot := ⟨store.current.revision + 1, criteria⟩
  ({ store with current := snapshot }, store.registered.map (.deliver · snapshot))

def register (store : Store) (listener : Nat) : Store :=
  { store with registered := store.registered ++ [listener] }

def remove (store : Store) (listener : Nat) : Store :=
  { store with registered := store.registered.erase listener }

/-- Apply tokens to the filters in one change. Tokens that concern no filter leave the store as it is. -/
def withTokens (store : Store) (tokens : List Token) : Except StoreError (Store × List Task) :=
  match Token.allChanges tokens with
  | .ok [] => .ok (store, [])
  | .ok changes => .ok (store.replace (store.criteria.setAll changes))
  | .error error => .error (.number error)

/-- Carry out a command that changes no listener's script. -/
def perform (store : Store) : Command → Except StoreError (Store × List Task)
  | .update updates => match store.criteria.update updates with
    | .ok criteria => .ok (store.replace criteria)
    | .error error => .error (.unknownFilter error)
  | .reset => .ok (store.replace store.defaults)
  | .applyText text => store.withTokens (Token.ofText text)
  | .applyTokens tokens => store.withTokens tokens
  | .subscribe label watched script times =>
    let listener := store.listeners.length
    .ok ({ store with
      listeners := store.listeners ++ [⟨label, watched, script⟩]
      registered := store.registered ++ List.replicate times listener
      labels := (label, listener) :: store.labels }, [])
  | .unsubscribe label => match store.labels.lookup label with
    | some listener => .ok (store.remove listener, [])
    | none => .ok (store, [])

/-- Notify a listener: it is recorded, and the listener's script, now used up, is what follows. -/
def notify (store : Store) (listener : Nat) (snapshot : Snapshot) : Store × List Task :=
  match store.listeners[listener]? with
  | some found =>
    ({ store with
      listeners := store.listeners.set listener { found with script := [] }
      deliveries := store.deliveries ++ [⟨listener, snapshot⟩] }, found.script.map .perform)
  | none => (store, [])

def scriptSizes : List Listener → Nat
  | [] => 0
  | listener :: rest => Command.sizeAll listener.script + scriptSizes rest

/-- The commands that listeners may still give. -/
def pending (store : Store) : Nat :=
  scriptSizes store.listeners

def workload : List Task → Nat
  | [] => 0
  | task :: rest => task.size + workload rest

private theorem scriptSizes_append (left right : List Listener) :
    scriptSizes (left ++ right) = scriptSizes left + scriptSizes right := by
  induction left with
  | nil => simp [scriptSizes]
  | cons listener rest ih =>
    simp only [List.cons_append, scriptSizes, ih]
    omega

theorem workload_append (left right : List Task) : workload (left ++ right) = workload left + workload right := by
  induction left with
  | nil => simp [workload]
  | cons task rest ih =>
    simp only [List.cons_append, workload, ih]
    omega

theorem workload_deliver (listeners : List Nat) (snapshot : Snapshot) :
    workload (listeners.map (.deliver · snapshot)) = 0 := by
  induction listeners with
  | nil => rfl
  | cons listener rest ih => simpa [workload, Task.size] using ih

private theorem workload_perform (script : List Command) : workload (script.map .perform) = Command.sizeAll script := by
  induction script with
  | nil => rfl
  | cons command rest ih => simp only [List.map_cons, workload, Task.size, Command.sizeAll, ih]

private theorem countP_perform (script : List Command) : (script.map Task.perform).countP Task.isDelivery = 0 := by
  simp [List.countP_map, Function.comp_def, Task.isDelivery]

private theorem scriptSizes_set (listeners : List Listener) (position : Nat) (found : Listener)
    (here : listeners[position]? = some found) :
    scriptSizes (listeners.set position { found with script := [] }) + Command.sizeAll found.script =
      scriptSizes listeners := by
  induction listeners generalizing position with
  | nil => simp at here
  | cons head rest ih =>
    cases position with
    | zero =>
      simp only [List.getElem?_cons_zero, Option.some.injEq] at here
      subst here
      simp only [List.set_cons_zero, scriptSizes, Command.sizeAll]
      omega
    | succ position =>
      simp only [List.getElem?_cons_succ] at here
      have := ih position here
      simp only [List.set_cons_succ, scriptSizes]
      omega

private theorem pending_notify (store : Store) (listener : Nat) (snapshot : Snapshot) :
    (store.notify listener snapshot).1.pending + workload (store.notify listener snapshot).2 = store.pending := by
  rw [notify]
  split
  · rename_i found here
    simp only [workload_perform, pending]
    exact scriptSizes_set store.listeners listener found here
  · simp [workload]

private theorem countP_notify (store : Store) (listener : Nat) (snapshot : Snapshot) :
    (store.notify listener snapshot).2.countP Task.isDelivery = 0 := by
  rw [notify]
  split
  · exact countP_perform _
  · rfl

/-- Tokens change the criteria once or not at all. -/
theorem of_withTokens {store after : Store} {tokens : List Token} {tasks : List Task}
    (done : store.withTokens tokens = .ok (after, tasks)) :
    (after, tasks) = (store, []) ∨ ∃ criteria, (after, tasks) = store.replace criteria := by
  rw [withTokens] at done
  split at done
  · exact .inl (Except.ok.inj done).symm
  · exact .inr ⟨_, (Except.ok.inj done).symm⟩
  · cases done

theorem pending_withTokens {store after : Store} {tokens : List Token} {tasks : List Task}
    (done : store.withTokens tokens = .ok (after, tasks)) : after.pending + workload tasks = store.pending := by
  rcases of_withTokens done with same | ⟨criteria, same⟩
  · cases same
    simp [workload]
  · simp only [replace, Prod.mk.injEq] at same
    obtain ⟨rfl, rfl⟩ := same
    simp [workload_deliver, pending]

private theorem pending_perform {store after : Store} {command : Command} {tasks : List Task}
    (done : store.perform command = .ok (after, tasks)) :
    after.pending + workload tasks < store.pending + command.size := by
  unfold perform at done
  split at done
  · split at done
    · simp only [Except.ok.injEq, replace, Prod.mk.injEq] at done
      obtain ⟨rfl, rfl⟩ := done
      simp [workload_deliver, pending, Command.size]
    · simp at done
  · simp only [Except.ok.injEq, replace, Prod.mk.injEq] at done
    obtain ⟨rfl, rfl⟩ := done
    simp [workload_deliver, pending, Command.size]
  · simp [pending_withTokens done, Command.size]
  · simp [pending_withTokens done, Command.size]
  · simp only [Except.ok.injEq, Prod.mk.injEq] at done
    obtain ⟨rfl, rfl⟩ := done
    simp only [pending, scriptSizes_append, scriptSizes, workload, Command.size]
    omega
  · split at done <;> simp only [Except.ok.injEq, Prod.mk.injEq] at done <;> obtain ⟨rfl, rfl⟩ := done <;>
      simp [workload, pending, remove, Command.size]

/-- Work off an agenda. A failure ends the work, with everything kept that was done before. -/
def run (store : Store) : List Task → Store × Option StoreError
  | [] => (store, none)
  | .perform command :: rest =>
    match _done : store.perform command with
    | .ok (after, tasks) => run after (tasks ++ rest)
    | .error error => (store, some error)
  | .deliver listener snapshot :: rest =>
    run (store.notify listener snapshot).1 ((store.notify listener snapshot).2 ++ rest)
  termination_by tasks => (store.pending + workload tasks, tasks.countP Task.isDelivery)
  decreasing_by
    · apply Prod.Lex.left
      have := pending_perform _done
      rw [workload_append]
      simp only [workload, Task.size] at this ⊢
      omega
    · have same : (store.notify listener snapshot).1.pending + workload ((store.notify listener snapshot).2 ++ rest)
          = store.pending + workload (.deliver listener snapshot :: rest) := by
        have := pending_notify store listener snapshot
        rw [workload_append]
        simp only [workload, Task.size] at this ⊢
        omega
      rw [same]
      apply Prod.Lex.right
      rw [List.countP_append, countP_notify, List.countP_cons]
      simp [Task.isDelivery]

/-- Carry out a command with everything that follows from it. -/
def apply (store : Store) (command : Command) : Store × Option StoreError :=
  store.run [.perform command]

/-- The label of a notified listener and the value of the filter that it watches. -/
def event? (store : Store) (delivery : Delivery) : Option (String × Value) :=
  store.listeners[delivery.listener]?.map fun listener =>
    (listener.label, delivery.snapshot.criteria.get listener.watched)

end Store

end CatalogSearch
