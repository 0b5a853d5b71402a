import CatalogSearch.Catalog.Registry
import Mathlib.Data.List.Nodup

/-! # Two registries in step

Plugins are kept twice: by name, and as hooks that are called together. The hooks are kept by a table of their own,
which refuses an object that it holds and a name that is in use. Whatever is registered, given up and discovered, the
table refuses nothing, and both registries hold the same plugins: the last one under each name, unless the name was
given up since, in the order of these registrations.
-/

namespace CatalogSearch

variable {Object : Type}

/-- Where a function tells the elements of a list apart, leaving out one value of it takes out one element alone. -/
theorem filter_ne_of_nodup {α β : Type} [DecidableEq β] (f : α → β) {front back : List α} {x : α}
    (nodup : ((front ++ x :: back).map f).Nodup) :
    (front ++ x :: back).filter (f · != f x) = front ++ back := by
  rw [List.map_append, List.map_cons, List.nodup_middle, List.nodup_cons, ← List.map_append] at nodup
  have different : ∀ other ∈ front ++ back, (f other != f x) = true := by
    intro other member
    exact bne_iff_ne.mpr fun same => nodup.1 (List.mem_map.mpr ⟨other, member, same⟩)
  obtain ⟨first, second⟩ := List.forall_mem_append.mp different
  rw [List.filter_append, List.filter_cons_of_neg (by simp), List.filter_eq_self.mpr first,
    List.filter_eq_self.mpr second]

/-! ## Tables of hooks -/

/-- A table of hooks. Objects are put in under a name and taken out again, either of which may be refused, and all of
them can be called for their answers. -/
structure HookTable (Object : Type) where
  State : Type
  start : State
  register : State → String → Object → Option State
  unregister : State → Object → Option State
  held : State → List (String × Object)
  call : State → (Object → Value) → List Value

/-- What a table of hooks promises. An object that it holds is refused, and what is new to it is put in at the end. The
objects answer from the last to the first, and null is no answer. -/
structure HookTable.Lawful (table : HookTable Object) : Prop where
  held_start : table.held table.start = []
  register_of_held (state : table.State) (name : String) {object : Object} :
    object ∈ (table.held state).map Prod.snd → table.register state name object = none
  register_of_new (state : table.State) {name : String} {object : Object} :
    name ∉ (table.held state).map Prod.fst → object ∉ (table.held state).map Prod.snd →
      ∃ next, table.register state name object = some next ∧ table.held next = table.held state ++ [(name, object)]
  unregister_of_held {state : table.State} {front back : List (String × Object)} {name : String} {object : Object} :
    table.held state = front ++ (name, object) :: back →
      ∃ next, table.unregister state object = some next ∧ table.held next = front ++ back
  call_eq (state : table.State) (answer : Object → Value) :
    table.call state answer = ((table.held state).reverse.map fun (_, object) => answer object).filter (!·.isNull)

namespace HookTable

/-- A table that is the list of its hooks, with each object in one place. -/
def listed (Object : Type) [DecidableEq Object] : HookTable Object where
  State := { held : List (String × Object) // (held.map Prod.snd).Nodup }
  start := ⟨[], List.nodup_nil⟩
  register state name object :=
    if taken : name ∈ state.val.map Prod.fst ∨ object ∈ state.val.map Prod.snd then none
    else some ⟨state.val ++ [(name, object)], by
      rw [List.map_append, List.nodup_append_comm]
      exact List.nodup_cons.mpr ⟨mt .inr taken, state.property⟩⟩
  unregister state object :=
    if object ∈ state.val.map Prod.snd then
      some ⟨state.val.filter fun (_, other) => other != object, state.property.sublist (List.filter_sublist.map _)⟩
    else none
  held := Subtype.val
  call state answer := (state.val.reverse.map fun (_, object) => answer object).filter (!·.isNull)

theorem lawful_listed (Object : Type) [DecidableEq Object] : (listed Object).Lawful where
  held_start := rfl
  register_of_held _ _ _ held := dif_pos (.inr held)
  register_of_new _ _ _ newName newObject := ⟨_, dif_neg (not_or.mpr ⟨newName, newObject⟩), rfl⟩
  unregister_of_held {state front back name object} whole := by
    have nodup := state.property
    change state.val = _ at whole
    rw [whole] at nodup
    refine ⟨_, if_pos ?_, ?_⟩
    · rw [whole]
      simp
    · change state.val.filter _ = _
      rw [whole]
      exact filter_ne_of_nodup Prod.snd nodup
  call_eq _ _ := rfl

end HookTable

namespace Registry

/-! ## Calls -/

/-- What is done to a registry: a plugin is registered, a name is given up, or all plugins that could be found are
registered. -/
inductive Call (Object : Type) where
  | register (object : Object)
  | unregister (name : String)
  | discover (found : List (Option Object))

/-- A single change: an object is put in, or what is under a name is taken out. -/
inductive Step (Object : Type) where
  | add (object : Object)
  | drop (name : String)

namespace Call

/-- The changes of a call, in order. -/
def steps : Call Object → List (Step Object)
  | register object => [.add object]
  | unregister name => [.drop name]
  | discover found => (found.filterMap id).map .add

/-- The same call about what the objects stand for. -/
def map {Other : Type} (f : Object → Other) : Call Object → Call Other
  | register object => register (f object)
  | unregister name => unregister name
  | discover found => discover (found.map (Option.map f))

theorem map_id (call : Call Object) : call.map id = call := by
  cases call with
  | register | unregister => rfl
  | discover found => rw [map, Option.map_id, List.map_id]

end Call

/-- The registry after a call. -/
def apply (registry : Registry) : Call Plugin → Registry
  | .register plugin => registry.register plugin
  | .unregister name => registry.unregister name
  | .discover found => (registry.discover found).1

def after (calls : List (Call Plugin)) : Registry :=
  calls.foldl apply {}

/-! ## What stands -/

section Standing

variable (name : Object → String)

/-- The change ends what was registered under a name. -/
def Step.Ends (key : String) : Step Object → Prop
  | add object => name object = key
  | drop other => other = key

/-- The object was registered, and nothing was registered under its name since, nor was the name given up. -/
def Last (steps : List (Step Object)) (object : Object) : Prop :=
  ∃ before after, steps = before ++ .add object :: after ∧ ∀ step ∈ after, ¬step.Ends name (name object)

/-- Both objects were registered in this way, the first one earlier. -/
def Earlier (steps : List (Step Object)) (first second : Object) : Prop :=
  ∃ before between after, steps = before ++ .add first :: (between ++ .add second :: after) ∧
    (∀ step ∈ between ++ .add second :: after, ¬step.Ends name (name first)) ∧
      ∀ step ∈ after, ¬step.Ends name (name second)

/-- The objects that stand after some changes: for each name the last one registered, if the name was not given up
since, in the order of these registrations. -/
structure Stands (steps : List (Step Object)) (order : List Object) : Prop where
  nodup : (order.map name).Nodup
  mem_iff : ∀ object, object ∈ order ↔ Last name steps object
  inOrder : order.Pairwise (Earlier name steps)

variable {name} {steps : List (Step Object)} {step : Step Object} {order : List Object} {object other : Object}

theorem last_concat_iff :
    Last name (steps ++ [step]) object ↔
      step = .add object ∨ Last name steps object ∧ ¬step.Ends name (name object) := by
  constructor
  · rintro ⟨before, after, whole, kept⟩
    rcases List.eq_nil_or_concat after with rfl | ⟨start, last, rfl⟩
    · exact .inl (List.append_inj_right' whole rfl |> List.singleton_inj.mp)
    · rw [List.concat_eq_append] at whole kept
      rw [← List.cons_append, ← List.append_assoc] at whole
      obtain ⟨rfl, same⟩ := List.append_inj' whole rfl
      obtain rfl := List.singleton_inj.mp same
      obtain ⟨earlier, now⟩ := List.forall_mem_append.mp kept
      exact .inr ⟨⟨before, start, rfl, earlier⟩, now step List.mem_cons_self⟩
  · rintro (rfl | ⟨⟨before, after, rfl, kept⟩, open_⟩)
    · exact ⟨steps, [], rfl, nofun⟩
    · refine ⟨before, after ++ [step], by simp, ?_⟩
      exact List.forall_mem_append.mpr ⟨kept, List.forall_mem_singleton.mpr open_⟩

theorem Earlier.concat (earlier : Earlier name steps object other) (first : ¬step.Ends name (name object))
    (second : ¬step.Ends name (name other)) : Earlier name (steps ++ [step]) object other := by
  obtain ⟨before, between, after, rfl, kept, alsoKept⟩ := earlier
  refine ⟨before, between, after ++ [step], by simp, ?_, ?_⟩
  · rw [← List.cons_append, ← List.append_assoc]
    exact List.forall_mem_append.mpr ⟨kept, List.forall_mem_singleton.mpr first⟩
  · exact List.forall_mem_append.mpr ⟨alsoKept, List.forall_mem_singleton.mpr second⟩

theorem Last.earlier (last : Last name steps object) (different : name other ≠ name object) :
    Earlier name (steps ++ [.add other]) object other := by
  obtain ⟨before, after, rfl, kept⟩ := last
  refine ⟨before, after, [], by simp, ?_, nofun⟩
  exact List.forall_mem_append.mpr ⟨kept, List.forall_mem_singleton.mpr different⟩

private theorem stands_nil : Stands name [] [] where
  nodup := List.nodup_nil
  mem_iff object := by
    refine ⟨nofun, ?_⟩
    rintro ⟨before, after, whole, _⟩
    exact absurd whole.symm (by simp)
  inOrder := .nil

/-- What stands under other names keeps its order. -/
theorem Stands.inOrder_filter (stands : Stands name steps order) {key : String}
    (ended : ∀ other, step.Ends name other → other = key) :
    (order.filter (name · != key)).Pairwise (Earlier name (steps ++ [step])) := by
  refine (stands.inOrder.filter _).imp_of_mem fun {first second} inside also earlier => ?_
  apply earlier.concat
  · exact fun ends => bne_iff_ne.mp (List.mem_filter.mp inside).2 (ended _ ends)
  · exact fun ends => bne_iff_ne.mp (List.mem_filter.mp also).2 (ended _ ends)

/-- Giving up a name takes out what stands under it. -/
theorem Stands.drop (stands : Stands name steps order) (key : String) :
    Stands name (steps ++ [.drop key]) (order.filter (name · != key)) where
  nodup := stands.nodup.sublist (List.filter_sublist.map name)
  mem_iff object := by
    rw [List.mem_filter, bne_iff_ne, stands.mem_iff, last_concat_iff, Step.Ends]
    simp only [reduceCtorEq, false_or, ne_comm, ne_eq]
  inOrder := stands.inOrder_filter fun _ ends => ends.symm

/-- What is registered stands at the end, in place of what stood under its name. -/
theorem Stands.add (stands : Stands name steps order) (object : Object) :
    Stands name (steps ++ [.add object]) (order.filter (name · != name object) ++ [object]) where
  nodup := by
    rw [List.map_append, List.nodup_append]
    refine ⟨stands.nodup.sublist (List.filter_sublist.map name), List.nodup_singleton _, ?_⟩
    rintro key member _ new rfl
    obtain ⟨other, kept, rfl⟩ := List.mem_map.mp member
    exact bne_iff_ne.mp (List.mem_filter.mp kept).2 (List.mem_singleton.mp new)
  mem_iff other := by
    rw [List.mem_append, List.mem_filter, bne_iff_ne, stands.mem_iff, last_concat_iff, Step.Ends, List.mem_singleton,
      Step.add.injEq, or_comm, eq_comm, ne_comm]
  inOrder := by
    rw [List.pairwise_append]
    refine ⟨stands.inOrder_filter fun _ ends => ends.symm, List.pairwise_singleton _ _, ?_⟩
    intro first inside second new
    obtain rfl := List.mem_singleton.mp new
    obtain ⟨member, different⟩ := List.mem_filter.mp inside
    exact ((stands.mem_iff first).mp member).earlier (bne_iff_ne.mp different).symm

end Standing

end Registry

/-! ## The registries -/

/-- The plugins by name, in the order of registration, beside a table of hooks. -/
structure Manager (table : HookTable Object) where
  named : List (String × Object) := []
  hooks : table.State := table.start

namespace Manager

open Registry (Call Step Stands)

variable {table : HookTable Object} (plugin : Object → Plugin)

def names (manager : Manager table) : List String :=
  manager.named.map Prod.fst

def find? (manager : Manager table) (name : String) : Option Object :=
  manager.named.lookup name

/-- Take out what is under a name, if there is anything, unless the table of hooks refuses to. -/
def unregister (manager : Manager table) (name : String) : Option (Manager table) :=
  match manager.find? name with
  | none => some manager
  | some object => (table.unregister manager.hooks object).map fun hooks =>
    { named := manager.named.filter fun (other, _) => other != name, hooks }

/-- Register an object in place of one of the same name, unless the table of hooks refuses to. -/
def register (manager : Manager table) (object : Object) : Option (Manager table) := do
  let others ← manager.unregister (plugin object).name
  let hooks ← table.register others.hooks (plugin object).name object
  some { named := others.named ++ [((plugin object).name, object)], hooks }

/-- Carry out a call, unless the table of hooks refuses a part of it. -/
def apply (manager : Manager table) : Call Object → Option (Manager table)
  | .register object => manager.register plugin object
  | .unregister name => manager.unregister name
  | .discover found => (found.filterMap id).foldlM (register plugin) manager

def run (calls : List (Call Object)) : Option (Manager table) :=
  calls.foldlM (apply plugin) {}

theorem unregister_of_find? {manager : Manager table} {key : String} {object : Object} {hooks : table.State}
    (found : manager.find? key = some object) (taken : table.unregister manager.hooks object = some hooks) :
    manager.unregister key = some { named := manager.named.filter fun (other, _) => other != key, hooks } := by
  rw [unregister, found]
  dsimp only
  rw [taken]
  rfl

end Manager

namespace Registry

theorem unregister_of_find? {registry : Registry} {key : String} {plugin : Plugin}
    (found : registry.find? key = some plugin) :
    registry.unregister key =
      { named := registry.named.filter fun (other, _) => other != key
        hooks := registry.hooks.filter fun (other, _) => other != key } := by
  rw [unregister, found]

section InStep

variable {table : HookTable Object} {plugin : Object → Plugin} {order : List Object} {manager : Manager table}
  {registry : Registry}

/-- The objects in some order, each under its name. -/
def entries {Other : Type} (plugin : Object → Plugin) (f : Object → Other) (order : List Object) :
    List (String × Other) :=
  order.map fun object => ((plugin object).name, f object)

theorem map_fst_entries {Other : Type} (f : Object → Other) (order : List Object) :
    (entries plugin f order).map Prod.fst = order.map fun object => (plugin object).name := by
  rw [entries, List.map_map]
  rfl

theorem filter_entries {Other : Type} (f : Object → Other) (order : List Object) (key : String) :
    (entries plugin f order).filter (fun (other, _) => other != key) =
      entries plugin f (order.filter fun object => (plugin object).name != key) := by
  rw [entries, List.filter_map]
  rfl

theorem lookup_entries {Other : Type} (f : Object → Other) (order : List Object) (key : String) :
    (entries plugin f order).lookup key = (order.find? fun object => (plugin object).name == key).map f := by
  induction order with
  | nil => rfl
  | cons object rest ih =>
    rw [entries, List.map_cons, List.lookup_cons, List.find?_cons, ← entries, ih, BEq.comm]
    cases (plugin object).name == key <;> rfl

/-- What is found under a name is the one object that has it. -/
theorem find?_eq_some_iff (nodup : (order.map fun object => (plugin object).name).Nodup) {key : String}
    {object : Object} :
    (order.find? fun object => (plugin object).name == key) = some object ↔
      object ∈ order ∧ (plugin object).name = key := by
  constructor
  · intro found
    exact ⟨List.mem_of_find?_eq_some found, by simpa using List.find?_some found⟩
  · rintro ⟨member, rfl⟩
    induction order with
    | nil => cases member
    | cons first rest ih =>
      obtain ⟨fresh, others⟩ := List.nodup_cons.mp nodup
      rcases List.mem_cons.mp member with rfl | later
      · rw [List.find?_cons_of_pos]
        exact beq_self_eq_true _
      · rw [List.find?_cons_of_neg, ih others later]
        intro same
        exact fresh (List.mem_map.mpr ⟨object, later, (beq_iff_eq.mp same).symm⟩)

/-- The objects in their order are what both registries hold, and so does the registry of their plugins. -/
structure Holds (plugin : Object → Plugin) (order : List Object) (manager : Manager table) (registry : Registry) :
    Prop where
  nodup : (order.map fun object => (plugin object).name).Nodup
  named : manager.named = entries plugin id order
  held : table.held manager.hooks = entries plugin id order
  plugins : registry.named = entries plugin plugin order
  hooks : registry.hooks = entries plugin plugin order

theorem Holds.manager_find? (holds : Holds plugin order manager registry) (key : String) :
    manager.find? key = order.find? fun object => (plugin object).name == key := by
  rw [Manager.find?, holds.named, lookup_entries, Option.map_id]
  rfl

theorem Holds.find? (holds : Holds plugin order manager registry) (key : String) :
    registry.find? key = (manager.find? key).map plugin := by
  rw [Registry.find?, holds.plugins, lookup_entries, holds.manager_find?]

/-- What is under a name is taken out of both registries, and nothing is refused. -/
theorem Holds.unregister (lawful : table.Lawful) (holds : Holds plugin order manager registry) (key : String) :
    ∃ next, manager.unregister key = some next ∧
      Holds plugin (order.filter fun object => (plugin object).name != key) next (registry.unregister key) := by
  have fewer := holds.nodup.sublist ((List.filter_sublist (p := fun object => (plugin object).name != key)).map
    fun object => (plugin object).name)
  cases found : manager.find? key with
  | none =>
    have absent : (order.filter fun object => (plugin object).name != key) = order := by
      rw [holds.manager_find?, List.find?_eq_none] at found
      exact List.filter_eq_self.mpr fun object member => by simpa using found object member
    have unchanged : registry.unregister key = registry := by
      rw [Registry.unregister, holds.find?, found]
      rfl
    rw [absent, unchanged]
    refine ⟨manager, ?_, holds⟩
    rw [Manager.unregister, found]
  | some object =>
    -- The table holds the object in one place, and no other of its name.
    obtain ⟨front, back, whole, _⟩ := List.lookup_eq_some_iff.mp found
    rw [holds.named] at whole
    obtain ⟨hooks, taken, left⟩ := lawful.unregister_of_held (holds.held.trans whole)
    have alone : front ++ back = entries plugin id (order.filter fun object => (plugin object).name != key) := by
      have apart : ((front ++ (key, object) :: back).map Prod.fst).Nodup := by
        rw [← whole, map_fst_entries]
        exact holds.nodup
      rw [← filter_entries, whole]
      exact (filter_ne_of_nodup Prod.fst apart).symm
    refine ⟨_, Manager.unregister_of_find? found taken, ?_⟩
    rw [unregister_of_find? (by rw [holds.find?, found]; rfl)]
    exact {
      nodup := fewer
      named := by rw [holds.named, filter_entries]
      held := left.trans alone
      plugins := by rw [holds.plugins, filter_entries]
      hooks := by rw [holds.hooks, filter_entries] }

/-- What is registered comes to the end of both registries, and nothing is refused. -/
theorem Holds.register (lawful : table.Lawful) (holds : Holds plugin order manager registry) (object : Object) :
    ∃ next, manager.register plugin object = some next ∧
      Holds plugin ((order.filter fun other => (plugin other).name != (plugin object).name) ++ [object]) next
        (registry.register (plugin object)) := by
  obtain ⟨others, cleared, left⟩ := holds.unregister lawful (plugin object).name
  have newName : (plugin object).name ∉ (table.held others.hooks).map Prod.fst := by
    rw [left.held, map_fst_entries]
    intro member
    obtain ⟨other, kept, same⟩ := List.mem_map.mp member
    exact bne_iff_ne.mp (List.mem_filter.mp kept).2 same
  -- An object that is in the table already would be there under its name.
  have newObject : object ∉ (table.held others.hooks).map Prod.snd := by
    rw [left.held]
    intro member
    obtain ⟨⟨_, same⟩, entry, rfl⟩ := List.mem_map.mp member
    obtain ⟨other, kept, same⟩ := List.mem_map.mp entry
    obtain ⟨_, rfl⟩ := Prod.mk.inj same
    exact bne_iff_ne.mp (List.mem_filter.mp kept).2 rfl
  obtain ⟨hooks, taken, longer⟩ := lawful.register_of_new others.hooks newName newObject
  refine ⟨{ named := others.named ++ [((plugin object).name, object)], hooks }, ?_, ?_⟩
  · rw [Manager.register, cleared]
    change (table.register others.hooks _ object).bind _ = _
    rw [taken]
    rfl
  · exact {
      nodup := by
        rw [List.map_append, List.nodup_append]
        refine ⟨left.nodup, List.nodup_singleton _, ?_⟩
        rintro key member _ new rfl
        rw [left.held, map_fst_entries] at newName
        obtain rfl := List.mem_singleton.mp new
        exact newName member
      named := by rw [left.named]; simp [entries]
      held := by rw [longer, left.held]; simp [entries]
      plugins := by rw [Registry.register, left.plugins]; simp [entries]
      hooks := by rw [Registry.register, left.hooks]; simp [entries] }

end InStep

/-! ## Runs -/

variable {table : HookTable Object} {plugin : Object → Plugin} {order : List Object} {manager : Manager table}
  {registry : Registry} {steps : List (Step Object)}

/-- The objects that stand after some changes are what both registries hold. -/
structure InStep (plugin : Object → Plugin) (steps : List (Step Object)) (order : List Object)
    (manager : Manager table) (registry : Registry) : Prop where
  stands : Stands (fun object => (plugin object).name) steps order
  holds : Holds plugin order manager registry

theorem InStep.register (lawful : table.Lawful) (inStep : InStep plugin steps order manager registry)
    (object : Object) :
    ∃ later next, manager.register plugin object = some next ∧
      InStep plugin (steps ++ [.add object]) later next (registry.register (plugin object)) := by
  obtain ⟨next, done, holds⟩ := inStep.holds.register lawful object
  exact ⟨_, next, done, inStep.stands.add object, holds⟩

private theorem InStep.registerEach (lawful : table.Lawful) (inStep : InStep plugin steps order manager registry)
    (objects : List Object) :
    ∃ later next, objects.foldlM (Manager.register plugin) manager = some next ∧
      InStep plugin (steps ++ objects.map .add) later next ((objects.map plugin).foldl Registry.register registry) := by
  induction objects generalizing steps order manager registry with
  | nil => exact ⟨order, manager, rfl, by simpa using inStep⟩
  | cons object rest ih =>
    obtain ⟨_, middle, done, here⟩ := inStep.register lawful object
    obtain ⟨later, next, more, there⟩ := ih here
    refine ⟨later, next, ?_, ?_⟩
    · rw [List.foldlM_cons, done]
      exact more
    · simpa using there

/-- A call keeps the registries in step. -/
theorem InStep.apply (lawful : table.Lawful) (inStep : InStep plugin steps order manager registry)
    (call : Call Object) :
    ∃ later next, manager.apply plugin call = some next ∧
      InStep plugin (steps ++ call.steps) later next (registry.apply (call.map plugin)) := by
  cases call with
  | register object => exact inStep.register lawful object
  | unregister name =>
    obtain ⟨next, done, holds⟩ := inStep.holds.unregister lawful name
    exact ⟨_, next, done, inStep.stands.drop name, holds⟩
  | discover found =>
    obtain ⟨later, next, done, there⟩ := inStep.registerEach lawful (found.filterMap id)
    refine ⟨later, next, done, ?_⟩
    have plugins : (found.map (Option.map plugin)).filterMap id = (found.filterMap id).map plugin := by
      rw [List.filterMap_map, List.map_filterMap]
      rfl
    rw [Call.map, Registry.apply, discover, plugins]
    exact there

/-- So does every sequence of calls. -/
theorem InStep.run (lawful : table.Lawful) (inStep : InStep plugin steps order manager registry)
    (calls : List (Call Object)) :
    ∃ later next, calls.foldlM (Manager.apply plugin) manager = some next ∧
      InStep plugin (steps ++ calls.flatMap Call.steps) later next
        ((calls.map (Call.map plugin)).foldl Registry.apply registry) := by
  induction calls generalizing steps order manager registry with
  | nil => exact ⟨order, manager, rfl, by simpa using inStep⟩
  | cons call rest ih =>
    obtain ⟨_, middle, done, here⟩ := inStep.apply lawful call
    obtain ⟨later, next, more, there⟩ := ih here
    refine ⟨later, next, ?_, ?_⟩
    · rw [List.foldlM_cons, done]
      exact more
    · simpa using there

theorem inStep_start (lawful : table.Lawful) (plugin : Object → Plugin) :
    InStep plugin [] [] ({} : Manager table) {} where
  stands := stands_nil
  holds := {
    nodup := List.nodup_nil
    named := rfl
    held := lawful.held_start
    plugins := rfl
    hooks := rfl }

/-- After every sequence of calls, of which none is refused, the names are those under which an object stands, in the
order in which these were registered; under each name that object is found; and the objects answer from the last to the
first, null aside. The registry of their plugins has the same names, plugins and answers. -/
theorem registries_in_step (plugin : Object → Plugin) (lawful : table.Lawful) (calls : List (Call Object))
    (files : Files) (path : PathName) :
    ∃ (order : List Object) (manager : Manager table),
      Stands (fun object => (plugin object).name) (calls.flatMap Call.steps) order ∧
        Manager.run plugin calls = some manager ∧
        manager.names = order.map (fun object => (plugin object).name) ∧
        (∀ key object, manager.find? key = some object ↔ object ∈ order ∧ (plugin object).name = key) ∧
        table.call manager.hooks (fun object => (plugin object).confidence files path) =
          (order.reverse.map fun object => (plugin object).confidence files path).filter (!·.isNull) ∧
        (after (calls.map (Call.map plugin))).names = manager.names ∧
        (∀ key, (after (calls.map (Call.map plugin))).find? key = (manager.find? key).map plugin) ∧
        (after (calls.map (Call.map plugin))).answers files path =
          table.call manager.hooks fun object => (plugin object).confidence files path := by
  obtain ⟨order, manager, done, inStep⟩ := (inStep_start lawful plugin).run lawful calls
  have holds := inStep.holds
  have answered : table.call manager.hooks (fun object => (plugin object).confidence files path) =
      (order.reverse.map fun object => (plugin object).confidence files path).filter (!·.isNull) := by
    rw [lawful.call_eq, holds.held, entries, ← List.map_reverse, List.map_map]
    rfl
  have named : manager.names = order.map fun object => (plugin object).name := by
    rw [Manager.names, holds.named, map_fst_entries]
  refine ⟨order, manager, inStep.stands, done, named, ?_, answered, ?_, holds.find?, ?_⟩
  · intro key object
    rw [holds.manager_find?, find?_eq_some_iff holds.nodup]
  · rw [named, names, after, holds.plugins, map_fst_entries]
  · rw [answered, answers, after, holds.hooks, entries, ← List.map_reverse, List.map_map]
    rfl

/-- Objects of one name that take each other's place, and one of them that comes back after its name was given up. -/
theorem registries_in_step_replaced :
    let plugin : Nat → Plugin := fun n => { name := if n = 0 then "b" else "a", confidence := fun _ _ => .int n }
    let calls : List (Call Nat) :=
      [.register 1, .discover [some 0, none, some 2], .unregister "c", .unregister "a", .discover [some 1, some 3]]
    (HookTable.listed Nat).Lawful ∧
      ∃ manager : Manager (.listed Nat), Manager.run plugin calls = some manager ∧ manager.names = ["b", "a"] ∧
        (HookTable.listed Nat).call manager.hooks (fun n => (plugin n).confidence {} ⟨"", ["x"]⟩) =
          [.int 3, .int 0] := by
  intro plugin calls
  have lawful := HookTable.lawful_listed Nat
  obtain ⟨_, manager, _, done, _, _, _, names, _, answers⟩ :=
    registries_in_step plugin lawful calls {} ⟨"", ["x"]⟩
  have named : (after (calls.map (Call.map plugin))).names = ["b", "a"] := by
    simp only [calls, plugin]
    decide +kernel
  have answered : (after (calls.map (Call.map plugin))).answers {} ⟨"", ["x"]⟩ = [.int 3, .int 0] := by
    simp only [calls, plugin]
    rfl
  exact ⟨lawful, manager, done, names.symm.trans named, answers.symm.trans answered⟩

end Registry

end CatalogSearch
