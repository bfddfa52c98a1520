import NetGuardian.PluginCycles
import NetGuardian.Foundation.NamedCells

/-!
# The plugin manager as a table

Plugins are registered in shared cells: in a new one, or in one that the caller has
kept from `get`.  As long as no cell is registered while it is under another name,
the manager is a table from names to plugins: a call for one name concerns that
plugin only, and a call for all of them concerns each one once.  Who still holds the
cell of a plugin that has been unloaded holds a plugin that is shut down, and that
the manager does not touch until the cell is registered again.
-/

namespace NetGuardian

namespace PluginLifecycle

namespace PluginManager

/-- The plugin is removed and shut down. -/
def unload (manager : PluginManager) (name : String) : PluginManager × PluginResult :=
  match manager.plugins.lookup name with
  | none => (manager, .error .notInitialized)
  | some cell =>
      let removed := { manager with plugins := manager.plugins.erase name }
      let state := (manager.cells cell).state
      (removed.setState cell (PluginMethod.shutdown state).1,
        (PluginMethod.shutdown state).2)

/-- The shared cell, which the caller may keep. -/
def get (manager : PluginManager) (name : String) : Option Nat :=
  manager.plugins.lookup name

def has (manager : PluginManager) (name : String) : Bool :=
  (manager.plugins.lookup name).isSome

def count (manager : PluginManager) : Nat :=
  manager.plugins.entries.length

end PluginManager

/-- What is handed over to be registered: a plugin in a new cell, or the cell of a
plugin that the caller has kept. -/
inductive PluginHandle where
  | fresh (plugin : Plugin)
  | kept (cell : Nat)
deriving DecidableEq

/-- The calls of the manager that change something. -/
inductive ManagerCall (Handed : Type) where
  | register (handed : Handed)
  | registerNamed (name : String) (handed : Handed)
  | discoverBuiltin
  | unload (name : String)
  | initializeAll
  | startAll
  | pauseAll
  | resumeAll
  | shutdownAll
  | retryPlugin (name : String)
  | cancelPlugin (name : String)

namespace ManagerCall

variable {Handed Other : Type}

/-- The same call with what is handed over seen in another way. -/
def map (see : Handed → Other) : ManagerCall Handed → ManagerCall Other
  | .register handed => .register (see handed)
  | .registerNamed name handed => .registerNamed name (see handed)
  | .discoverBuiltin => .discoverBuiltin
  | .unload name => .unload name
  | .initializeAll => .initializeAll
  | .startAll => .startAll
  | .pauseAll => .pauseAll
  | .resumeAll => .resumeAll
  | .shutdownAll => .shutdownAll
  | .retryPlugin name => .retryPlugin name
  | .cancelPlugin name => .cancelPlugin name

/-- What a call hands over. -/
def handed : ManagerCall Handed → Option Handed
  | .register handed | .registerNamed _ handed => some handed
  | _ => none

end ManagerCall

namespace PluginManager

/-- The plugin in a cell that is handed over. -/
def pluginIn (manager : PluginManager) : PluginHandle → Plugin
  | .fresh plugin => plugin
  | .kept cell => manager.cells cell

/-- The name leads to the cell that is handed over. -/
def registerHandle (manager : PluginManager) (name : String) :
    PluginHandle → PluginManager
  | .fresh plugin => manager.registerNamed name plugin
  | .kept cell => { manager with plugins := manager.plugins.insert name cell }

/-- The manager after a call, and the results that it returns. -/
def call (manager : PluginManager) :
    ManagerCall PluginHandle → PluginManager × List PluginResult
  | .register handed =>
      (manager.registerHandle (manager.pluginIn handed).kind.name handed, [])
  | .registerNamed name handed => (manager.registerHandle name handed, [])
  | .discoverBuiltin => (manager.discoverBuiltin, [])
  | .unload name => ((manager.unload name).1, [(manager.unload name).2])
  | .initializeAll => manager.initializeAll
  | .startAll => manager.startAll
  | .pauseAll => manager.pauseAll
  | .resumeAll => manager.resumeAll
  | .shutdownAll => manager.shutdownAll
  | .retryPlugin name => ((manager.retryPlugin name).1, [(manager.retryPlugin name).2])
  | .cancelPlugin name =>
      ((manager.cancelPlugin name).1, [(manager.cancelPlugin name).2])

def afterCalls (manager : PluginManager) (calls : List (ManagerCall PluginHandle)) :
    PluginManager :=
  calls.foldl (fun manager next => (manager.call next).1) manager

def infoOf (plugin : Plugin) : PluginInfo where
  name := plugin.kind.name
  version := plugin.kind.version
  description := plugin.kind.description
  capabilities := plugin.capabilities
  state := plugin.healthCheck.state
  healthy := plugin.healthCheck.healthy

end PluginManager

/-- The abstract manager. -/
abbrev PluginTable := String → Option Plugin

namespace PluginTable

open PluginManager

def empty : PluginTable := fun _ => none

/-- What a bulk operation does with a plugin, and what it returns for it. -/
def act (needs : Option Capability) (method : PluginMethod) (plugin : Plugin) :
    Plugin × Option PluginResult :=
  if needs.all plugin.capabilities.supports then
    ({ plugin with state := (method plugin.state).1 }, some (method plugin.state).2)
  else (plugin, none)

def visitAll (needs : Option Capability) (method : PluginMethod) (table : PluginTable) :
    PluginTable :=
  fun name => (table name).map fun plugin => (act needs method plugin).1

def visitOne (method : PluginMethod) (name : String) (table : PluginTable) :
    PluginTable :=
  Function.update table name
    ((table name).map fun plugin => { plugin with state := (method plugin.state).1 })

/-- The first of some kinds with a name, as a new plugin. -/
def newPlugin (kinds : List PluginKind) (name : String) : Option Plugin :=
  (kinds.find? fun kind => kind.name = name).map .new

/-- The table after a call. -/
def apply (table : PluginTable) : ManagerCall Plugin → PluginTable
  | .register plugin => Function.update table plugin.kind.name (some plugin)
  | .registerNamed name plugin => Function.update table name (some plugin)
  | .discoverBuiltin => fun name =>
      (table name).or (newPlugin [.git, .curl, .wget, .podman] name)
  | .unload name => Function.update table name none
  | .initializeAll => table.visitAll none .init
  | .startAll => table.visitAll none .start
  | .pauseAll => table.visitAll (some .cancel) .pause
  | .resumeAll => table.visitAll (some .resume) .resume
  | .shutdownAll => table.visitAll none .shutdown
  | .retryPlugin name => table.visitOne .retry name
  | .cancelPlugin name => table.visitOne .cancel name

/-- The manager and the table beside it after one more call; the table gets the
plugin that is in the cell. -/
def beside (both : PluginManager × PluginTable) (next : ManagerCall PluginHandle) :
    PluginManager × PluginTable :=
  ((both.1.call next).1, both.2.apply (next.map both.1.pluginIn))

/-- The table on which the calls of a new manager have been made. -/
def after (calls : List (ManagerCall PluginHandle)) : PluginTable :=
  (calls.foldl beside (new, empty)).2

def answersOfAll (names : List String) (table : PluginTable) (needs : Option Capability)
    (method : PluginMethod) : List PluginResult :=
  names.filterMap fun name => (table name).bind fun plugin => (act needs method plugin).2

def answerOfOne (table : PluginTable) (method : PluginMethod) (name : String) :
    PluginResult :=
  match table name with
  | none => .error .notInitialized
  | some plugin => (method plugin.state).2

/-- The results of a call, if the map is iterated in the order of the names. -/
def answers {Handed : Type} (names : List String) (table : PluginTable) :
    ManagerCall Handed → List PluginResult
  | .register _ | .registerNamed _ _ | .discoverBuiltin => []
  | .unload name => [table.answerOfOne .shutdown name]
  | .initializeAll => answersOfAll names table none .init
  | .startAll => answersOfAll names table none .start
  | .pauseAll => answersOfAll names table (some .cancel) .pause
  | .resumeAll => answersOfAll names table (some .resume) .resume
  | .shutdownAll => answersOfAll names table none .shutdown
  | .retryPlugin name => [table.answerOfOne .retry name]
  | .cancelPlugin name => [table.answerOfOne .cancel name]

end PluginTable

namespace PluginManager

open NamedCells PluginTable

/-- The names and cells of the manager. -/
def store (manager : PluginManager) : Store String Plugin :=
  ⟨manager.plugins, manager.cells, manager.nextCell⟩

section Bulk

variable {needs : Option Capability} {method : PluginMethod}

theorem store_visitCell (done : PluginManager × List PluginResult) (cell : Nat) :
    ((visitCell needs method done cell).1.store, (visitCell needs method done cell).2) =
      Store.visit (act needs method) (done.1.store, done.2) cell := by
  unfold visitCell Store.visit act
  by_cases selected : needs.all (done.1.cells cell).capabilities.supports = true
  · simp only [selected, if_true, store]
    rfl
  · simp [store, selected, Store.write]

theorem store_foldl (cells : List Nat) (done : PluginManager × List PluginResult) :
    ((cells.foldl (visitCell needs method) done).1.store,
        (cells.foldl (visitCell needs method) done).2) =
      cells.foldl (Store.visit (act needs method)) (done.1.store, done.2) := by
  induction cells generalizing done with
  | nil => rfl
  | cons cell cells ih => rw [List.foldl_cons, ih, store_visitCell, List.foldl_cons]

/-- A bulk operation is a visit of all cells. -/
theorem store_forAll (manager : PluginManager) :
    (forAll needs method manager).1.store =
        (manager.store.visitAll (act needs method)).1 ∧
      (forAll needs method manager).2 =
        (manager.store.visitAll (act needs method)).2 :=
  Prod.mk.injEq .. ▸ store_foldl manager.visited (manager, [])

end Bulk

section Refinement

variable {manager : PluginManager}

/-- The state of the concrete manager is as a table says. -/
structure Refines (manager : PluginManager) (table : PluginTable) : Prop where
  separated : manager.store.Separated
  view : manager.store.view = table

theorem Refines.forAll {table : PluginTable} (refines : manager.Refines table)
    (needs : Option Capability) (method : PluginMethod) :
    (PluginManager.forAll needs method manager).1.Refines (table.visitAll needs method) ∧
      (PluginManager.forAll needs method manager).2 =
        answersOfAll manager.plugins.keys table needs method := by
  obtain ⟨state, results⟩ := @store_forAll needs method manager
  refine ⟨⟨?_, ?_⟩, ?_⟩
  · rw [state]
    exact refines.separated.visitAll _
  · rw [state, Store.view_visitAll refines.separated, refines.view]
    rfl
  · rw [results, Store.output_visitAll refines.separated, refines.view]
    rfl

theorem Refines.lookup {table : PluginTable} (refines : manager.Refines table)
    (name : String) :
    table name = (manager.plugins.lookup name).map manager.cells := by
  rw [← refines.view]
  rfl

theorem Refines.registerNamed {table : PluginTable} (refines : manager.Refines table)
    (name : String) (plugin : Plugin) :
    (manager.registerNamed name plugin).Refines
      (Function.update table name (some plugin)) where
  separated := refines.separated.insertNew name plugin
  view := by
    rw [← refines.view]
    exact Store.view_insertNew refines.separated name plugin

theorem Refines.unload {table : PluginTable} (refines : manager.Refines table)
    (name : String) :
    (manager.unload name).1.Refines (Function.update table name none) ∧
      (manager.unload name).2 = table.answerOfOne .shutdown name := by
  rw [answerOfOne, refines.lookup, PluginManager.unload]
  cases found : manager.plugins.lookup name with
  | none =>
      have absent : table name = none := by rw [refines.lookup, found]; rfl
      have same : Function.update table name none = table := by
        rw [← absent, Function.update_eq_self]
      rw [same]
      exact ⟨refines, rfl⟩
  | some cell =>
      refine ⟨⟨(refines.separated.erase name).write cell _, ?_⟩, rfl⟩
      rw [← refines.view, ← Store.view_erase manager.store name]
      exact (refines.separated.unnamed_erase found).view_write _

theorem Refines.forOne {table : PluginTable} (refines : manager.Refines table)
    {needs : Capability} {refusal : String} (method : PluginMethod) (name : String)
    (supported : ∀ kind : PluginKind, kind.capabilities.supports needs = true) :
    (PluginManager.forOne needs refusal method manager name).1.Refines
        (table.visitOne method name) ∧
      (PluginManager.forOne needs refusal method manager name).2 =
        table.answerOfOne method name := by
  rw [answerOfOne, visitOne, refines.lookup, PluginManager.forOne]
  cases found : manager.plugins.lookup name with
  | none =>
      have absent : table name = none := by rw [refines.lookup, found]; rfl
      have same : Function.update table name none = table := by
        rw [← absent, Function.update_eq_self]
      rw [Option.map_none, Option.map_none, same]
      exact ⟨refines, rfl⟩
  | some cell =>
      have selected : (manager.cells cell).capabilities.supports needs = true :=
        supported (manager.cells cell).kind
      simp only [selected, if_true, Option.map_some]
      refine ⟨⟨refines.separated.write cell _, ?_⟩, trivial⟩
      rw [← refines.view]
      exact Store.view_write refines.separated found _

/-- Only kinds whose names are free are registered. -/
theorem Refines.discover {table : PluginTable} (refines : manager.Refines table)
    (kinds : List PluginKind) :
    (kinds.foldl (fun manager kind =>
        if manager.plugins.lookup kind.name = none then
          manager.registerNamed kind.name (.new kind)
        else manager) manager).Refines
      fun name => (table name).or (newPlugin kinds name) := by
  induction kinds generalizing manager table with
  | nil =>
      simpa [newPlugin] using refines
  | cons kind kinds ih =>
      rw [List.foldl_cons]
      by_cases free : manager.plugins.lookup kind.name = none
      · rw [if_pos free]
        have later := ih (refines.registerNamed kind.name (.new kind))
        have absent : table kind.name = none := by rw [refines.lookup, free]; rfl
        have same : (fun name => (Function.update table kind.name
              (some (Plugin.new kind)) name).or (newPlugin kinds name)) =
            fun name => (table name).or (newPlugin (kind :: kinds) name) := by
          funext name
          by_cases named : name = kind.name
          · subst named
            simp [absent, newPlugin]
          · simp [named, newPlugin, Ne.symm named]
        rwa [same] at later
      · rw [if_neg free]
        have later := ih refines
        obtain ⟨cell, held⟩ := Option.ne_none_iff_exists'.mp free
        have same : (fun name => (table name).or (newPlugin kinds name)) =
            fun name => (table name).or (newPlugin (kind :: kinds) name) := by
          funext name
          by_cases named : name = kind.name
          · subst named
            simp [refines.lookup, held]
          · simp [newPlugin, Ne.symm named]
        rwa [same] at later

/-- What is registered under a name is in a new cell, or in one that is in use and
under no other name. -/
def MayRegister (manager : PluginManager) (name : String) : PluginHandle → Prop
  | .fresh _ => True
  | .kept cell => manager.store.Free name cell

/-- A call that gives no cell a second name. -/
def Apart (manager : PluginManager) : ManagerCall PluginHandle → Prop
  | .register handed =>
      manager.MayRegister (manager.pluginIn handed).kind.name handed
  | .registerNamed name handed => manager.MayRegister name handed
  | _ => True

/-- Without a cell that was kept there is nothing to be careful about. -/
theorem apart_of_handed {next : ManagerCall PluginHandle}
    (noneKept : ∀ cell, next.handed ≠ some (.kept cell)) : manager.Apart next := by
  cases next with
  | register handed | registerNamed name handed =>
      cases handed with
      | fresh plugin => trivial
      | kept cell => exact absurd rfl (noneKept cell)
  | _ => trivial

theorem Refines.registerHandle {table : PluginTable} (refines : manager.Refines table)
    {name : String} {handed : PluginHandle}
    (mayRegister : manager.MayRegister name handed) :
    (manager.registerHandle name handed).Refines
      (Function.update table name (some (manager.pluginIn handed))) := by
  cases handed with
  | fresh plugin => exact refines.registerNamed name plugin
  | kept cell =>
      refine ⟨refines.separated.point mayRegister, ?_⟩
      rw [← refines.view]
      exact Store.view_point manager.store name cell

/-- A call does to the table what it says, and returns what it says. -/
theorem Refines.call {table : PluginTable} (refines : manager.Refines table)
    {next : ManagerCall PluginHandle} (apart : manager.Apart next) :
    (manager.call next).1.Refines (table.apply (next.map manager.pluginIn)) ∧
      (manager.call next).2 = answers manager.plugins.keys table next := by
  cases next with
  | register handed => exact ⟨refines.registerHandle apart, rfl⟩
  | registerNamed name handed => exact ⟨refines.registerHandle apart, rfl⟩
  | discoverBuiltin => exact ⟨refines.discover _, rfl⟩
  | unload name =>
      obtain ⟨state, result⟩ := refines.unload name
      exact ⟨state, congrArg (fun result => [result]) result⟩
  | initializeAll => exact refines.forAll _ _
  | startAll => exact refines.forAll _ _
  | pauseAll => exact refines.forAll _ _
  | resumeAll => exact refines.forAll _ _
  | shutdownAll => exact refines.forAll _ _
  | retryPlugin name =>
      obtain ⟨state, result⟩ := refines.forOne .retry name PluginKind.supports_retry
      exact ⟨state, congrArg (fun result => [result]) result⟩
  | cancelPlugin name =>
      obtain ⟨state, result⟩ := refines.forOne .cancel name PluginKind.supports_cancel
      exact ⟨state, congrArg (fun result => [result]) result⟩

theorem refines_new : PluginManager.new.Refines empty := by
  refine ⟨⟨?_, ?_⟩, ?_⟩
  · intro name other cell held
    cases held
  · intro name cell held
    cases held
  · rfl

theorem afterCalls_append (manager : PluginManager)
    (calls : List (ManagerCall PluginHandle)) (next : ManagerCall PluginHandle) :
    manager.afterCalls (calls ++ [next]) = ((manager.afterCalls calls).call next).1 := by
  rw [afterCalls, List.foldl_append]
  rfl

/-- None of the calls of a new manager gives a cell a second name. -/
def AllApart (calls : List (ManagerCall PluginHandle)) : Prop :=
  ∀ earlier next later, calls = earlier ++ next :: later →
    (new.afterCalls earlier).Apart next

theorem AllApart.earlier {calls more : List (ManagerCall PluginHandle)}
    (apart : AllApart (calls ++ more)) : AllApart calls := by
  rintro earlier next later rfl
  exact apart earlier next (later ++ more) (by rw [List.append_assoc]; rfl)

theorem allApart_of_handed {calls : List (ManagerCall PluginHandle)}
    (noneKept : ∀ next ∈ calls, ∀ cell, next.handed ≠ some (.kept cell)) :
    AllApart calls := by
  rintro earlier next later rfl
  exact apart_of_handed (noneKept next (by simp))

theorem AllApart.append {calls : List (ManagerCall PluginHandle)}
    (apart : AllApart calls) {next : ManagerCall PluginHandle}
    (nextApart : (new.afterCalls calls).Apart next) : AllApart (calls ++ [next]) := by
  intro earlier other later same
  cases later using List.reverseRecOn with
  | nil =>
      obtain ⟨rfl, last⟩ := List.append_inj' same rfl
      cases last
      exact nextApart
  | append_singleton later last _ =>
      have regrouped : earlier ++ other :: (later ++ [last]) =
          (earlier ++ other :: later) ++ [last] := by
        rw [List.append_assoc]
        rfl
      rw [regrouped] at same
      exact apart earlier other later (List.append_inj' same rfl).1

theorem beside_foldl (calls : List (ManagerCall PluginHandle)) :
    calls.foldl beside (new, empty) = (new.afterCalls calls, PluginTable.after calls) := by
  induction calls using List.reverseRecOn with
  | nil => rfl
  | append_singleton calls next ih =>
      rw [PluginTable.after, List.foldl_append, ih, afterCalls_append]
      rfl

theorem table_append (calls : List (ManagerCall PluginHandle))
    (next : ManagerCall PluginHandle) :
    PluginTable.after (calls ++ [next]) =
      (PluginTable.after calls).apply (next.map (new.afterCalls calls).pluginIn) := by
  rw [PluginTable.after, List.foldl_append, beside_foldl]
  rfl

theorem refines_afterCalls {calls : List (ManagerCall PluginHandle)}
    (apart : AllApart calls) :
    (new.afterCalls calls).Refines (PluginTable.after calls) := by
  induction calls using List.reverseRecOn with
  | nil => exact refines_new
  | append_singleton calls next ih =>
      rw [afterCalls_append, table_append]
      exact ((ih apart.earlier).call (apart calls next [] rfl)).1

end Refinement

section Handles

variable {manager : PluginManager} {table : PluginTable} {cell : Nat}

/-- A cell out of reach stays so, and keeps its plugin. -/
def Leaves (manager after : PluginManager) (cell : Nat) : Prop :=
  after.store.Unnamed cell ∧ after.cells cell = manager.cells cell

theorem leaves_forAll (refines : manager.Refines table)
    (unnamed : manager.store.Unnamed cell) (needs : Option Capability)
    (method : PluginMethod) :
    manager.Leaves (forAll needs method manager).1 cell := by
  obtain ⟨state, _⟩ := @store_forAll needs method manager
  obtain ⟨still, same⟩ := unnamed.visitAll refines.separated (act needs method)
  rw [← state] at still same
  exact ⟨still, same⟩

theorem leaves_forOne (unnamed : manager.store.Unnamed cell) (needs : Capability)
    (refusal : String) (method : PluginMethod) (name : String) :
    manager.Leaves (forOne needs refusal method manager name).1 cell := by
  unfold forOne
  split
  · exact ⟨unnamed, rfl⟩
  · next held found =>
      dsimp only
      split
      · exact unnamed.write found _
      · exact ⟨unnamed, rfl⟩

theorem leaves_unload (unnamed : manager.store.Unnamed cell) (name : String) :
    manager.Leaves (manager.unload name).1 cell := by
  unfold unload
  split
  · exact ⟨unnamed, rfl⟩
  · next held found =>
      have other : cell ≠ held := by
        rintro rfl
        exact unnamed.2 name found
      exact ⟨unnamed.erase name, Function.update_of_ne other _ _⟩

theorem leaves_discover (unnamed : manager.store.Unnamed cell)
    (kinds : List PluginKind) :
    manager.Leaves (kinds.foldl (fun manager kind =>
        if manager.plugins.lookup kind.name = none then
          manager.registerNamed kind.name (.new kind)
        else manager) manager) cell := by
  induction kinds generalizing manager with
  | nil => exact ⟨unnamed, rfl⟩
  | cons kind kinds ih =>
      rw [List.foldl_cons]
      split
      · obtain ⟨still, same⟩ := unnamed.insertNew kind.name (.new kind)
        have stillUnnamed :
          (manager.registerNamed kind.name (.new kind)).store.Unnamed cell := still
        obtain ⟨later, laterSame⟩ := ih stillUnnamed
        exact ⟨later, laterSame.trans same⟩
      · exact ih unnamed

theorem leaves_registerHandle (unnamed : manager.store.Unnamed cell) (name : String)
    {handed : PluginHandle} (other : handed ≠ .kept cell) :
    manager.Leaves (manager.registerHandle name handed) cell := by
  cases handed with
  | fresh plugin => exact unnamed.insertNew name plugin
  | kept held =>
      have different : cell ≠ held := fun same => other (congrArg _ same.symm)
      exact ⟨unnamed.point name different, rfl⟩

/-- No call reaches the cell of a plugin that has been replaced or unloaded, unless
it hands it over again. -/
theorem leaves_call (refines : manager.Refines table)
    (unnamed : manager.store.Unnamed cell) {next : ManagerCall PluginHandle}
    (other : next.handed ≠ some (.kept cell)) :
    manager.Leaves (manager.call next).1 cell := by
  cases next with
  | register handed =>
      exact leaves_registerHandle unnamed _ fun same => other (congrArg some same)
  | registerNamed name handed =>
      exact leaves_registerHandle unnamed _ fun same => other (congrArg some same)
  | discoverBuiltin => exact leaves_discover unnamed _
  | unload name => exact leaves_unload unnamed name
  | initializeAll | startAll | pauseAll | resumeAll | shutdownAll =>
      exact leaves_forAll refines unnamed _ _
  | retryPlugin name | cancelPlugin name => exact leaves_forOne unnamed _ _ _ name

/-- The caller of `get` who keeps the cell of a plugin that is unloaded holds a
plugin that is shut down, as long as the cell is not handed over again. -/
theorem shutdown_after_unload {earlier later : List (ManagerCall PluginHandle)}
    {name : String} (apart : AllApart (earlier ++ .unload name :: later))
    (held : (new.afterCalls earlier).get name = some cell)
    (others : ∀ next ∈ later, next.handed ≠ some (.kept cell)) :
    (new.afterCalls (earlier ++ .unload name :: later)).store.Unnamed cell ∧
      ((new.afterCalls (earlier ++ .unload name :: later)).cells cell).state =
        .shutdown := by
  induction later using List.reverseRecOn with
  | nil =>
      have refines := refines_afterCalls apart.earlier
      have found : (new.afterCalls earlier).plugins.lookup name = some cell := held
      have removed := refines.separated.unnamed_erase found
      rw [afterCalls_append]
      constructor
      · simp only [call, unload, found]
        exact removed
      · simp [call, unload, found, setState, PluginMethod.shutdown]
  | append_singleton later next ih =>
      have regrouped : earlier ++ .unload name :: (later ++ [next]) =
          (earlier ++ .unload name :: later) ++ [next] := by
        rw [List.append_assoc]
        rfl
      rw [regrouped] at apart ⊢
      have othersBefore : ∀ next ∈ later, next.handed ≠ some (.kept cell) :=
        fun next member => others next (List.mem_append_left _ member)
      obtain ⟨unnamed, down⟩ := ih apart.earlier othersBefore
      have other := others next (List.mem_append_right _ List.mem_cons_self)
      rw [afterCalls_append]
      obtain ⟨still, same⟩ := leaves_call (refines_afterCalls apart.earlier) unnamed other
      exact ⟨still, by rw [same, down]⟩

end Handles

/-- What holds of a manager that stands for a table. -/
structure ActsAs (manager : PluginManager) (table : PluginTable) (names : List String) :
    Prop where
  nodup : names.Nodup
  named : ∀ name, name ∈ names ↔ (table name).isSome
  has : ∀ name, manager.has name = (table name).isSome
  get : ∀ name, (manager.get name).map manager.cells = table name
  count : manager.count = names.length
  list : manager.list = names.filterMap fun name => (table name).map infoOf
  answers : ∀ next, (manager.call next).2 = answers names table next

theorem Refines.actsAs {manager : PluginManager} {table : PluginTable}
    (refines : manager.Refines table) : manager.ActsAs table manager.plugins.keys where
  nodup := manager.plugins.keys_nodup
  named name := by
    rw [refines.lookup, Option.isSome_map, AList.lookup_isSome, AList.mem_keys]
  has name := by
    rw [PluginManager.has, refines.lookup, Option.isSome_map]
  get name := (refines.lookup name).symm
  count := by
    rw [PluginManager.count, AList.keys, List.keys, List.length_map]
  list := by
    have found : ∀ entry ∈ manager.plugins.entries,
        table entry.1 = some (manager.cells entry.2) := by
      intro entry member
      rw [refines.lookup, AList.mem_lookup_iff.mpr member]
      rfl
    rw [PluginManager.list, visited, AList.keys, List.keys, List.map_map,
      List.filterMap_map, ← List.filterMap_eq_map]
    refine List.filterMap_congr fun entry member => ?_
    change _ = (table entry.1).map infoOf
    rw [found entry member]
    rfl
  answers next := by
    by_cases nothing : next.handed = none
    · have apart : manager.Apart next :=
        apart_of_handed fun cell kept => by rw [nothing] at kept; cases kept
      exact (refines.call apart).2
    · cases next with
      | register handed | registerNamed name handed => rfl
      | _ => exact absurd rfl nothing

/-- After any calls that give no cell a second name the manager answers like the table
on which the same calls have been made, and a cell that a caller has kept beyond the
unloading of its plugin stays shut down until it is registered again. -/
theorem manager_refines_table (calls : List (ManagerCall PluginHandle))
    (apart : AllApart calls) :
    (∃ names, (new.afterCalls calls).ActsAs (PluginTable.after calls) names) ∧
      ∀ earlier name later cell, calls = earlier ++ .unload name :: later →
        (new.afterCalls earlier).get name = some cell →
          (∀ next ∈ later, next.handed ≠ some (.kept cell)) →
            ((new.afterCalls calls).cells cell).state = .shutdown := by
  refine ⟨⟨_, (refines_afterCalls apart).actsAs⟩, ?_⟩
  rintro earlier name later cell rfl held others
  exact (shutdown_after_unload apart held others).2

/-- A caller keeps the cell of a plugin that it unloads. -/
def keptCurl : List (ManagerCall PluginHandle) :=
  [.discoverBuiltin, .unload "curl", .startAll]

/-- The cell is registered again, and its plugin is loaded with the others. -/
def handedBack : List (ManagerCall PluginHandle) :=
  keptCurl ++ [.register (.kept 1), .initializeAll]

theorem manager_refines_table_handed_back :
    (∃ names, (new.afterCalls handedBack).ActsAs (PluginTable.after handedBack) names) ∧
      ((new.afterCalls keptCurl).cells 1).state = .shutdown ∧
      PluginTable.after handedBack "curl" = some (.new .curl) := by
  have keptApart : AllApart keptCurl := allApart_of_handed (by
    simp [keptCurl, ManagerCall.handed])
  have free : (new.afterCalls keptCurl).Apart (.register (.kept 1)) := by
    change Store.Free _ _ _
    decide +kernel
  have loads : (new.afterCalls (keptCurl ++ [.register (.kept 1)])).Apart
      .initializeAll := trivial
  have apart : AllApart handedBack := (keptApart.append free).append loads
  refine ⟨(manager_refines_table handedBack apart).1, ?_, by decide +kernel⟩
  exact (manager_refines_table keptCurl keptApart).2 [.discoverBuiltin] "curl"
    [.startAll] 1 rfl (by decide +kernel) (by decide)

/-- A cell that is registered under a second name while it has its first one is
started twice. -/
example :
    ((new.afterCalls [.registerNamed "one" (.fresh (.new .git)),
        .registerNamed "two" (.kept 0)]).call .startAll).2 =
      [.ok (), .error .alreadyRunning] := by
  decide +kernel

end PluginManager

end PluginLifecycle

end NetGuardian
