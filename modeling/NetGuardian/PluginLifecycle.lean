import NetGuardian.CommunityPlugins

/-!
# Plugins and their manager

A plugin is one of the four built-in ones or made from the manifest of a
community plugin.  All implement the same lifecycle; they differ in what they
say of themselves, their capabilities above all.

The manager maps names to shared cells with plugins.  Its bulk operations visit
every name once, so that a plugin with two names is visited twice.
-/

namespace NetGuardian

namespace PluginLifecycle

inductive Capability where
  | resume
  | queue
  | parallel
  | cache
  | priority
  | retry
  | progress
  | cancel
deriving DecidableEq

structure PluginCapabilities where
  caps : List Capability
deriving DecidableEq

namespace PluginCapabilities

def new : PluginCapabilities := ⟨[]⟩

/-- `with` of the source, which is a keyword here. -/
def adding (capabilities : PluginCapabilities) (cap : Capability) :
    PluginCapabilities :=
  if cap ∈ capabilities.caps then capabilities
  else ⟨capabilities.caps ++ [cap]⟩

def supports (capabilities : PluginCapabilities) (cap : Capability) : Bool :=
  decide (cap ∈ capabilities.caps)

end PluginCapabilities

inductive PluginState where
  | loaded
  | running
  | paused
  | error (message : String)
  | shutdown
deriving DecidableEq

inductive PluginError where
  | notInitialized
  | alreadyRunning
  | notRunning
  | executionFailed (message : String)
  | unsupportedOperation (message : String)
deriving DecidableEq

abbrev PluginResult := Except PluginError Unit

structure PluginHealth where
  healthy : Bool
  state : PluginState
  message : String
deriving DecidableEq

/-- The implementations of the plugin trait. -/
inductive PluginKind where
  | git
  | curl
  | wget
  | podman
  | community (manifest : CommunityPluginManifest)
deriving DecidableEq

namespace PluginKind

def name : PluginKind → String
  | git => "git"
  | curl => "curl"
  | wget => "wget"
  | podman => "podman"
  | community manifest => manifest.name

def version : PluginKind → String
  | git | curl | wget | podman => "0.1.0"
  | community manifest => manifest.version

def description : PluginKind → String
  | git => "Git protocol support: clone, pull, fetch with resume capability"
  | curl => "cURL downloads with retry and resume support"
  | wget => "Wget downloads with retry and resume (-c) support"
  | podman => "Podman container management with pull/push retry support"
  | community manifest => manifest.description

def capabilities : PluginKind → PluginCapabilities
  | git | curl | wget =>
      (((PluginCapabilities.new.adding .resume).adding .cancel).adding
        .retry).adding .progress
  | podman => (PluginCapabilities.new.adding .cancel).adding .retry
  | community manifest =>
      let capabilities := (PluginCapabilities.new.adding .cancel).adding .retry
      if manifest.supportsResume then capabilities.adding .resume
      else capabilities

def healthMessage : PluginKind → String
  | git => "Git plugin operational"
  | curl => "Curl plugin operational"
  | wget => "Wget plugin operational"
  | podman => "Podman plugin operational"
  | community manifest => manifest.name ++ " plugin operational"

/-- Everything can be cancelled and tried again. -/
theorem supports_cancel_retry (kind : PluginKind) :
    kind.capabilities.supports .cancel = true ∧
      kind.capabilities.supports .retry = true := by
  cases kind with
  | git | curl | wget | podman => decide
  | community manifest =>
      cases resume : manifest.supportsResume <;>
        simp [capabilities, resume, PluginCapabilities.supports,
          PluginCapabilities.adding, PluginCapabilities.new]

theorem supports_cancel (kind : PluginKind) :
    kind.capabilities.supports .cancel = true :=
  kind.supports_cancel_retry.1

theorem supports_retry (kind : PluginKind) :
    kind.capabilities.supports .retry = true :=
  kind.supports_cancel_retry.2

end PluginKind

/-- A method of the lifecycle: the next state, and the result. -/
abbrev PluginMethod := PluginState → PluginState × PluginResult

/-! All plugins have the same methods. -/

namespace PluginMethod

/-- `initialize` of the source, which is a keyword here. -/
def init : PluginMethod
  | _ => (.loaded, .ok ())

def start : PluginMethod
  | .loaded | .paused => (.running, .ok ())
  | .running => (.running, .error .alreadyRunning)
  | state => (state, .error (.executionFailed "cannot start"))

def pause : PluginMethod := fun state =>
  if state = .running then (.paused, .ok ()) else (state, .error .notRunning)

def resume : PluginMethod := fun state =>
  if state = .paused then (.running, .ok ()) else (state, .error .notRunning)

def retry : PluginMethod := fun state =>
  if state = .running then (state, .ok ()) else (state, .error .notRunning)

/-- Whatever the state was, `Shutdown` included. -/
def cancel : PluginMethod
  | _ => (.loaded, .ok ())

def shutdown : PluginMethod
  | _ => (.shutdown, .ok ())

end PluginMethod

structure Plugin where
  kind : PluginKind
  state : PluginState
deriving DecidableEq

namespace Plugin

def new (kind : PluginKind) : Plugin := ⟨kind, .loaded⟩

def capabilities (plugin : Plugin) : PluginCapabilities :=
  plugin.kind.capabilities

def healthCheck (plugin : Plugin) : PluginHealth :=
  ⟨true, plugin.state, plugin.kind.healthMessage⟩

end Plugin

structure PluginInfo where
  name : String
  version : String
  description : String
  capabilities : PluginCapabilities
  state : PluginState
  healthy : Bool

/-- The cells are the `Arc<Mutex<dyn Plugin>>`s of the program. -/
structure PluginManager where
  plugins : AList fun _ : String => Nat
  cells : Nat → Plugin
  nextCell : Nat

namespace PluginManager

def new : PluginManager := ⟨∅, fun _ => .new .git, 0⟩

/-- A new plugin under some name. -/
def registerNamed (manager : PluginManager) (name : String) (plugin : Plugin) :
    PluginManager where
  plugins := manager.plugins.insert name manager.nextCell
  cells := Function.update manager.cells manager.nextCell plugin
  nextCell := manager.nextCell + 1

def register (manager : PluginManager) (plugin : Plugin) : PluginManager :=
  manager.registerNamed plugin.kind.name plugin

def discoverBuiltin (manager : PluginManager) : PluginManager :=
  [PluginKind.git, .curl, .wget, .podman].foldl
    (fun manager kind =>
      if manager.plugins.lookup kind.name = none then
        manager.registerNamed kind.name (.new kind)
      else manager)
    manager

/-- The plugin of a cell is replaced. -/
def setState (manager : PluginManager) (cell : Nat) (state : PluginState) :
    PluginManager :=
  { manager with
    cells := Function.update manager.cells cell
      { manager.cells cell with state := state } }

/-- The cells in the order in which the map is iterated. -/
def visited (manager : PluginManager) : List Nat :=
  manager.plugins.entries.map Sigma.snd

def list (manager : PluginManager) : List PluginInfo :=
  manager.visited.map fun cell =>
    let plugin := manager.cells cell
    { name := plugin.kind.name
      version := plugin.kind.version
      description := plugin.kind.description
      capabilities := plugin.capabilities
      state := plugin.healthCheck.state
      healthy := plugin.healthCheck.healthy }

/-- One round of a bulk operation: the method of the plugin in a cell, if it has
the capability that is asked for. -/
def visitCell (needs : Option Capability) (method : PluginMethod)
    (done : PluginManager × List PluginResult) (cell : Nat) :
    PluginManager × List PluginResult :=
  let plugin := done.1.cells cell
  if needs.all plugin.capabilities.supports then
    (done.1.setState cell (method plugin.state).1,
      done.2 ++ [(method plugin.state).2])
  else done

def forAll (needs : Option Capability) (method : PluginMethod)
    (manager : PluginManager) : PluginManager × List PluginResult :=
  manager.visited.foldl (visitCell needs method) (manager, [])

def initializeAll := forAll none .init

def startAll := forAll none .start

/-- The capability that is tested is `Cancel`. -/
def pauseAll := forAll (some .cancel) .pause

def resumeAll := forAll (some .resume) .resume

def shutdownAll := forAll none .shutdown

/-- A method of one plugin that must have a capability. -/
def forOne (needs : Capability) (refusal : String) (method : PluginMethod)
    (manager : PluginManager) (name : String) : PluginManager × PluginResult :=
  match manager.plugins.lookup name with
  | none => (manager, .error .notInitialized)
  | some cell =>
      let plugin := manager.cells cell
      if plugin.capabilities.supports needs then
        (manager.setState cell (method plugin.state).1, (method plugin.state).2)
      else (manager, .error (.unsupportedOperation refusal))

def retryPlugin := forOne .retry "retry not supported by this plugin" .retry

def cancelPlugin := forOne .cancel "cancel not supported by this plugin" .cancel

/-- The manager holds the plugin of a cell. -/
def Holds (manager : PluginManager) (cell : Nat) : Prop :=
  ∃ name, manager.plugins.lookup name = some cell

theorem mem_visited_iff (manager : PluginManager) (cell : Nat) :
    cell ∈ manager.visited ↔ manager.Holds cell := by
  constructor
  · intro member
    obtain ⟨entry, found, rfl⟩ := List.mem_map.mp member
    exact ⟨entry.1, AList.mem_lookup_iff.mpr found⟩
  · rintro ⟨name, found⟩
    exact List.mem_map.mpr ⟨⟨name, cell⟩, AList.mem_lookup_iff.mp found, rfl⟩

section Bulk

variable {needs : Option Capability} {method : PluginMethod}

/-- What a visit makes of a plugin. -/
def visit (needs : Option Capability) (method : PluginMethod) (plugin : Plugin) :
    Plugin :=
  if needs.all plugin.capabilities.supports then
    { plugin with state := (method plugin.state).1 }
  else plugin

/-- A second call of the method leaves the state as the first one has. -/
def Settles (method : PluginMethod) : Prop :=
  ∀ state, (method (method state).1).1 = (method state).1

theorem visit_visit (settles : Settles method) (plugin : Plugin) :
    visit needs method (visit needs method plugin) =
      visit needs method plugin := by
  by_cases selected : needs.all plugin.capabilities.supports = true
  · have visited : visit needs method plugin =
        { plugin with state := (method plugin.state).1 } := if_pos selected
    rw [visited]
    change (if needs.all plugin.capabilities.supports = true then _ else _) = _
    rw [if_pos selected, settles]
  · have skipped : visit needs method plugin = plugin := if_neg selected
    rw [skipped, skipped]

theorem visitCell_spec (done : PluginManager × List PluginResult) (cell : Nat) :
    (visitCell needs method done cell).1.plugins = done.1.plugins ∧
      ∀ other, (visitCell needs method done cell).1.cells other =
        if other = cell then visit needs method (done.1.cells other)
        else done.1.cells other := by
  unfold visitCell visit
  by_cases selected :
      needs.all (done.1.cells cell).capabilities.supports = true
  · rw [if_pos selected]
    refine ⟨rfl, fun other => ?_⟩
    by_cases same : other = cell
    · subst same
      simp [setState, selected]
    · simp [setState, same]
  · rw [if_neg selected]
    refine ⟨rfl, fun other => ?_⟩
    by_cases same : other = cell
    · subst same
      simp [selected]
    · simp [same]

theorem foldl_visitCell_spec (settles : Settles method) (cells : List Nat)
    (done : PluginManager × List PluginResult) :
    (cells.foldl (visitCell needs method) done).1.plugins = done.1.plugins ∧
      ∀ other, (cells.foldl (visitCell needs method) done).1.cells other =
        if other ∈ cells then visit needs method (done.1.cells other)
        else done.1.cells other := by
  induction cells generalizing done with
  | nil => simp
  | cons cell cells ih =>
      obtain ⟨names, first⟩ := @visitCell_spec needs method done cell
      obtain ⟨laterNames, later⟩ := ih (visitCell needs method done cell)
      refine ⟨laterNames.trans names, fun other => ?_⟩
      rw [List.foldl_cons, later, first]
      by_cases same : other = cell
      · by_cases again : other ∈ cells <;>
          simp [same, visit_visit settles]
      · simp [same]

/-- A bulk operation is a visit of every plugin that the manager holds, and
leaves the names alone. -/
theorem forAll_spec (settles : Settles method) (manager : PluginManager) :
    (forAll needs method manager).1.plugins = manager.plugins ∧
      ∀ cell, manager.Holds cell →
        (forAll needs method manager).1.cells cell =
          visit needs method (manager.cells cell) := by
  obtain ⟨names, cells⟩ := @foldl_visitCell_spec needs method settles
    manager.visited (manager, [])
  refine ⟨names, fun cell held => ?_⟩
  have member := (manager.mem_visited_iff cell).mpr held
  exact (cells cell).trans (if_pos member)

end Bulk

section Methods

theorem settles_start : Settles .start := by
  intro state
  cases state <;> rfl

theorem settles_pause : Settles .pause := by
  intro state
  cases state <;> simp [PluginMethod.pause]

theorem settles_resume : Settles .resume := by
  intro state
  cases state <;> simp [PluginMethod.resume]

theorem settles_shutdown : Settles .shutdown := by
  intro state
  rfl

/-- What a method for one plugin does: nothing for an unknown name; the method
of the named plugin alone, which all plugins support. -/
theorem forOne_spec {needs : Capability} {refusal : String}
    {method : PluginMethod} (manager : PluginManager) (name : String)
    (supported : ∀ kind : PluginKind,
      kind.capabilities.supports needs = true) :
    (forOne needs refusal method manager name).1.plugins = manager.plugins ∧
      ∀ cell, ((forOne needs refusal method manager name).1.cells cell).state =
        if manager.plugins.lookup name = some cell then
          (method (manager.cells cell).state).1
        else (manager.cells cell).state := by
  unfold forOne
  cases found : manager.plugins.lookup name with
  | none => simp
  | some named =>
      have selected : (manager.cells named).capabilities.supports needs = true :=
        supported (manager.cells named).kind
      simp only [selected, if_true]
      refine ⟨rfl, fun cell => ?_⟩
      by_cases same : named = cell
      · subst same
        simp [setState]
      · simp [setState, same, Ne.symm same]

end Methods

end PluginManager

end PluginLifecycle

end NetGuardian
