import NetGuardian.PluginLifecycle

/-!
# Pausing and shutting down all plugins

`pause_all` pauses every running plugin that can be cancelled, which is every
running plugin.  `resume_all` resumes those only that support `Resume`.

`shutdown_all` leaves every plugin in a state that `start` refuses.
`cancel_plugin` leads out of it again.
-/

namespace NetGuardian

namespace PluginLifecycle

namespace PluginManager

/-- The state of the plugin in a cell. -/
def stateOf (manager : PluginManager) (cell : Nat) : PluginState :=
  (manager.cells cell).state

section Bulk

variable (manager : PluginManager) {cell : Nat}

theorem holds_forAll {needs : Option Capability} {method : PluginMethod}
    (settles : Settles method) (cell : Nat) :
    (forAll needs method manager).1.Holds cell ↔ manager.Holds cell := by
  rw [Holds, Holds, (forAll_spec settles manager).1]

theorem stateOf_startAll (held : manager.Holds cell) :
    manager.startAll.1.stateOf cell =
      (PluginMethod.start (manager.stateOf cell)).1 := by
  have visited := (@forAll_spec none _ settles_start manager).2 cell held
  rw [stateOf, startAll, visited]
  rfl

theorem stateOf_shutdownAll (held : manager.Holds cell) :
    manager.shutdownAll.1.stateOf cell = .shutdown := by
  have visited := (@forAll_spec none _ settles_shutdown manager).2 cell held
  rw [stateOf, shutdownAll, visited]
  rfl

theorem cells_pauseAll (held : manager.Holds cell) :
    manager.pauseAll.1.cells cell =
      { manager.cells cell with
        state := (PluginMethod.pause (manager.stateOf cell)).1 } := by
  have visited := (@forAll_spec (some .cancel) _ settles_pause manager).2 cell
    held
  rw [pauseAll, visited]
  exact if_pos (manager.cells cell).kind.supports_cancel

theorem stateOf_resumeAll (held : manager.Holds cell) :
    manager.resumeAll.1.stateOf cell =
      if (manager.cells cell).capabilities.supports .resume then
        (PluginMethod.resume (manager.stateOf cell)).1
      else manager.stateOf cell := by
  have visited := (@forAll_spec (some .resume) _ settles_resume manager).2 cell
    held
  rw [stateOf, resumeAll, visited, visit, Option.all_some]
  split <;> rfl

end Bulk

section Pausing

/-- Every running plugin runs again after a pause and a resume of all. -/
def ResumesAll (manager : PluginManager) : Prop :=
  ∀ cell, manager.Holds cell → manager.stateOf cell = .running →
    manager.pauseAll.1.resumeAll.1.stateOf cell = .running

/-- A running plugin is paused, and resumed if it supports `Resume`. -/
theorem stateOf_pause_resume (manager : PluginManager) {cell : Nat}
    (held : manager.Holds cell) (running : manager.stateOf cell = .running) :
    manager.pauseAll.1.resumeAll.1.stateOf cell =
      if (manager.cells cell).capabilities.supports .resume then .running
      else .paused := by
  have paused := manager.cells_pauseAll held
  rw [running] at paused
  have heldPaused : manager.pauseAll.1.Holds cell :=
    (manager.holds_forAll settles_pause cell).mpr held
  rw [stateOf_resumeAll _ heldPaused, stateOf, paused]
  rfl

/-- Pausing and resuming all plugins brings the running ones back exactly when
each of them supports `Resume`. -/
theorem resumesAll_iff (manager : PluginManager) :
    manager.ResumesAll ↔
      ∀ cell, manager.Holds cell → manager.stateOf cell = .running →
        (manager.cells cell).capabilities.supports .resume = true := by
  constructor
  · intro resumes cell held running
    by_contra unsupported
    have again := resumes cell held running
    rw [manager.stateOf_pause_resume held running, if_neg unsupported] at again
    cases again
  · intro supported cell held running
    rw [manager.stateOf_pause_resume held running,
      if_pos (supported cell held running)]

/-- Podman, initialized and started. -/
def podmanRunning : PluginManager :=
  ((new.register (.new .podman)).initializeAll.1).startAll.1

/-- It is paused with the others and not resumed with them. -/
theorem podman_stays_paused :
    podmanRunning.stateOf 0 = .running ∧
      podmanRunning.pauseAll.1.resumeAll.1.stateOf 0 = .paused ∧
      ¬ podmanRunning.ResumesAll := by
  have running : podmanRunning.stateOf 0 = .running := by decide
  have paused : podmanRunning.pauseAll.1.resumeAll.1.stateOf 0 = .paused := by
    decide
  refine ⟨running, paused, fun resumes => ?_⟩
  have again := resumes 0 ⟨"podman", by decide⟩ running
  rw [paused] at again
  cases again

end Pausing

/-- The calls of the manager other than those of `initialize_all` and
`shutdown_all`. -/
inductive Call where
  | startAll
  | pauseAll
  | resumeAll
  | retryPlugin (name : String)
  | cancelPlugin (name : String)
deriving DecidableEq

def apply (manager : PluginManager) : Call → PluginManager
  | .startAll => manager.startAll.1
  | .pauseAll => manager.pauseAll.1
  | .resumeAll => manager.resumeAll.1
  | .retryPlugin name => (manager.retryPlugin name).1
  | .cancelPlugin name => (manager.cancelPlugin name).1

/-- The manager after a sequence of calls. -/
def after (manager : PluginManager) (calls : List Call) : PluginManager :=
  calls.foldl apply manager

section Shutdown

variable (manager : PluginManager) {cell : Nat}

theorem after_append (earlier later : List Call) :
    manager.after (earlier ++ later) = (manager.after earlier).after later :=
  List.foldl_append

/-- The names stay as they are. -/
theorem plugins_apply (call : Call) :
    (manager.apply call).plugins = manager.plugins := by
  cases call with
  | startAll => exact (forAll_spec settles_start manager).1
  | pauseAll => exact (forAll_spec settles_pause manager).1
  | resumeAll => exact (forAll_spec settles_resume manager).1
  | retryPlugin name =>
      exact (forOne_spec manager name PluginKind.supports_retry).1
  | cancelPlugin name =>
      exact (forOne_spec manager name PluginKind.supports_cancel).1

theorem plugins_after (calls : List Call) :
    (manager.after calls).plugins = manager.plugins := by
  induction calls generalizing manager with
  | nil => rfl
  | cons call calls ih =>
      exact (ih (manager.apply call)).trans (manager.plugins_apply call)

theorem holds_after (calls : List Call) (cell : Nat) :
    (manager.after calls).Holds cell ↔ manager.Holds cell := by
  rw [Holds, Holds, plugins_after]

theorem stateOf_retryPlugin (name : String) (cell : Nat) :
    (manager.apply (.retryPlugin name)).stateOf cell = manager.stateOf cell := by
  have same : ∀ state, (PluginMethod.retry state).1 = state := by
    intro state
    unfold PluginMethod.retry
    split <;> rfl
  have retried := (@forOne_spec .retry "retry not supported by this plugin"
    .retry manager name PluginKind.supports_retry).2 cell
  rw [same, ite_self] at retried
  exact retried

theorem stateOf_cancelPlugin (name : String) (cell : Nat) :
    (manager.apply (.cancelPlugin name)).stateOf cell =
      if manager.plugins.lookup name = some cell then .loaded
      else manager.stateOf cell :=
  (@forOne_spec .cancel "cancel not supported by this plugin" .cancel manager
    name PluginKind.supports_cancel).2 cell

/-- Pausing and resuming are for plugins that have been started. -/
theorem stateOf_apply_of_idle (held : manager.Holds cell)
    (idle : manager.stateOf cell = .shutdown ∨ manager.stateOf cell = .loaded)
    {call : Call} (pauses : call = .pauseAll ∨ call = .resumeAll) :
    (manager.apply call).stateOf cell = manager.stateOf cell := by
  rcases pauses with rfl | rfl
  · change (manager.pauseAll.1.cells cell).state = _
    rw [manager.cells_pauseAll held]
    rcases idle with state | state <;> rw [state] <;> rfl
  · change manager.resumeAll.1.stateOf cell = _
    rw [manager.stateOf_resumeAll held]
    rcases idle with state | state <;> rw [state] <;> exact ite_self _

/-- A plugin that the manager holds has been cancelled. -/
def Cancelled (manager : PluginManager) (calls : List Call) : Prop :=
  ∃ name, .cancelPlugin name ∈ calls ∧ (manager.plugins.lookup name).isSome

/-- A plugin that the manager holds is cancelled, and all plugins are started
later. -/
def StartsCancelled (manager : PluginManager) (calls : List Call) : Prop :=
  ∃ earlier name later, calls = earlier ++ .cancelPlugin name :: later ∧
    (manager.plugins.lookup name).isSome ∧ .startAll ∈ later

/-- After the shutdown no plugin runs at any point of the calls. -/
def StaysDown (manager : PluginManager) (calls : List Call) : Prop :=
  ∀ earlier later, calls = earlier ++ later → ∀ cell, manager.Holds cell →
    (manager.shutdownAll.1.after earlier).stateOf cell ≠ .running

variable {manager}

/-- A plugin is as the shutdown left it, or loaded by a cancellation. -/
theorem stateOf_of_not_startsCancelled {calls earlier later : List Call}
    (split : calls = earlier ++ later)
    (never : ¬ manager.StartsCancelled calls) (held : manager.Holds cell) :
    (manager.shutdownAll.1.after earlier).stateOf cell = .shutdown ∨
      (manager.shutdownAll.1.after earlier).stateOf cell = .loaded ∧
        manager.Cancelled earlier := by
  have names : manager.shutdownAll.1.plugins = manager.plugins :=
    (forAll_spec settles_shutdown manager).1
  induction earlier using List.reverseRecOn generalizing later with
  | nil => exact .inl (manager.stateOf_shutdownAll held)
  | append_singleton earlier call ih =>
      have before := @ih (call :: later) (by simp [split])
      have heldBefore : (manager.shutdownAll.1.after earlier).Holds cell := by
        rw [holds_after, Holds, names]
        exact held
      have idle := before.imp_right And.left
      have grows : manager.Cancelled earlier →
          manager.Cancelled (earlier ++ [call]) := by
        rintro ⟨name, member, known⟩
        exact ⟨name, List.mem_append_left _ member, known⟩
      rw [after_append]
      change ((manager.shutdownAll.1.after earlier).apply call).stateOf cell = _ ∨
        ((manager.shutdownAll.1.after earlier).apply call).stateOf cell = _ ∧ _
      cases call with
      | startAll =>
          change (manager.shutdownAll.1.after earlier).startAll.1.stateOf cell = _ ∨
            (manager.shutdownAll.1.after earlier).startAll.1.stateOf cell = _ ∧ _
          rcases before with down | ⟨_, name, member, known⟩
          · rw [stateOf_startAll _ heldBefore, down]
            exact .inl rfl
          · obtain ⟨first, second, rfl⟩ := List.append_of_mem member
            refine absurd ⟨first, name, second ++ .startAll :: later, ?_, known,
              by simp⟩ never
            simp [split]
      | pauseAll =>
          rw [stateOf_apply_of_idle _ heldBefore idle (.inl rfl)]
          exact before.imp_right (And.imp_right grows)
      | resumeAll =>
          rw [stateOf_apply_of_idle _ heldBefore idle (.inr rfl)]
          exact before.imp_right (And.imp_right grows)
      | retryPlugin name =>
          rw [stateOf_retryPlugin]
          exact before.imp_right (And.imp_right grows)
      | cancelPlugin name =>
          rw [stateOf_cancelPlugin, plugins_after, names]
          split
          · next known =>
              exact .inr ⟨rfl, name, by simp, by rw [known]; rfl⟩
          · exact before.imp_right (And.imp_right grows)

/-- A loaded plugin stays loaded until all plugins are started. -/
theorem stateOf_after_of_loaded {calls : List Call} (held : manager.Holds cell)
    (loaded : manager.stateOf cell = .loaded) (noStart : .startAll ∉ calls) :
    (manager.after calls).stateOf cell = .loaded := by
  induction calls generalizing manager with
  | nil => exact loaded
  | cons call calls ih =>
      have stays : (manager.apply call).stateOf cell = .loaded := by
        cases call with
        | startAll => exact absurd List.mem_cons_self noStart
        | pauseAll =>
            rw [stateOf_apply_of_idle _ held (.inr loaded) (.inl rfl), loaded]
        | resumeAll =>
            rw [stateOf_apply_of_idle _ held (.inr loaded) (.inr rfl), loaded]
        | retryPlugin name => rw [stateOf_retryPlugin, loaded]
        | cancelPlugin name => rw [stateOf_cancelPlugin, loaded, ite_self]
      refine ih ?_ stays fun member => noStart (List.mem_cons_of_mem _ member)
      rw [Holds, plugins_apply]
      exact held

/-- After a shutdown nothing runs exactly when no start of all plugins comes
after the cancellation of a plugin. -/
theorem staysDown_iff (manager : PluginManager) (calls : List Call) :
    manager.StaysDown calls ↔ ¬ manager.StartsCancelled calls := by
  have names : manager.shutdownAll.1.plugins = manager.plugins :=
    (forAll_spec settles_shutdown manager).1
  constructor
  · rintro stays ⟨earlier, name, later, split, known, starts⟩
    obtain ⟨waiting, rest, rfl, noStart⟩ := List.eq_append_cons_of_mem starts
    obtain ⟨cell, found⟩ := Option.isSome_iff_exists.mp known
    let before := manager.shutdownAll.1.after earlier
    have loaded : (before.apply (.cancelPlugin name)).stateOf cell = .loaded := by
      rw [stateOf_cancelPlugin, plugins_after, names, if_pos found]
    have held : (before.apply (.cancelPlugin name)).Holds cell := by
      rw [Holds, plugins_apply, plugins_after, names]
      exact ⟨name, found⟩
    have waits := stateOf_after_of_loaded held loaded noStart
    have heldWaiting := (holds_after _ waiting cell).mpr held
    have running := stateOf_startAll _ heldWaiting
    rw [waits] at running
    refine stays (earlier ++ .cancelPlugin name :: waiting ++ [.startAll]) rest
      (by simp [split]) cell ⟨name, found⟩ ?_
    rw [after_append, after_append]
    exact running
  · intro never earlier later split cell held
    rcases stateOf_of_not_startsCancelled split never held with
      down | ⟨loaded, _⟩
    · simp [down]
    · simp [loaded]

/-- One cancellation and one start after the shutdown. -/
def restart : List Call := [.cancelPlugin "podman", .startAll]

theorem restart_after_shutdown :
    (podmanRunning.shutdownAll.1.after restart).stateOf 0 = .running ∧
      ¬ podmanRunning.StaysDown restart := by
  have running : (podmanRunning.shutdownAll.1.after restart).stateOf 0 =
      .running := by decide
  exact ⟨running, fun stays =>
    stays restart [] rfl 0 ⟨"podman", by decide⟩ running⟩

end Shutdown

end PluginManager

end PluginLifecycle

end NetGuardian
