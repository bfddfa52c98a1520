import NetGuardian.PluginLifecycle
import NetGuardian.Segments

/-!
# Two ways to build a command line

`execute_next` starts the program that has the *name* of the job's plugin, with
the command and the arguments of the job.  The plugin itself, in
`CliPlugin::run`, starts its *binary*, with its default arguments in front.
-/

namespace NetGuardian

/-- What a child process is started with. -/
structure Command where
  binary : String
  args : List String
deriving DecidableEq

namespace ManagedProcess

/-- What the process has been started with. -/
def command (process : ManagedProcess) : Command :=
  ⟨process.binary, process.args⟩

end ManagedProcess

namespace PluginLifecycle

namespace PluginKind

def binary : PluginKind → String
  | git => "git"
  | curl => "curl"
  | wget => "wget"
  | podman => "podman"
  | community manifest => manifest.binary

/-- `default_args` of the trait, which a community plugin leaves empty. -/
def defaultArgs : PluginKind → List String
  | git | podman => []
  | curl => ["-L", "--connect-timeout", "10"]
  | wget => ["--tries=3", "--timeout=15", "-c"]
  | community _ => []

/-- `CliPlugin::run`, for any `execute_command`.  A community plugin takes the
default arguments of its manifest. -/
def run {Output : Type*} (executeCommand : Command → Nat → Output)
    (kind : PluginKind) (args : List String) (timeout : Nat) : Output :=
  match kind with
  | git | podman => executeCommand ⟨kind.binary, args⟩ timeout
  | curl | wget => executeCommand ⟨kind.binary, kind.defaultArgs ++ args⟩ timeout
  | community manifest =>
      executeCommand ⟨kind.binary, manifest.defaultArgs ++ args⟩ timeout

/-- What `run` passes to `execute_command`. -/
def passes (kind : PluginKind) (args : List String) (timeout : Nat) : Command :=
  kind.run (fun command _ => command) args timeout

/-- The arguments that `run` puts in front of its own. -/
def prepended : PluginKind → List String
  | community manifest => manifest.defaultArgs
  | kind => kind.defaultArgs

theorem passes_eq (kind : PluginKind) (args : List String) (timeout : Nat) :
    kind.passes args timeout = ⟨kind.binary, kind.prepended ++ args⟩ := by
  cases kind <;> rfl

/-- Whatever `execute_command` does, it is given this command. -/
theorem run_eq {Output : Type*} (executeCommand : Command → Nat → Output)
    (kind : PluginKind) (args : List String) (timeout : Nat) :
    kind.run executeCommand args timeout =
      executeCommand (kind.passes args timeout) timeout := by
  cases kind <;> rfl

end PluginKind

end PluginLifecycle

open PluginLifecycle

namespace Job

/-- Every process that `execute_next` starts for the job has the command line
that the plugin would have built. -/
def RunsAs (job : Job) (kind : PluginKind) : Prop :=
  ∀ answer system after process timeout,
    executeStep answer system (.lockPlugins job) =
        some (after, .register job process) →
      process.command = kind.passes (job.command :: job.args) timeout

/-- The command line is the one of the name, without default arguments. -/
theorem spawned_command {answer : Answer} {system after : System} {job : Job}
    {process : ManagedProcess}
    (segment : executeStep answer system (.lockPlugins job) =
      some (after, .register job process)) :
    process.command = ⟨job.plugin, job.command :: job.args⟩ := by
  cases known : system.plugins.has job.plugin with
  | false =>
      rw [lockPlugins_of_unknown known] at segment
      cases segment
  | true =>
      cases started : answer.spawned with
      | error failure =>
          rw [lockPlugins_of_error known started] at segment
          cases segment
      | ok pid =>
          rw [lockPlugins_of_spawned known started] at segment
          cases segment
          rfl

/-- With its plugin known, the job gets a process in some world. -/
theorem exists_spawned (job : Job) :
    ∃ answer system after process,
      executeStep answer system (.lockPlugins job) =
        some (after, .register job process) := by
  have known : (oneJob [job.plugin]).plugins.has job.plugin = true :=
    decide_eq_true List.mem_cons_self
  exact ⟨plainAnswer, oneJob [job.plugin], _, _,
    lockPlugins_of_spawned known rfl⟩

/-- The executor and the plugin agree exactly if the plugin is named like its
binary and has no arguments of its own. -/
theorem runsAs_iff {job : Job} {kind : PluginKind}
    (registered : job.plugin = kind.name) :
    job.RunsAs kind ↔ kind.binary = kind.name ∧ kind.prepended = [] := by
  constructor
  · intro agrees
    obtain ⟨answer, system, after, process, segment⟩ := exists_spawned job
    have same := agrees answer system after process 0 segment
    rw [spawned_command segment, PluginKind.passes_eq, registered,
      Command.mk.injEq] at same
    exact ⟨same.1.symm, List.self_eq_append_left.mp same.2⟩
  · rintro ⟨named, bare⟩ answer system after process timeout segment
    rw [spawned_command segment, PluginKind.passes_eq, registered, named, bare,
      List.nil_append]

/-- The job of a client for a plugin. -/
theorem runsAs_iff_git :
    (clientJob "git").RunsAs .git ↔
      PluginKind.git.binary = PluginKind.git.name ∧
        PluginKind.git.prepended = [] :=
  runsAs_iff rfl

/-- The plugin follows redirects, the executor does not. -/
theorem curl_differs : ¬ (clientJob "curl").RunsAs .curl := by
  intro agrees
  have same := agrees plainAnswer (oneJob ["curl"]) _ _ 0
    (lockPlugins_of_spawned (by decide) rfl)
  have lengths := congrArg (fun command => command.args.length) same
  cases lengths

end Job

end NetGuardian
