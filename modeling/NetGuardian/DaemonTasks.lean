import NetGuardian.ConcurrencyLimit
import NetGuardian.ConnectivityEvents
import NetGuardian.Foundation.SharedLog
import NetGuardian.IpcListener
import NetGuardian.JobEvents

/-!
# The tasks of the daemon

`cmd_daemon` starts the executor's loop, the IPC server and the monitor task, and
gives all of them the same bus.  None of the three knows what the others publish; each
was described so far under an assumption about it.  Here they run together, and the
assumptions are what the others do.  The daemon's own event loop only listens.
-/

namespace NetGuardian

open CooperativeTasks LabelledRun SharedLog

/-- The tasks that publish. -/
inductive DaemonTask where
  | executor
  | ipcServer
  | monitor
deriving DecidableEq

namespace DaemonTask

def State : DaemonTask → Type
  | executor => ExecuteLoop
  | ipcServer => IpcListener
  | monitor => MonitorTask.Staged

def Label : DaemonTask → Type
  | executor => LoopEvent
  | ipcServer => IpcLabel
  | monitor => MonitorTask.StageLabel

/-- The three tasks, as they are spawned.  Each subscribes when it comes to it. -/
def member (system : System) (maxConcurrent : Nat) :
    ∀ task : DaemonTask, Member task.State task.Label NetGuardianEvent
  | executor =>
      { join := fun published =>
          ExecuteLoop.initial { system with bus := ⟨published⟩ } maxConcurrent
        step := LoopEvent.step
        log := ExecuteLoop.sent
        hears := fun event => .loop (.publish event) }
  | ipcServer =>
      { join := fun published => .listen ⟨published⟩
        step := IpcListener.step
        log := fun listener => listener.bus.published
        hears := .publish }
  | monitor =>
      { join := fun published =>
          ⟨{ MonitorTask.start with bus := ⟨published⟩ }, .waiting⟩
        step := MonitorTask.Staged.step
        log := fun staged => staged.task.bus.published
        hears := fun event => .other (.publish event) }

/-- What each task publishes: control requests come from the IPC server, changes of
the connectivity from the monitor task, and neither from the executor. -/
def speaks : DaemonTask → NetGuardianEvent → Prop
  | executor, event => event.isControl = false ∧ event.connectivity = none
  | ipcServer, event => event.isControl = true
  | monitor, event => event.connectivity.isSome = true

end DaemonTask

/-- A control request is no change of the connectivity. -/
theorem NetGuardianEvent.connectivity_of_isControl {event : NetGuardianEvent}
    (control : event.isControl = true) : event.connectivity = none := by
  cases event <;> first | rfl | cases control

section Executor

variable {answer : Answer} {system after : System} {point next : ExecPoint}

/-- What the executor publishes: neither requests nor changes of the connectivity. -/
def Reports (system after : System) : Prop :=
  ∃ events, after.bus.published = system.bus.published ++ events ∧
    ∀ event ∈ events, DaemonTask.speaks .executor event

theorem reports_nothing (silent : after.bus.published = system.bus.published) :
    Reports system after :=
  ⟨[], by rw [silent, List.append_nil], by simp⟩

theorem reports_one (event : NetGuardianEvent)
    (published : after.bus.published = system.bus.published ++ [event])
    (plain : DaemonTask.speaks .executor event) : Reports system after := by
  refine ⟨[event], published, fun other member => ?_⟩
  rw [List.mem_singleton.mp member]
  exact plain

theorem pollStep_reports {job : Job} {process : ManagedProcess} {round : PollRound} :
    Reports system (pollStep answer system job process round).1 := by
  unfold pollStep
  dsimp only
  split
  · exact reports_nothing rfl
  · split
    · split <;> exact reports_nothing rfl
    · split
      · exact reports_one _ rfl ⟨rfl, rfl⟩
      · exact reports_nothing rfl
    · exact reports_nothing rfl

theorem executeStep_reports (free : ¬ SelfBlocked executor (.execute point))
    (segment : executeStep answer system point = some (after, next)) :
    Reports system after := by
  cases point with
  | dequeue =>
      rw [executeStep] at segment
      split at segment
      · cases segment
        exact reports_nothing rfl
      · cases segment
        exact reports_one _ rfl ⟨rfl, rfl⟩
  | lockPlugins job =>
      rw [executeStep] at segment
      split at segment
      · split at segment <;> cases segment <;> exact reports_nothing rfl
      · cases segment
        exact reports_nothing rfl
  | register job process =>
      rw [executeStep] at segment
      split at segment <;> cases segment <;> exact reports_nothing rfl
  | poll job process round =>
      rw [executeStep, Option.some.injEq] at segment
      have polled := @pollStep_reports answer system job process round
      rw [segment] at polled
      exact polled
  | spawnFailed job err | timedOut job | succeeded job | completeDownload job =>
      cases segment
      exact reports_one _ rfl ⟨rfl, rfl⟩
  | failedPlugins job err =>
      exact absurd (selfBlocked_execute_iff.mpr ⟨job, err, rfl⟩) free
  | missing job | waitFailed job | failedDownload job err | track job process
  | updateDownload job process round elapsed | completeQueue job | failed job err
  | failedQueue job err | cleanup job =>
      cases segment
      exact reports_nothing rfl
  | returned job => cases segment

theorem resume_reports {frame following : Frame} (free : ¬ SelfBlocked executor frame)
    (resumption : Frame.resume system frame answer = some (after, following)) :
    Reports system after := by
  cases frame with
  | execute point =>
      obtain ⟨_, rfl, segment⟩ := Frame.resume_execute resumption
      exact executeStep_reports free segment
  | control call point =>
      obtain ⟨_, rfl, segment⟩ := Frame.resume_control resumption
      exact reports_nothing (controlStep_segment segment).published

end Executor

namespace ExecuteLoop

variable {loop next : ExecuteLoop}

/-- The loop publishes what its calls publish. -/
theorem reports_of_step {label : LoopLabel} (own : ∀ event, label ≠ .publish event)
    (taken : loop.step label = some next) : Reports loop.system next.system := by
  cases label with
  | publish event => exact absurd rfl (own event)
  | receive =>
      rcases step_channel taken with ⟨_, same, _⟩ | ⟨grown, _⟩
      · exact reports_nothing same
      · exact reports_nothing (grown.trans (List.append_nil _))
  | timer | count waited =>
      rcases step_channel taken with ⟨_, same, _⟩ | ⟨grown, _⟩
      · exact reports_nothing same
      · exact reports_nothing (grown.trans (List.append_nil _))
  | call answer =>
      cases calls : loop.point with
      | calling frame =>
          simp only [step, calls, Option.map_eq_some_iff] at taken
          obtain ⟨⟨after, moved⟩, stepped, rfl⟩ := taken
          have free : ¬ SelfBlocked executor frame := by
            intro blocked
            rw [callStep, if_pos blocked] at stepped
            cases stepped
          exact resume_reports free (resume_of_callStep stepped)
      | _ => simp [step, calls] at taken

theorem reports_of_event {event : LoopEvent}
    (own : ∀ published, event ≠ .loop (.publish published))
    (taken : event.step loop = some next) : Reports loop.system next.system := by
  cases event with
  | loop label =>
      exact reports_of_step (fun published same => own published (congrArg _ same)) taken
  | signalAll signal plugin killed =>
      cases taken
      exact reports_nothing rfl
  | elsewhere system =>
      cases taken
      exact reports_nothing rfl

end ExecuteLoop

namespace ExecuteLoop

variable {loop next : ExecuteLoop}

/-- The requests that the loop can still receive. -/
def waiting (loop : ExecuteLoop) : List NetGuardianEvent :=
  (Broadcast.unread EventBus.capacity loop.sent loop.receiver).filter
    NetGuardianEvent.isControl

/-- The requests that were pushed out of the channel before the loop came to them. -/
def lost (loop : ExecuteLoop) : List NetGuardianEvent :=
  loop.receiver.overwritten.filter NetGuardianEvent.isControl

/-- The loop has taken up requests in their order, each of them once: all those made
since it subscribed, but for the ones that wait and the ones that are lost. -/
def TakesUp (loop : ExecuteLoop) (requests : List NetGuardianEvent) : Prop :=
  ∃ earlier since, requests = earlier ++ since ∧
    (loop.passed ++ loop.waiting).Sublist since ∧
    loop.passed.length + loop.lost.length + loop.waiting.length = since.length

theorem Sound.takesUp (sound : loop.Sound) :
    loop.TakesUp (loop.sent.filter NetGuardianEvent.isControl) := by
  refine ⟨(loop.sent.take loop.receiver.subscribedAt).filter NetGuardianEvent.isControl,
    (loop.sent.drop loop.receiver.subscribedAt).filter NetGuardianEvent.isControl,
    ?_, ?_, ?_⟩
  · rw [← List.filter_append, List.take_append_drop]
  · have ordered := sound.accounted.ordered.filter NetGuardianEvent.isControl
    rw [List.filter_append, ← sound.passed] at ordered
    exact ordered
  · have counted := sound.accounted.counted NetGuardianEvent.isControl
    simp only [List.countP_eq_length_filter, ← sound.passed] at counted
    exact counted

theorem Sound.event {event : LoopEvent} (sound : loop.Sound)
    (taken : event.step loop = some next) : next.Sound := by
  cases event with
  | loop label => exact sound_step sound taken
  | signalAll signal plugin killed =>
      cases taken
      exact ⟨sound.accounted, sound.passed⟩
  | elsewhere system =>
      cases taken
      exact ⟨sound.accounted, sound.passed⟩

end ExecuteLoop

namespace MonitorTask.Staged

/-- Where no change of the connectivity has been published yet, the task may start. -/
theorem consistent_join {published : List NetGuardianEvent}
    (silent : published.filterMap NetGuardianEvent.connectivity = []) :
    Consistent ⟨{ MonitorTask.start with bus := ⟨published⟩ }, .waiting⟩ := by
  have nothing : Staged.published
      ⟨{ MonitorTask.start with bus := ⟨published⟩ }, .waiting⟩ =
        Staged.published start := silent
  obtain ⟨alternating, remembered, flag, sessions, reconnects⟩ := consistent_start
  have followed : Staged.followed
      ⟨{ MonitorTask.start with bus := ⟨published⟩ }, .waiting⟩ =
        Staged.followed start := congrArg (· ++ []) nothing
  refine ⟨?_, ?_, ?_, ?_, ?_⟩
  · rw [nothing]
    exact alternating
  · rw [nothing]
    exact remembered
  · rw [followed]
    exact flag
  · rw [nothing]
    exact sessions
  · rw [nothing]
    exact reconnects

/-- What the task publishes is the change that it has found. -/
theorem publishes_of_step {staged next : Staged} {label : StageLabel}
    (own : ∀ event, label ≠ .other (.publish event))
    (taken : staged.step label = some next) :
    ∃ events, next.task.bus.published = staged.task.bus.published ++ events ∧
      ∀ event ∈ events, DaemonTask.speaks .monitor event := by
  have silently : next.task.bus = staged.task.bus →
      ∃ events, next.task.bus.published = staged.task.bus.published ++ events ∧
        ∀ event ∈ events, DaemonTask.speaks .monitor event := fun same =>
    ⟨[], by rw [same, List.append_nil], by simp⟩
  obtain ⟨task, stage⟩ := staged
  cases label with
  | other event =>
      simp only [Staged.step, Option.ite_none_right_eq_some, Option.some.injEq] at taken
      obtain ⟨others, rfl⟩ := taken
      cases event with
      | publish event => exact absurd rfl (own event)
      | poll poll => cases others
      | recordOperation | recordRetry | snapshot => exact silently rfl
  | poll poll =>
      cases stage with
      | waiting =>
          cases taken
          exact silently rfl
      | comparing | recording | publishing | evaluating => cases taken
  | compare =>
      cases stage with
      | comparing poll =>
          cases taken
          refine silently ?_
          unfold Staged.compare
          split
          · rfl
          · split <;> rfl
      | waiting | recording | publishing | evaluating => cases taken
  | record =>
      cases stage with
      | recording poll done =>
          cases taken
          refine silently ?_
          unfold Staged.record
          split <;> rfl
      | waiting | comparing | publishing | evaluating => cases taken
  | publish =>
      cases stage with
      | publishing poll =>
          cases taken
          refine ⟨[changeEvent poll], rfl, fun event member => ?_⟩
          rw [List.mem_singleton.mp member, DaemonTask.speaks, connectivity_changeEvent]
          rfl
      | waiting | comparing | recording | evaluating => cases taken
  | finish =>
      cases stage with
      | evaluating poll =>
          cases taken
          exact silently rfl
      | waiting | comparing | recording | publishing => cases taken

end MonitorTask.Staged

namespace IpcListener

/-- What the server publishes is what is asked for. -/
theorem publishes_of_step {listener next : IpcListener} {label : IpcLabel}
    (own : ∀ event, label ≠ .publish event) (taken : listener.step label = some next) :
    ∃ events, next.bus.published = listener.bus.published ++ events ∧
      ∀ event ∈ events, DaemonTask.speaks .ipcServer event := by
  have silently : next.bus = listener.bus →
      ∃ events, next.bus.published = listener.bus.published ++ events ∧
        ∀ event ∈ events, DaemonTask.speaks .ipcServer event := fun same =>
    ⟨[], by rw [same, List.append_nil], by simp⟩
  cases label with
  | publish event => exact absurd rfl (own event)
  | accept =>
      cases step_accept taken
      exact silently rfl
  | acceptFails =>
      cases step_acceptFails taken
      exact silently rfl
  | receive =>
      obtain ⟨receiver, rfl | rfl⟩ := step_receive taken
      · exact silently rfl
      · exact silently rfl
  | write index bytes | hangUp index | readFails index =>
      obtain ⟨_, _, _, _, rfl⟩ := update_eq_some taken
      exact silently rfl
  | serve index sources panics =>
      obtain ⟨_, _, requests, _, _, rfl⟩ := step_serve taken
      refine ⟨_, rfl, fun event member => ?_⟩
      obtain ⟨request, _, here⟩ := List.mem_flatMap.mp member
      exact IpcServer.isControl_of_mem_dispatch here

end IpcListener

namespace DaemonTask

section Lawful

variable {event : NetGuardianEvent}

theorem others_ipcServer (others : Others speaks ipcServer event) :
    event.isControl = false := by
  obtain ⟨other, different, speaking⟩ := others
  cases other with
  | executor => exact speaking.1
  | ipcServer => exact absurd rfl different
  | monitor =>
      by_contra control
      rw [Bool.not_eq_false] at control
      rw [speaks, NetGuardianEvent.connectivity_of_isControl control] at speaking
      cases speaking

theorem others_monitor (others : Others speaks monitor event) :
    event.connectivity = none := by
  obtain ⟨other, different, speaking⟩ := others
  cases other with
  | executor => exact speaking.2
  | ipcServer => exact NetGuardianEvent.connectivity_of_isControl speaking
  | monitor => exact absurd rfl different

theorem lawful (system : System) (maxConcurrent : Nat) :
    Lawful (member system maxConcurrent) speaks where
  joins task published := by cases task <;> rfl
  distinct task := by
    intro first second same
    cases task <;> cases same <;> rfl
  hears task state event others := by
    cases task with
    | executor | ipcServer => exact ⟨_, rfl, rfl⟩
    | monitor =>
        refine ⟨_, if_pos ?_, rfl⟩
        change event.connectivity.isNone = true
        rw [others_monitor others]
        rfl
  tells task state label next own taken := by
    cases task with
    | executor => exact ExecuteLoop.reports_of_event own taken
    | ipcServer => exact IpcListener.publishes_of_step own taken
    | monitor => exact MonitorTask.Staged.publishes_of_step own taken

end Lawful

/-- The three tasks on their bus. -/
abbrev Daemon := Gathering State NetGuardianEvent

abbrev Daemon.Event := Move Label

/-- The requests that clients have made, in the order they were served. -/
def Daemon.asked (daemon : Daemon) : List NetGuardianEvent :=
  match daemon.joined ipcServer with
  | none => []
  | some listener => IpcListener.asked listener

/-- A run of the daemon: the tasks start in any order, at any time. -/
abbrev Runs (system : System) (maxConcurrent : Nat) (moves : List Daemon.Event)
    (daemon : Daemon) : Prop :=
  Guarded (SharedLog.step (member system maxConcurrent))
    (Internal (member system maxConcurrent)) SharedLog.empty moves daemon

section Runs

variable {system : System} {maxConcurrent : Nat} {moves : List Daemon.Event}
variable {daemon : Daemon}

theorem serving_of_runs (run : Runs system maxConcurrent moves daemon)
    {listener : IpcListener} (here : daemon.joined ipcServer = some listener) :
    listener.bus.published = daemon.log ∧ ∃ bus : EventBus,
      bus.published.filter NetGuardianEvent.isControl = [] ∧ listener.Serving bus := by
  obtain ⟨same, before, labels, silent, own⟩ :=
    (known_run (lawful system maxConcurrent) run ipcServer).present listener here
  refine ⟨same, ⟨before⟩, ?_, ?_⟩
  · refine List.filter_eq_nil_iff.mpr fun event published => ?_
    rw [others_ipcServer (silent event published)]
    exact Bool.false_ne_true
  · have reporting : Guarded IpcListener.step IpcListener.OthersReport (.listen ⟨before⟩)
        labels listener := by
      refine own.strengthen (fun _ => True) (fun _ => trivial) fun _ label _ attentive => ?_
      cases label with
      | publish event => exact others_ipcServer (attentive event rfl)
      | _ => trivial
    exact IpcListener.serving_run reporting

/-- The requests on the bus are the ones that clients have made. -/
theorem control_of_runs (run : Runs system maxConcurrent moves daemon) :
    daemon.log.filter NetGuardianEvent.isControl = daemon.asked := by
  unfold Daemon.asked
  split
  · next absent =>
      refine List.filter_eq_nil_iff.mpr fun event published => ?_
      have others := (known_run (lawful system maxConcurrent) run ipcServer).absent
        absent event published
      rw [others_ipcServer others]
      exact Bool.false_ne_true
  · next listener here =>
      obtain ⟨same, bus, silent, serving⟩ := serving_of_runs run here
      rw [← same, serving.control, silent, List.nil_append]

theorem sound_of_runs (run : Runs system maxConcurrent moves daemon)
    {loop : ExecuteLoop} (here : daemon.joined executor = some loop) :
    loop.sent = daemon.log ∧ loop.Sound := by
  obtain ⟨same, before, labels, _, own⟩ :=
    (known_run (lawful system maxConcurrent) run executor).present loop here
  exact ⟨same, own.invariant ExecuteLoop.Sound (ExecuteLoop.sound_initial _ _)
    fun _ _ _ sound _ taken => sound.event taken⟩

theorem consistent_of_runs (run : Runs system maxConcurrent moves daemon)
    {staged : MonitorTask.Staged} (here : daemon.joined monitor = some staged) :
    staged.task.bus.published = daemon.log ∧ staged.Consistent := by
  obtain ⟨same, before, labels, silent, own⟩ :=
    (known_run (lawful system maxConcurrent) run monitor).present staged here
  refine ⟨same, own.invariant MonitorTask.Staged.Consistent
    (MonitorTask.Staged.consistent_join ?_) fun _ _ _ consistent _ taken =>
      consistent.step taken⟩
  exact List.filterMap_eq_nil_iff.mpr fun event published =>
    others_monitor (silent event published)

/-- The changes of the connectivity on the bus alternate, beginning with a loss. -/
theorem alternating_of_runs (run : Runs system maxConcurrent moves daemon) :
    MonitorTask.Alternating (daemon.log.filterMap NetGuardianEvent.connectivity) := by
  cases here : daemon.joined monitor with
  | none =>
      have silent := (known_run (lawful system maxConcurrent) run monitor).absent here
      rw [List.filterMap_eq_nil_iff.mpr fun event published =>
        others_monitor (silent event published)]
      exact ⟨.nil, by simp⟩
  | some staged =>
      obtain ⟨same, consistent⟩ := consistent_of_runs run here
      rw [← same]
      exact consistent.alternating.of_append

end Runs

/-- In every run of the three tasks on their bus, in any interleaving and whatever the
clients, the network and the processes do: the requests on the bus are those that
clients have made over the socket, and every client has been answered in order, up to
a line that its connection did not survive; the executor takes up each request that was
made since it subscribed once and in order, unless it waits or is lost; and the changes
of the connectivity alternate. -/
theorem requests_reach_executor (system : System) (maxConcurrent : Nat)
    {moves : List Daemon.Event} {daemon : Daemon}
    (run : Runs system maxConcurrent moves daemon) :
    daemon.log.filter NetGuardianEvent.isControl = daemon.asked ∧
      (∀ listener : IpcListener, daemon.joined ipcServer = some listener →
        ∀ (index : Nat) (connection : IpcConnection),
          listener.connections[index]? = some connection →
            connection.Answered (listener.requestsOf index)) ∧
      (∀ loop : ExecuteLoop, daemon.joined executor = some loop →
        loop.TakesUp daemon.asked) ∧
      MonitorTask.Alternating (daemon.log.filterMap NetGuardianEvent.connectivity) := by
  refine ⟨control_of_runs run, ?_, ?_, alternating_of_runs run⟩
  · intro listener here index connection found
    obtain ⟨_, _, _, serving⟩ := serving_of_runs run here
    exact (serving.progress index connection found).answered
  · intro loop here
    obtain ⟨same, sound⟩ := sound_of_runs run here
    rw [← control_of_runs run, ← same]
    exact sound.takesUp

/-- An outage, and a client that asks to cancel a job: `cancel_job 7`. -/
def cancelDuringOutage : List Daemon.Event :=
  [.join executor, .join monitor, .act monitor (.poll MonitorTask.Staged.down),
    .act monitor .compare, .act monitor .record, .act monitor .publish, .join ipcServer,
    .act ipcServer .accept,
    .act ipcServer (.write 0 [99, 97, 110, 99, 101, 108, 95, 106, 111, 98, 32, 55, 10]),
    .act ipcServer (.serve 0 IpcServer.silentSources IpcServer.noPanics),
    .act executor (.loop .receive), .act executor (.loop .receive)]

theorem requests_reach_executor_cancel :
    ∃ daemon : Daemon, Runs (oneJob ["tool"]) 3 cancelDuringOutage daemon ∧
      daemon.log = [.internetLost, .jobControlCancel 7] ∧
      daemon.log.filter NetGuardianEvent.isControl = daemon.asked ∧
      (∀ listener : IpcListener, daemon.joined ipcServer = some listener →
        ∀ (index : Nat) (connection : IpcConnection),
          listener.connections[index]? = some connection →
            connection.Answered (listener.requestsOf index)) ∧
      (∀ loop : ExecuteLoop, daemon.joined executor = some loop →
        loop.TakesUp daemon.asked) ∧
      MonitorTask.Alternating (daemon.log.filterMap NetGuardianEvent.connectivity) := by
  have computed : Run (SharedLog.step (member (oneJob ["tool"]) 3)) SharedLog.empty
      cancelDuringOutage _ := run_of_exec_eq rfl
  have run : Runs (oneJob ["tool"]) 3 cancelDuringOutage _ :=
    guarded_of_forall computed fun move member _ => by
      simp only [cancelDuringOutage, List.mem_cons, List.not_mem_nil, or_false] at member
      rcases member with rfl | rfl | rfl | rfl | rfl | rfl | rfl | rfl | rfl | rfl | rfl | rfl
      all_goals first | trivial | exact fun _ same => by cases same
  exact ⟨_, run, rfl, requests_reach_executor _ _ run⟩

end DaemonTask

end NetGuardian
