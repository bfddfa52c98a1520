import NetGuardian.SelfDeadlock

/-!
# What a call accounts for

Every started job should end in one outcome event and in one operation record.
Both can be counted from outside: the bus only grows, and the two counters of
the metrics add up to the number of records.  Each await point of
`execute_next` contributes a fixed number to either count, so what a call
accounts for depends on the path it takes only.
-/

namespace NetGuardian

open CooperativeTasks

/-- The event tells how the job with an id has ended. -/
def NetGuardianEvent.isOutcomeOf (id : Nat) : NetGuardianEvent → Bool
  | .jobCompleted payload | .jobFailed payload => decide (payload.jobId = id)
  | _ => false

def EventBus.outcomesOf (bus : EventBus) (id : Nat) : Nat :=
  bus.published.countP (·.isOutcomeOf id)

namespace MetricsEngine

/-- The number of recorded operations, as far as the counters can tell. -/
def operationCount (metrics : MetricsEngine) : Nat :=
  (metrics.successOps + metrics.failedOps) % 2 ^ 64

@[simp]
theorem operationCount_recordOperation (metrics : MetricsEngine) (now : Nat)
    (plugin description : String) (success : Bool) (retries : Nat) :
    (metrics.recordOperation now plugin description success retries
      ).operationCount = (metrics.operationCount + 1) % 2 ^ 64 := by
  cases success with
  | false =>
      simp only [operationCount, recordOperation, addU64, Bool.false_eq_true,
        if_false]
      omega
  | true =>
      simp only [operationCount, recordOperation, addU64, if_true]
      omega

theorem operationCount_mod (metrics : MetricsEngine) :
    metrics.operationCount % 2 ^ 64 = metrics.operationCount :=
  Nat.mod_mod _ _

end MetricsEngine

namespace RetryOrchestrator

/-- Each exit of `handle_failure` publishes the failure of the job, except the
one that grants a retry. -/
theorem handleFailure_outcomes (orchestrator : RetryOrchestrator)
    (readings : FailureReadings) (job : Job) (error : String) :
    (orchestrator.handleFailure readings job error).published.countP
        (·.isOutcomeOf job.id) =
      if (orchestrator.handleFailure readings job error).job.status = .pending
        then 0 else 1 := by
  simp only [handleFailure]
  split
  · simp [NetGuardianEvent.isOutcomeOf, Job.eventPayload]
  · split
    · simp [NetGuardianEvent.isOutcomeOf, Job.eventPayload]
    · simp [NetGuardianEvent.isOutcomeOf]

theorem handleSuccess_outcomes (orchestrator : RetryOrchestrator) (job : Job)
    (stamp : Nat) :
    (orchestrator.handleSuccess job stamp).published.countP
      (·.isOutcomeOf job.id) = 1 := by
  simp [handleSuccess, NetGuardianEvent.isOutcomeOf, Job.eventPayload]

end RetryOrchestrator

/-- Between two states, so many outcomes of a job were published, and so many
operations recorded. -/
structure Ledger (id : Nat) (system after : System)
    (outcomes operations : Nat) : Prop where
  published :
    after.bus.outcomesOf id = system.bus.outcomesOf id + outcomes
  recorded : after.metrics.operationCount =
    (system.metrics.operationCount + operations) % 2 ^ 64

namespace Ledger

variable {id : Nat} {system between after : System}
variable {outcomes operations more moreOperations : Nat}

/-- A segment that publishes something, but no outcome. -/
theorem of_events {events : List NetGuardianEvent}
    (published : after.bus.published = system.bus.published ++ events)
    (noOutcome : events.countP (·.isOutcomeOf id) = outcomes)
    (same : after.metrics = system.metrics) :
    Ledger id system after outcomes 0 where
  published := by
    rw [EventBus.outcomesOf, published, List.countP_append, noOutcome,
      EventBus.outcomesOf]
  recorded := by
    rw [same, Nat.add_zero, MetricsEngine.operationCount_mod]

theorem refl (system : System) : Ledger id system system 0 0 :=
  of_events (List.append_nil _).symm rfl rfl

theorem trans (first : Ledger id system between outcomes operations)
    (second : Ledger id between after more moreOperations) :
    Ledger id system after (outcomes + more) (operations + moreOperations) where
  published := by
    rw [second.published, first.published, Nat.add_assoc]
  recorded := by
    rw [second.recorded, first.recorded]
    omega

/-- The counts are determined by the two states, within a round of the
counters. -/
theorem unique (one : Ledger id system after outcomes operations)
    (other : Ledger id system after more moreOperations)
    (small : operations < 2 ^ 64) (alsoSmall : moreOperations < 2 ^ 64) :
    outcomes = more ∧ operations = moreOperations := by
  have published := one.published.symm.trans other.published
  have recorded := one.recorded.symm.trans other.recorded
  constructor
  · omega
  · omega

end Ledger

namespace ExecPoint

/-- The outcomes that the segment from an await point publishes for its job.
What the failure branch publishes is for the orchestrator to decide. -/
def outcomes : ExecPoint → Nat
  | spawnFailed _ _ | timedOut _ | succeeded _ => 1
  | _ => 0

/-- The operations that the segment from an await point records. -/
def operations : ExecPoint → Nat
  | spawnFailed _ _ | timedOut _ | completeDownload _ | failedDownload _ _
  | waitFailed _ => 1
  | _ => 0

end ExecPoint

section Segment

variable {answer : Answer} {system after : System} {point next : ExecPoint}

/-- A segment that records one operation of a job. -/
theorem Ledger.of_record {id outcomes : Nat} {events : List NetGuardianEvent}
    (now : Nat) (job : Job) (success : Bool)
    (published : after.bus.published = system.bus.published ++ events)
    (counted : events.countP (·.isOutcomeOf id) = outcomes)
    (recorded : after.metrics.operationCount =
      (system.recordOperation now job success).metrics.operationCount) :
    Ledger id system after outcomes 1 where
  published := by
    rw [EventBus.outcomesOf, published, List.countP_append, counted,
      EventBus.outcomesOf]
  recorded :=
    recorded.trans (MetricsEngine.operationCount_recordOperation ..)

theorem pollStep_ledger {job : Job} {process : ManagedProcess}
    {round : PollRound} (id : Nat) :
    Ledger id system (pollStep answer system job process round).1 0 0 := by
  unfold pollStep
  dsimp only
  split
  · exact .of_events (List.append_nil _).symm rfl rfl
  · split
    · split
      · exact .of_events (List.append_nil _).symm rfl rfl
      · exact .of_events (List.append_nil _).symm rfl rfl
    · split
      · exact .of_events rfl rfl rfl
      · exact .refl system
    · exact .refl system

/-- What a segment of the call of a job accounts for. -/
theorem executeStep_ledger {job : Job}
    (segment : executeStep answer system point = some (after, next))
    (working : point.job? = some job)
    (free : ∀ job err, point ≠ .failedPlugins job err) :
    Ledger job.id system after point.outcomes point.operations := by
  cases point with
  | dequeue => cases working
  | lockPlugins running =>
      rw [executeStep] at segment
      split at segment
      · split at segment
        · cases segment
          exact .refl system
        · cases segment
          exact .of_events (List.append_nil _).symm rfl rfl
      · cases segment
        exact .refl system
  | register running process =>
      rw [executeStep] at segment
      split at segment
      · cases segment
        exact .of_events (List.append_nil _).symm rfl rfl
      · cases segment
        exact .of_events (List.append_nil _).symm rfl rfl
  | poll running process round =>
      rw [executeStep, Option.some.injEq] at segment
      have polled := @pollStep_ledger answer system running process round job.id
      rw [segment] at polled
      exact polled
  | spawnFailed running err | timedOut running =>
      cases segment
      cases working
      exact .of_record answer.now job false rfl
        (by simp [NetGuardianEvent.isOutcomeOf, Job.eventPayload,
          ExecPoint.outcomes]) rfl
  | succeeded running =>
      cases segment
      cases working
      exact .of_events rfl
        (system.orchestrator.handleSuccess_outcomes job answer.stamp) rfl
  | completeDownload running =>
      cases segment
      exact .of_record answer.now running true rfl rfl rfl
  | failedDownload running err | waitFailed running =>
      cases segment
      exact .of_record answer.now running false (List.append_nil _).symm rfl rfl
  | failedPlugins running err => exact absurd rfl (free running err)
  | returned job => cases segment
  | missing running | completeQueue running | failedQueue running err
  | track running process | updateDownload running process round elapsed
  | failed running err | cleanup running =>
      cases segment
      exact .of_events (List.append_nil _).symm rfl rfl

end Segment

/-- The call gets to a state, and has accounted for its job so far. -/
structure Accounts (work : Work) (system : System) (id outcomes operations : Nat)
    (after : System) (point : ExecPoint) : Prop where
  reached : Reaches work system after point
  working : ∃ job, point.job? = some job ∧ job.id = id
  ledger : Ledger id system after outcomes operations

section Accounts

variable {work : Work} {system current after : System}
variable {point next : ExecPoint} {id outcomes operations : Nat}

/-- A segment that works on a job goes on working on it. -/
theorem executeStep_working {answer : Answer}
    (segment : executeStep answer current point = some (after, next))
    (working : ∃ job, point.job? = some job ∧ job.id = id) :
    ∃ job, next.job? = some job ∧ job.id = id := by
  obtain ⟨job, works, sameId⟩ := working
  rcases (executeStep_segment segment).ids with
    ⟨rfl, _⟩ | ⟨before, following, worked, goesOn, kept, _⟩
  · cases works
  · rw [works] at worked
    cases worked
    exact ⟨following, goesOn, kept.trans sameId⟩

/-- One more segment. -/
theorem Accounts.step
    (here : Accounts work system id outcomes operations current point)
    (free : ∀ job err, point ≠ .failedPlugins job err)
    (segment : executeStep (work.answers (.execute point)) current point =
      some (after, next)) :
    Accounts work system id (outcomes + point.outcomes)
      (operations + point.operations) after next where
  reached := here.reached.step free segment
  working := executeStep_working segment here.working
  ledger := by
    obtain ⟨job, works, rfl⟩ := here.working
    exact here.ledger.trans (executeStep_ledger segment works free)

/-- One more round of the loop. -/
theorem Accounts.poll {job : Job} {process : ManagedProcess}
    {round : PollRound}
    (here : Accounts work system id outcomes operations current
      (.poll job process round))
    (leads : (pollStep (work.answers (.execute (.poll job process round)))
      current job process round).2 = next) :
    ∃ after, Accounts work system id outcomes operations after next :=
  ⟨_, leads ▸ here.step (by simp) rfl⟩

/-- The rounds of the loop account for nothing. -/
theorem Accounts.loop {job : Job} {process : ManagedProcess} {ending : Ending}
    (here : Accounts work system id outcomes operations current
      (.poll job process (.begin work.startAt)))
    (ends : work.Ends ending) :
    ∃ after polled, Accounts work system id outcomes operations after
      (ending.exit polled) := by
  have kept : ∀ {answer before point after next},
      executeStep answer before point = some (after, next) →
        point.InLoop → next.InLoop →
          ((∃ job, point.job? = some job ∧ job.id = id) ∧
            Ledger id system before outcomes operations) →
          (∃ job, next.job? = some job ∧ job.id = id) ∧
            Ledger id system after outcomes operations := by
    rintro answer before point after next segment inLoop - ⟨working, ledger⟩
    refine ⟨executeStep_working segment working, ?_⟩
    obtain ⟨polled, works, rfl⟩ := working
    cases point with
    | poll | updateDownload =>
        exact ledger.trans (executeStep_ledger segment works (by simp))
    | _ => exact inLoop.elim
  obtain ⟨before, polled, round, reached, ⟨working, ledger⟩, leads⟩ :=
    reaches_last_round kept here.reached ⟨here.working, here.ledger⟩ ends
  have atRound : Accounts work system id outcomes operations before
      (.poll polled process round) := ⟨reached, working, ledger⟩
  obtain ⟨after, polling⟩ := atRound.poll leads
  exact ⟨after, polled, polling⟩

/-- A started process that ends in time with code zero, or not at all, is
accounted for. -/
theorem Accounts.settled {job : Job} {process : ManagedProcess} {ending : Ending}
    (here : Accounts work system id 0 0 current
      (.poll job process (.begin work.startAt)))
    (ends : work.Ends ending)
    (settles : ending = .timedOut ∨ ending = .exited 0) :
    ∃ after left, left.status ≠ .pending ∧
      Accounts work system id 1 1 after (.returned (some left)) := by
  obtain ⟨after, polled, leaving⟩ := here.loop ends
  rcases settles with rfl | rfl
  · have cleanup := leaving.step (by simp [Ending.exit]) rfl
    exact ⟨_, _, by simp, cleanup.step (by simp) rfl⟩
  · have queued := leaving.step (by simp [Ending.exit]) rfl
    have downloaded := queued.step (by simp) rfl
    have cleanup := downloaded.step (by simp) rfl
    exact ⟨_, _, by simp [RetryOrchestrator.handleSuccess],
      cleanup.step (by simp) rfl⟩

/-- After any other end of the process nothing is published, and the call
returns with a failed job or never records an operation. -/
theorem Accounts.unsettled {job : Job} {process : ManagedProcess}
    {ending : Ending}
    (here : Accounts work system id 0 0 current
      (.poll job process (.begin work.startAt)))
    (ends : work.Ends ending)
    (unsettled : ¬ (ending = .timedOut ∨ ending = .exited 0)) :
    (∃ after left, left.status ≠ .pending ∧
        Accounts work system id 0 1 after (.returned (some left))) ∨
      ∃ after left err,
        Accounts work system id 0 0 after (.failedPlugins left err) := by
  obtain ⟨after, polled, leaving⟩ := here.loop ends
  cases ending with
  | timedOut => exact absurd (.inl rfl) unsettled
  | exited code =>
      have failure : code ≠ 0 := fun zero =>
        unsettled (.inr (congrArg Ending.exited zero))
      rw [Ending.exit, if_neg failure] at leaving
      exact .inr ⟨_, _, _, leaving.step (by simp) rfl⟩
  | waitFailed error =>
      have cleanup := leaving.step (by simp [Ending.exit]) rfl
      exact .inl ⟨_, _, by simp, cleanup.step (by simp) rfl⟩

/-- The dequeue publishes the start of the job only. -/
theorem accounts_dequeued {job : Job} {rest : QueueManager}
    (taken : system.queue.dequeue = some (job, rest)) :
    ∃ after, after.plugins = system.plugins ∧
      Accounts work system job.id 0 0 after (.lockPlugins job) := by
  have dequeued : Reaches work system _ (.lockPlugins job) :=
    reaches_start.step (by simp) (by rw [executeStep, taken])
  refine ⟨_, ?_, dequeued, ⟨job, rfl, rfl⟩, .of_events rfl rfl rfl⟩
  rfl

/-- A job whose process is started reaches the loop, and is not yet accounted
for. -/
theorem Accounts.started {job : Job} {pid : Nat}
    (here : Accounts work system id outcomes operations current
      (.lockPlugins job))
    (known : current.plugins.has job.plugin = true)
    (started : work.spawned = .ok pid) :
    ∃ after process, Accounts work system id outcomes operations after
      (.poll job process (.begin work.startAt)) := by
  have spawned := here.step (by simp) (lockPlugins_of_spawned known started)
  by_cases download : job.command = "curl" ∨ job.command = "wget"
  · have registered := spawned.step (by simp)
      (by rw [executeStep, if_pos download])
    exact ⟨_, _, registered.step (by simp) rfl⟩
  · have registered := spawned.step (by simp)
      (by rw [executeStep, if_neg download])
    exact ⟨_, _, registered⟩

end Accounts

/-- The plugin of the job is known, and its process does not start, is stopped
by the timeout, or exits with code zero. -/
def SettlesJob (work : Work) (system : System) (job : Job) : Prop :=
  system.plugins.has job.plugin = true ∧
    ∀ pid, work.spawned = .ok pid →
      work.Ends .timedOut ∨ work.Ends (.exited 0)

/-- The call has published one outcome of the job, or none and leaves the job
pending, and it has recorded one operation. -/
def AccountedFor (system after : System) (job : Job) (point : ExecPoint) :
    Prop :=
  ∃ left, point.job? = some left ∧
    ((left.status ≠ .pending ∧ Ledger job.id system after 1 1) ∨
      (left.status = .pending ∧ Ledger job.id system after 0 1))

/-- A job that is dequeued is accounted for once the call comes to rest. -/
def AccountedOnce (work : Work) (system : System) : Prop :=
  ∀ job rest, system.queue.dequeue = some (job, rest) →
    ∀ after point, Reaches work system after point → point.Final →
      AccountedFor system after job point

section AccountedOnce

variable {work : Work} {system : System} {job : Job} {rest : QueueManager}

theorem exists_accounted (taken : system.queue.dequeue = some (job, rest))
    (settles : SettlesJob work system job) :
    ∃ after point, Reaches work system after point ∧ point.Final ∧
      AccountedFor system after job point := by
  obtain ⟨known, inTime⟩ := settles
  obtain ⟨current, samePlugins, dequeued⟩ := @accounts_dequeued work _ _ _ taken
  rw [← samePlugins] at known
  cases started : work.spawned with
  | error error =>
      have spawnFailed :=
        dequeued.step (by simp) (lockPlugins_of_error known started)
      have returned := spawnFailed.step (by simp) rfl
      exact ⟨_, _, returned.reached, trivial, _, rfl,
        .inl ⟨by simp, returned.ledger⟩⟩
  | ok pid =>
      obtain ⟨before, process, polling⟩ := dequeued.started known started
      obtain ⟨ending, ends, inTime⟩ : ∃ ending, work.Ends ending ∧
          (ending = .timedOut ∨ ending = .exited 0) := by
        rcases inTime pid started with late | success
        · exact ⟨_, late, .inl rfl⟩
        · exact ⟨_, success, .inr rfl⟩
      obtain ⟨after, left, notPending, returned⟩ := polling.settled ends inTime
      exact ⟨after, _, returned.reached, trivial, left, rfl,
        .inl ⟨notPending, returned.ledger⟩⟩

/-- Without an outcome, a call accounts for its job only if it leaves the job
pending and has recorded an operation. -/
theorem not_accountedFor {after : System} {point : ExecPoint} {operations : Nat}
    (ledger : Ledger job.id system after 0 operations)
    (small : operations < 2 ^ 64)
    (lacks : operations = 0 ∨
      ∀ left, point.job? = some left → left.status ≠ .pending) :
    ¬ AccountedFor system after job point := by
  rintro ⟨left, working, ⟨-, both⟩ | ⟨pending, recorded⟩⟩
  · have noOutcome := (ledger.unique both small (by decide)).1
    cases noOutcome
  · rcases lacks with none | failed
    · have one := (ledger.unique recorded small (by decide)).2
      omega
    · exact failed left working pending

theorem exists_unaccounted (taken : system.queue.dequeue = some (job, rest))
    (unsettled : ¬ SettlesJob work system job) :
    ∃ after point, Reaches work system after point ∧ point.Final ∧
      ¬ AccountedFor system after job point := by
  obtain ⟨current, samePlugins, dequeued⟩ := @accounts_dequeued work _ _ _ taken
  cases known : current.plugins.has job.plugin with
  | false =>
      have missing := dequeued.step (by simp) (lockPlugins_of_unknown known)
      have returned := missing.step (by simp) rfl
      have nothing : Ledger job.id system _ 0 0 := returned.ledger
      exact ⟨_, _, returned.reached, trivial,
        not_accountedFor nothing (by decide) (.inl rfl)⟩
  | true =>
      have ⟨pid, started, notInTime⟩ : ∃ pid, work.spawned = .ok pid ∧
          ¬ (work.Ends .timedOut ∨ work.Ends (.exited 0)) := by
        by_contra none
        refine unsettled ⟨samePlugins ▸ known, ?_⟩
        intro pid started
        by_contra notInTime
        exact none ⟨pid, started, notInTime⟩
      obtain ⟨before, process, polling⟩ := dequeued.started known started
      obtain ⟨ending, ends⟩ := work.exists_ends
      have other : ¬ (ending = .timedOut ∨ ending = .exited 0) := by
        rintro (rfl | rfl)
        · exact notInTime (.inl ends)
        · exact notInTime (.inr ends)
      rcases polling.unsettled ends other with
        ⟨after, left, notPending, returned⟩ | ⟨after, left, err, blocked⟩
      · refine ⟨after, _, returned.reached, trivial,
          not_accountedFor returned.ledger (by decide) (.inr ?_)⟩
        rintro _ ⟨⟩
        exact notPending
      · exact ⟨after, _, blocked.reached, trivial,
          not_accountedFor blocked.ledger (by decide) (.inl rfl)⟩

end AccountedOnce

/-- A started job is accounted for exactly when its plugin is known and its
process does not start, runs into the timeout or exits with code zero. -/
theorem accountedOnce_iff (work : Work) (system : System) :
    AccountedOnce work system ↔
      ∀ job rest, system.queue.dequeue = some (job, rest) →
        SettlesJob work system job := by
  constructor
  · intro accounted job rest taken
    by_contra unsettled
    obtain ⟨after, point, reached, final, notAccounted⟩ :=
      exists_unaccounted taken unsettled
    exact notAccounted (accounted job rest taken after point reached final)
  · intro settles job rest taken after point reached final
    obtain ⟨known, rested, there, thereFinal, accounted⟩ :=
      exists_accounted taken (settles job rest taken)
    obtain ⟨rfl, rfl⟩ := reached.final_unique there final thereFinal
    exact accounted

/-- Past the mutex, the failure branch would account for its job: the
orchestrator publishes the failure unless it grants a retry. -/
theorem failureBranch_accountedFor {decides updates counts cleans : Answer}
    {system decided updated counted after : System} {job : Job} {err : String}
    {toQueue toDownload toCleanup point : ExecPoint}
    (first : executeStep decides system (.failedPlugins job err) =
      some (decided, toQueue))
    (second : executeStep updates decided toQueue = some (updated, toDownload))
    (third : executeStep counts updated toDownload = some (counted, toCleanup))
    (last : executeStep cleans counted toCleanup = some (after, point)) :
    AccountedFor system after job point := by
  have outcomes :=
    system.orchestrator.handleFailure_outcomes decides.readings job err
  cases first
  cases second
  cases third
  cases last
  refine ⟨_, rfl, ?_⟩
  split at outcomes
  · next retried =>
      exact .inr ⟨retried, .of_record counts.now job false rfl outcomes rfl⟩
  · next givenUp =>
      exact .inl ⟨givenUp, .of_record counts.now job false rfl outcomes rfl⟩

/-- The plugin of the only job is not registered: the call returns, and has
neither published an outcome nor recorded an operation. -/
theorem missing_plugin_unaccounted :
    ((callState (exitsWith 0) (oneJob []) 3).1.bus.outcomesOf 1 = 0 ∧
      (callState (exitsWith 0) (oneJob []) 3).1.metrics.operationCount = 0) ∧
      ¬ AccountedOnce (exitsWith 0) (oneJob []) := by
  refine ⟨⟨rfl, rfl⟩, ?_⟩
  intro accounted
  have unknown : ¬ SettlesJob (exitsWith 0) (oneJob [])
      { clientJob "tool" with status := .running } := by
    rintro ⟨known, -⟩
    cases known
  obtain ⟨after, point, reached, final, notAccounted⟩ :=
    exists_unaccounted rfl unknown
  exact notAccounted (accounted _ _ rfl after point reached final)

end NetGuardian
