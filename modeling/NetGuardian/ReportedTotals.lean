import NetGuardian.JobEvents

/-!
# The totals behind the reports

The counters of the metrics engine and the state of the retry orchestrator, as far
as any interleaving of the executor's calls can move them.  The number of successful
operations is the number of `DownloadCompleted` events.  The orchestrator only ever
records successes, and the number of retries stays what it was: the segments that
would record a failure lie behind an acquisition that never succeeds.
-/

namespace NetGuardian

open CooperativeTasks LabelledRun TakingTurns

namespace NetGuardianEvent

def isJobCompleted : NetGuardianEvent → Bool
  | jobCompleted _ => true
  | _ => false

def isDownloadCompleted : NetGuardianEvent → Bool
  | downloadCompleted _ => true
  | _ => false

end NetGuardianEvent

/-- A task that is not behind the second acquisition of the plugin manager. -/
def Frame.Reachable : Frame → Prop
  | .execute (.failedQueue _ _) | .execute (.failedDownload _ _) => False
  | _ => True

/-- What a segment can do to the counters and to the orchestrator. -/
structure Counts (before after : System) : Prop where
  orchestrator : after.orchestrator = before.orchestrator ∨
    after.orchestrator = ⟨before.orchestrator.engine.recordSuccess⟩
  retryCount : after.metrics.retryCount = before.metrics.retryCount
  retries : after.metrics.retries = before.metrics.retries
  successes : ∃ events, after.bus.published = before.bus.published ++ events ∧
    after.metrics.successOps % 2 ^ 64 = (before.metrics.successOps +
      events.countP NetGuardianEvent.isDownloadCompleted) % 2 ^ 64

section Segments

variable {answer : Answer} {system after : System} {point next : ExecPoint}

/-- A segment that leaves the orchestrator and the metrics alone. -/
theorem Counts.plain {events : List NetGuardianEvent}
    (published : after.bus.published = system.bus.published ++ events)
    (none : events.countP NetGuardianEvent.isDownloadCompleted = 0)
    (orchestrator : after.orchestrator = system.orchestrator)
    (metrics : after.metrics = system.metrics) : Counts system after where
  orchestrator := .inl orchestrator
  retryCount := by rw [metrics]
  retries := by rw [metrics]
  successes := ⟨events, published, by rw [none, metrics, Nat.add_zero]⟩

/-- A segment that records a failed operation. -/
theorem Counts.failure {events : List NetGuardianEvent} {now : Nat} {job : Job}
    (published : after.bus.published = system.bus.published ++ events)
    (none : events.countP NetGuardianEvent.isDownloadCompleted = 0)
    (orchestrator : after.orchestrator = system.orchestrator)
    (metrics : after.metrics = system.metrics.recordOperation now job.plugin
      job.description false job.retryCount) : Counts system after where
  orchestrator := .inl orchestrator
  retryCount := by rw [metrics]; rfl
  retries := by rw [metrics]; rfl
  successes := ⟨events, published, by rw [none, metrics]; rfl⟩

theorem pollStep_counts {job : Job} {process : ManagedProcess}
    {round : PollRound} :
    Counts system (pollStep answer system job process round).1 := by
  have silent : ∀ {after : System},
      after.bus.published = system.bus.published →
        after.orchestrator = system.orchestrator →
          after.metrics = system.metrics → Counts system after :=
    fun published => .plain (published.trans (List.append_nil _).symm) rfl
  unfold pollStep
  dsimp only
  split
  · exact silent rfl rfl rfl
  · split
    · split
      · exact silent rfl rfl rfl
      · exact silent rfl rfl rfl
    · split
      · exact .plain rfl rfl rfl rfl
      · exact silent rfl rfl rfl
    · exact silent rfl rfl rfl

theorem executeStep_counts
    (free : ¬ SelfBlocked executor (.execute point))
    (reachable : Frame.Reachable (.execute point))
    (segment : executeStep answer system point = some (after, next)) :
    Counts system after ∧ Frame.Reachable (.execute next) := by
  have silent : ∀ {after : System},
      after.bus.published = system.bus.published →
        after.orchestrator = system.orchestrator →
          after.metrics = system.metrics → Counts system after :=
    fun published => .plain (published.trans (List.append_nil _).symm) rfl
  cases point with
  | dequeue =>
      rw [executeStep] at segment
      split at segment
      · cases segment
        exact ⟨silent rfl rfl rfl, trivial⟩
      · cases segment
        exact ⟨.plain rfl rfl rfl rfl, trivial⟩
  | lockPlugins job =>
      rw [executeStep] at segment
      split at segment
      · split at segment
        · cases segment
          exact ⟨silent rfl rfl rfl, trivial⟩
        · cases segment
          exact ⟨silent rfl rfl rfl, trivial⟩
      · cases segment
        exact ⟨silent rfl rfl rfl, trivial⟩
  | register job process =>
      rw [executeStep] at segment
      split at segment
      · cases segment
        exact ⟨silent rfl rfl rfl, trivial⟩
      · cases segment
        exact ⟨silent rfl rfl rfl, trivial⟩
  | poll job process round =>
      rw [executeStep, Option.some.injEq] at segment
      have polled := @pollStep_counts answer system job process round
      have leads : Frame.Reachable
          (.execute (pollStep answer system job process round).2) := by
        unfold pollStep
        dsimp only
        split
        · trivial
        · split
          · split <;> trivial
          · split <;> trivial
          · trivial
      rw [segment] at polled leads
      exact ⟨polled, leads⟩
  | spawnFailed job err =>
      cases segment
      exact ⟨@Counts.failure _ _ _ answer.now job rfl rfl rfl rfl, trivial⟩
  | timedOut job =>
      cases segment
      exact ⟨@Counts.failure _ _ _ answer.now job rfl rfl rfl rfl, trivial⟩
  | waitFailed job =>
      cases segment
      exact ⟨@Counts.failure _ _ [] answer.now job (List.append_nil _).symm rfl
        rfl rfl, trivial⟩
  | succeeded job =>
      cases segment
      exact ⟨⟨.inr rfl, rfl, rfl, _, rfl, rfl⟩, trivial⟩
  | completeDownload job =>
      cases segment
      refine ⟨⟨.inl rfl, rfl, rfl, _, rfl, ?_⟩, trivial⟩
      exact Nat.mod_mod _ _
  | failedPlugins job err =>
      exact absurd (selfBlocked_execute_iff.mpr ⟨job, err, rfl⟩) free
  | failedQueue job err | failedDownload job err => exact reachable.elim
  | missing job | track job process | updateDownload job process round elapsed
  | completeQueue job | failed job err | cleanup job =>
      cases segment
      exact ⟨silent rfl rfl rfl, trivial⟩
  | returned job => cases segment

theorem resume_counts {frame following : Frame}
    (free : ¬ SelfBlocked executor frame) (reachable : frame.Reachable)
    (resumption : Frame.resume system frame answer = some (after, following)) :
    Counts system after ∧ following.Reachable := by
  cases frame with
  | execute point =>
      obtain ⟨_, rfl, segment⟩ := Frame.resume_execute resumption
      exact executeStep_counts free reachable segment
  | control call point =>
      obtain ⟨_, rfl, segment⟩ := Frame.resume_control resumption
      obtain ⟨orchestrator, metrics, _, _⟩ := controlStep_frame segment
      have published := (controlStep_segment segment).published
      exact ⟨.plain (published.trans (List.append_nil _).symm) rfl orchestrator
        metrics, trivial⟩

end Segments

/-- The totals after a run, compared with those at its start. -/
structure TotalsKept (first last : System) : Prop where
  orchestrator : last.orchestrator = first.orchestrator
  retryCount : last.metrics.retryCount = first.metrics.retryCount
  retries : last.metrics.retries = first.metrics.retries
  successes : last.metrics.successOps % 2 ^ 64 =
    (first.metrics.successOps +
      last.bus.published.countP NetGuardianEvent.isDownloadCompleted) % 2 ^ 64

section Runs

variable {system : System} {labels : List (Label Frame Answer)}
variable {pool : Pool System Frame}

theorem TotalsKept.step {before after : System} (kept : TotalsKept system before)
    (idle : system.orchestrator.engine.recordSuccess =
      system.orchestrator.engine)
    (counts : Counts before after) : TotalsKept system after where
  orchestrator := by
    rcases counts.orchestrator with same | succeeded
    · rw [same, kept.orchestrator]
    · rw [succeeded, kept.orchestrator, idle]
  retryCount := counts.retryCount.trans kept.retryCount
  retries := counts.retries.trans kept.retries
  successes := by
    obtain ⟨events, grown, counted⟩ := counts.successes
    rw [counted, grown, List.countP_append, Nat.add_mod, kept.successes,
      ← Nat.add_mod, Nat.add_assoc]

theorem totalsKept_run (quiet : system.bus.published = [])
    (idle : system.orchestrator.engine.recordSuccess =
      system.orchestrator.engine)
    (run : Run (step executor) ⟨system, []⟩ labels pool) :
    TotalsKept system pool.shared := by
  have all : TotalsKept system pool.shared ∧
      ∀ frame ∈ pool.tasks, Frame.Reachable frame := by
    refine pool_invariant (TotalsKept system) (fun _ => Frame.Reachable) run
      ?_ ?_ ?_ ?_ ?_
    · exact ⟨rfl, rfl, rfl, by rw [quiet]; rfl⟩
    · intro frame member
      cases member
    · intro _ frame _ entry _
      rcases Frame.cases_of_isEntry entry with rfl | ⟨call, rfl⟩
      · trivial
      · trivial
    · intro before index answer frame shared resumed kept found available
        reachable _ resumption
      obtain ⟨counts, still⟩ := resume_counts
        (not_selfBlocked_of_available found available) reachable resumption
      exact ⟨kept.step idle counts, still⟩
    · exact fun _ _ _ _ _ _ _ _ _ reachable => reachable
  exact all.1

/-- In every interleaving of any number of calls on a fresh retry orchestrator: the
orchestrator stays fresh and no retry is counted; the successful operations are
the `DownloadCompleted` events; and a `JobCompleted` event lacks its
`DownloadCompleted` only while one call is between the two. -/
theorem totals_agree_with_reports {maxRetries : Nat} {policy : RetryPolicy}
    (distinct : system.queue.ids.Nodup) (quiet : system.bus.published = [])
    (fresh : system.orchestrator = .new maxRetries policy)
    (run : Run (step executor) ⟨system, []⟩ labels pool) :
    TotalsKept system pool.shared ∧
      (pool.shared.bus.published.countP NetGuardianEvent.isJobCompleted =
          pool.shared.bus.published.countP NetGuardianEvent.isDownloadCompleted ∨
        pool.shared.bus.published.countP NetGuardianEvent.isJobCompleted =
          pool.shared.bus.published.countP
            NetGuardianEvent.isDownloadCompleted + 1 ∧
          ∃ frame ∈ pool.tasks, ∃ jobId, frame.place = .committed jobId) := by
  refine ⟨totalsKept_run quiet (by rw [fresh]; rfl) run, ?_⟩
  obtain ⟨floor, accepted, order⟩ := reports_accepted_run distinct quiet run
  have balance := Floor.pledges_run accepted
  have completed : ∀ events : List NetGuardianEvent,
      (events.filterMap NetGuardianEvent.utterance).countP Floor.isPledge =
        events.countP NetGuardianEvent.isJobCompleted := by
    intro events
    rw [List.countP_filterMap]
    congr 1
    funext event
    cases event <;> rfl
  have downloaded : ∀ events : List NetGuardianEvent,
      (events.filterMap NetGuardianEvent.utterance).countP Floor.isRedemption =
        events.countP NetGuardianEvent.isDownloadCompleted := by
    intro events
    rw [List.countP_filterMap]
    congr 1
    funext event
    cases event <;> rfl
  rw [System.reports, completed, downloaded] at balance
  cases pledged : floor.pledged with
  | false =>
      rw [pledged] at balance
      exact .inl balance
  | true =>
      rw [pledged] at balance
      obtain ⟨jobId, speaking⟩ := Floor.pledged_iff.mp pledged
      obtain ⟨frame, member, committed⟩ := order.promised jobId speaking
      exact .inr ⟨balance, frame, member, jobId, committed⟩

end Runs

theorem totals_agree_with_reports_success :
    ∃ pool, Run (step executor) ⟨oneJob ["tool"], []⟩ successLabels pool ∧
      pool.shared.metrics.successOps = 1 ∧
      TotalsKept (oneJob ["tool"]) pool.shared ∧
      (pool.shared.bus.published.countP NetGuardianEvent.isJobCompleted =
          pool.shared.bus.published.countP NetGuardianEvent.isDownloadCompleted ∨
        pool.shared.bus.published.countP NetGuardianEvent.isJobCompleted =
          pool.shared.bus.published.countP
            NetGuardianEvent.isDownloadCompleted + 1 ∧
          ∃ frame ∈ pool.tasks, ∃ jobId, frame.place = .committed jobId) := by
  have run : Run (step executor) ⟨oneJob ["tool"], []⟩ successLabels _ :=
    run_of_exec_eq rfl
  exact ⟨_, run, rfl,
    @totals_agree_with_reports _ _ _ 5 .default (by decide) rfl rfl run⟩

end NetGuardian
