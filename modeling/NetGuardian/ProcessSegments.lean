import NetGuardian.Segments

/-!
# What the segments do to processes

The polling loop and `all_running` wait for processes; the control calls, the
timeout and every cleanup signal them.  The handles of a process share one
status cell, which the waiting and the signalling methods write.
-/

namespace NetGuardian

/-- The status that `try_wait` records. -/
def ProcessStatus.IsExited : ProcessStatus → Prop
  | exited _ => True
  | running | stopped | killed => False

instance (status : ProcessStatus) : Decidable status.IsExited :=
  match status with
  | .exited _ => isTrue trivial
  | .running | .stopped | .killed => isFalse id

theorem Signal.not_isExited_status (signal : Signal) :
    ¬ signal.status.IsExited := by
  cases signal <;> exact id

/-- What becomes of the status cells when some processes were found to have
exited and some were signalled. -/
structure Touches (before after : ProcessSupervisor)
    (learned addressed : List Nat) : Prop where
  grows : before.nextCell ≤ after.nextCell
  recorded : ∀ cell ∈ learned, (after.statuses cell).IsExited
  kept : ∀ cell, (before.statuses cell).IsExited → cell < before.nextCell →
    cell ∉ addressed → (after.statuses cell).IsExited
  only : ∀ cell, (after.statuses cell).IsExited →
    (before.statuses cell).IsExited ∨ cell ∈ learned

namespace ProcessSupervisor

variable {supervisor after : ProcessSupervisor}

theorem touches_of_same (statuses : after.statuses = supervisor.statuses)
    (nextCell : after.nextCell = supervisor.nextCell) :
    Touches supervisor after [] [] where
  grows := nextCell.ge
  recorded _ here := nomatch here
  kept cell ended _ _ := by rwa [statuses]
  only cell ended := by
    rw [statuses] at ended
    exact .inl ended

theorem setStatus_statuses (cell other : Nat) (status : ProcessStatus) :
    (supervisor.setStatus cell status).statuses other =
      if other = cell then status else supervisor.statuses other :=
  rfl

/-- A new process starts in a new cell. -/
theorem touches_spawnProcess (pid : Nat) (binary : String) (args : List String)
    (jobId : Nat) :
    Touches supervisor (supervisor.spawnProcess pid binary args jobId).2 [] [] where
  grows := Nat.le_succ _
  recorded _ here := nomatch here
  kept cell ended used _ := by
    change ((supervisor.setStatus supervisor.nextCell .running).statuses
      cell).IsExited
    rwa [setStatus_statuses, if_neg (Nat.ne_of_lt used)]
  only cell ended := by
    change ((supervisor.setStatus supervisor.nextCell .running).statuses
      cell).IsExited at ended
    rw [setStatus_statuses] at ended
    split at ended
    · exact ended.elim
    · exact .inl ended

theorem deliver_statuses_of_ne {signal : Signal}
    {killed : ManagedProcess → Bool} {process : ManagedProcess} {cell : Nat}
    (other : cell ≠ process.cell) :
    (deliver signal killed supervisor process).statuses cell =
      supervisor.statuses cell := by
  unfold deliver
  split
  · rw [setStatus_statuses, if_neg other]
  · rfl

/-- No signal records an exit. -/
theorem isExited_of_deliver {signal : Signal} {killed : ManagedProcess → Bool}
    {process : ManagedProcess} {cell : Nat}
    (ended : ((deliver signal killed supervisor process).statuses
      cell).IsExited) : (supervisor.statuses cell).IsExited := by
  unfold deliver at ended
  split at ended
  · rw [setStatus_statuses] at ended
    split at ended
    · exact absurd ended signal.not_isExited_status
    · exact ended
  · exact ended

/-- Signals to several processes. -/
theorem touches_foldl_deliver (signal : Signal)
    (killed : ManagedProcess → Bool) (targets : List ManagedProcess) :
    Touches supervisor (targets.foldl (deliver signal killed) supervisor) []
      (targets.map (·.cell)) := by
  induction targets generalizing supervisor with
  | nil => exact touches_of_same rfl rfl
  | cons process targets ih =>
      have rest := @ih (deliver signal killed supervisor process)
      have sameNext :=
        @deliver_nextCell supervisor signal killed process
      constructor
      · rw [← sameNext]
        exact rest.grows
      · intro cell here
        cases here
      · intro cell ended used spared
        rw [List.map_cons, List.mem_cons, not_or] at spared
        apply rest.kept cell _ (sameNext ▸ used) spared.2
        rwa [deliver_statuses_of_ne spared.1]
      · intro cell ended
        rcases rest.only cell ended with before | new
        · exact .inl (isExited_of_deliver before)
        · exact .inr new

theorem isExited_tryWait {process : ManagedProcess}
    {waited : Except String (Option Int)} {cell : Nat} :
    ((supervisor.tryWait process waited).statuses cell).IsExited ↔
      (supervisor.statuses cell).IsExited ∨
        countsAsRunning waited = false ∧ cell = process.cell := by
  match waited with
  | .ok (some code) =>
      rw [tryWait, setStatus_statuses]
      split
      · next same => simp [ProcessStatus.IsExited, countsAsRunning, same]
      · next other => simp [other]
  | .ok none => simp [tryWait, countsAsRunning]
  | .error error => simp [tryWait, countsAsRunning]

/-- Waiting for several processes. -/
theorem isExited_foldl_tryWait
    (waited : ManagedProcess → Except String (Option Int))
    (entries : List (String × ManagedProcess)) {cell : Nat} :
    ((entries.foldl
        (fun supervisor entry => supervisor.tryWait entry.2 (waited entry.2))
        supervisor).statuses cell).IsExited ↔
      (supervisor.statuses cell).IsExited ∨ ∃ entry ∈ entries,
        countsAsRunning (waited entry.2) = false ∧ cell = entry.2.cell := by
  induction entries generalizing supervisor with
  | nil => simp
  | cons entry entries ih =>
      rw [List.foldl_cons, ih, isExited_tryWait, or_assoc]
      simp

theorem touches_foldl_tryWait
    (waited : ManagedProcess → Except String (Option Int))
    (entries : List (String × ManagedProcess)) :
    Touches supervisor
      (entries.foldl
        (fun supervisor entry => supervisor.tryWait entry.2 (waited entry.2))
        supervisor)
      ((entries.filter fun entry => !countsAsRunning (waited entry.2)).map
        (·.2.cell)) [] where
  grows := (foldl_tryWait waited entries).2.ge
  recorded cell learned := by
    obtain ⟨entry, reported, rfl⟩ := List.mem_map.mp learned
    obtain ⟨member, exited⟩ := List.mem_filter.mp reported
    rw [isExited_foldl_tryWait]
    exact .inr ⟨entry, member, by simpa using exited, rfl⟩
  kept cell ended _ _ := by
    rw [isExited_foldl_tryWait]
    exact .inl ended
  only cell ended := by
    rw [isExited_foldl_tryWait] at ended
    rcases ended with before | ⟨entry, member, exited, rfl⟩
    · exact .inl before
    · right
      refine List.mem_map.mpr ⟨entry, ?_, rfl⟩
      exact List.mem_filter.mpr ⟨member, by simpa using exited⟩

theorem mem_tracked_of_mem_allTracked {entry : String × ManagedProcess}
    (member : entry ∈ supervisor.allTracked) :
    entry.2 ∈ supervisor.tracked entry.1 := by
  obtain ⟨⟨plugin, processes⟩, stored, here⟩ := List.mem_flatMap.mp member
  obtain ⟨process, listed, rfl⟩ := List.mem_map.mp here
  have found := AList.mem_lookup_iff.mpr stored
  rw [tracked, Option.mem_def.mp found]
  exact listed

theorem touches_tryWait_exited (supervisor : ProcessSupervisor)
    (process : ManagedProcess) (code : Int) :
    Touches supervisor (supervisor.tryWait process (.ok (some code)))
      [process.cell] [] :=
  touches_foldl_tryWait (fun _ => .ok (some code)) [("", process)]

end ProcessSupervisor

namespace ExecPoint

/-- The process of the call, from its start to the end of the loop. -/
def process? : ExecPoint → Option ManagedProcess
  | register _ process | track _ process | poll _ process _
  | updateDownload _ process _ _ => some process
  | _ => none

/-- The processes for which `try_wait` returns an exit code in the segment. -/
def reaps (answer : Answer) : ExecPoint → List ManagedProcess
  | poll _ process round =>
      if Duration.fromSecs 3600 < Instant.elapsed round.start answer.now then []
      else if ProcessSupervisor.countsAsRunning (answer.waited process) then []
      else [process]
  | _ => []

/-- The processes that the segment signals. -/
def targets (system : System) (answer : Answer) : ExecPoint → List ManagedProcess
  | poll _ process round =>
      if Duration.fromSecs 3600 < Instant.elapsed round.start answer.now then
        [process]
      else []
  | cleanup job => system.supervisor.tracked job.plugin
  | _ => []

end ExecPoint

namespace Frame

def process? : Frame → Option ManagedProcess
  | execute point => point.process?
  | control _ _ => none

def reaps (answer : Answer) : Frame → List ManagedProcess
  | execute point => point.reaps answer
  | control _ _ => []

def targets (system : System) (answer : Answer) : Frame → List ManagedProcess
  | execute point => point.targets system answer
  | control _ point => point.targets system

end Frame

/-- What a segment does to processes: to the status cells, to the log of
signals, and to the handle that its task keeps. -/
structure ProcessSegment (system after : System)
    (process following : Option ManagedProcess)
    (reaps targets : List ManagedProcess) : Prop where
  touches : Touches system.supervisor after.supervisor (reaps.map (·.cell))
    (targets.map (·.cell))
  signals : after.signals.map (·.process) =
    system.signals.map (·.process) ++ targets
  handle : ∀ handle, following = some handle → process = some handle ∨
    handle.cell = system.supervisor.nextCell ∧
      system.supervisor.nextCell < after.supervisor.nextCell

section ProcessSegment

variable {answer : Answer} {system after : System}

/-- A segment that leaves processes alone. -/
theorem ProcessSegment.idle {process following : Option ManagedProcess}
    (statuses : after.supervisor.statuses = system.supervisor.statuses)
    (nextCell : after.supervisor.nextCell = system.supervisor.nextCell)
    (signals : after.signals = system.signals)
    (handle : following = none ∨ following = process) :
    ProcessSegment system after process following [] [] where
  touches := ProcessSupervisor.touches_of_same statuses nextCell
  signals := by rw [signals, List.append_nil]
  handle kept follows := by
    rcases handle with none | same
    · rw [none] at follows
      cases follows
    · exact .inl (same ▸ follows)

/-- A segment that signals its targets. -/
theorem ProcessSegment.deliver {process : Option ManagedProcess}
    {sender : Option ControlCall} {signal : Signal}
    {killed : ManagedProcess → Bool} {targets : List ManagedProcess}
    {supervisor : ProcessSupervisor}
    (statuses : supervisor.statuses = system.supervisor.statuses)
    (nextCell : supervisor.nextCell = system.supervisor.nextCell)
    (delivered : after.supervisor =
      targets.foldl (ProcessSupervisor.deliver signal killed) supervisor)
    (logged : after.signals = system.signals ++ targets.map fun process =>
      ⟨sender, signal, process⟩) :
    ProcessSegment system after process none [] targets where
  touches := by
    have signalled :=
      @ProcessSupervisor.touches_foldl_deliver supervisor signal killed targets
    rw [← delivered] at signalled
    exact
      { grows := nextCell ▸ signalled.grows
        recorded := signalled.recorded
        kept := statuses ▸ nextCell ▸ signalled.kept
        only := statuses ▸ signalled.only }
  signals := by
    rw [logged, List.map_append, List.map_map]
    simp [Function.comp_def]
  handle handle follows := nomatch follows

theorem pollStep_processes {job : Job} {process : ManagedProcess}
    {round : PollRound} :
    let point := ExecPoint.poll job process round
    ProcessSegment system (pollStep answer system job process round).1
      point.process? (pollStep answer system job process round).2.process?
      (point.reaps answer) (point.targets system answer) := by
  intro point
  by_cases late :
      Duration.fromSecs 3600 < Instant.elapsed round.start answer.now
  · simp only [pollStep, point, ExecPoint.reaps, ExecPoint.targets, late,
      if_true]
    exact @ProcessSegment.deliver _ _ _ none (.terminate (Duration.fromSecs 3))
      answer.killed [process] system.supervisor rfl rfl rfl rfl
  · simp only [pollStep, point, ExecPoint.reaps, ExecPoint.targets, late,
      if_false]
    cases waited : answer.waited process with
    | error error => exact .idle rfl rfl rfl (.inl rfl)
    | ok result =>
        cases result with
        | none =>
            dsimp only
            split
            · exact .idle rfl rfl rfl (.inr rfl)
            · exact .idle rfl rfl rfl (.inr rfl)
        | some code =>
            have reaped :=
              system.supervisor.touches_tryWait_exited process code
            dsimp only
            split
            · exact ⟨reaped, (List.append_nil _).symm, by rintro _ ⟨⟩⟩
            · exact ⟨reaped, (List.append_nil _).symm, by rintro _ ⟨⟩⟩

theorem executeStep_processes {point next : ExecPoint}
    (segment : executeStep answer system point = some (after, next)) :
    ProcessSegment system after point.process? next.process?
      (point.reaps answer) (point.targets system answer) := by
  cases point with
  | dequeue =>
      rw [executeStep] at segment
      split at segment
      · cases segment
        exact .idle rfl rfl rfl (.inl rfl)
      · cases segment
        exact .idle rfl rfl rfl (.inl rfl)
  | lockPlugins job =>
      rw [executeStep] at segment
      split at segment
      · split at segment
        · cases segment
          exact .idle rfl rfl rfl (.inl rfl)
        · next pid started =>
              cases segment
              exact
                { touches := ProcessSupervisor.touches_spawnProcess pid job.plugin
                    (job.command :: job.args) job.id
                  signals := (List.append_nil _).symm
                  handle := by
                    rintro handle ⟨⟩
                    exact .inr ⟨rfl, Nat.lt_succ_self _⟩ }
      · cases segment
        exact .idle rfl rfl rfl (.inl rfl)
  | register job process =>
      rw [executeStep] at segment
      split at segment
      · cases segment
        exact .idle rfl rfl rfl (.inr rfl)
      · cases segment
        exact .idle rfl rfl rfl (.inr rfl)
  | poll job process round =>
      rw [executeStep, Option.some.injEq] at segment
      have polled := @pollStep_processes answer system job process round
      rw [segment] at polled
      exact polled
  | cleanup job =>
      cases segment
      exact @ProcessSegment.deliver _ _ _ none (.terminate (Duration.fromSecs 1))
        answer.killed _ { system.supervisor with
          processes := system.supervisor.processes.erase job.plugin }
        rfl rfl rfl rfl
  | returned job => cases segment
  | track job process | updateDownload job process round elapsed =>
      cases segment
      exact .idle rfl rfl rfl (.inr rfl)
  | missing job | spawnFailed job err | timedOut job | succeeded job
  | completeQueue job | completeDownload job | failed job err
  | failedPlugins job err | failedQueue job err | failedDownload job err
  | waitFailed job =>
      cases segment
      exact .idle rfl rfl rfl (.inl rfl)

theorem controlStep_processes {call : ControlCall} {point next : ControlPoint}
    (segment : controlStep call answer system point = some (after, next)) :
    ProcessSegment system after none none [] (point.targets system) := by
  cases point with
  | list =>
      rw [controlStep] at segment
      split at segment
      · cases segment
        exact .idle rfl rfl rfl (.inl rfl)
      · cases segment
        exact .idle rfl rfl rfl (.inl rfl)
  | signal plugin =>
      cases segment
      exact @ProcessSegment.deliver _ _ _ (some call) call.kind.signal
        answer.killed _ system.supervisor rfl rfl rfl rfl
  | update plugin results =>
      rw [controlStep] at segment
      split at segment
      · cases segment
        exact .idle rfl rfl rfl (.inl rfl)
      · cases segment
        exact .idle rfl rfl rfl (.inl rfl)
  | cleanup plugin results =>
      cases segment
      exact @ProcessSegment.deliver _ _ _ (some call)
        (.terminate (Duration.fromSecs 1)) answer.killed _
        { system.supervisor with
          processes := system.supervisor.processes.erase plugin }
        rfl rfl rfl rfl
  | returned result => cases segment

theorem resume_processes {frame next : Frame}
    (resumption : Frame.resume system frame answer = some (after, next)) :
    ProcessSegment system after frame.process? next.process?
      (frame.reaps answer) (frame.targets system answer) := by
  cases frame with
  | execute point =>
      obtain ⟨next, rfl, segment⟩ := Frame.resume_execute resumption
      exact executeStep_processes segment
  | control call point =>
      obtain ⟨next, rfl, segment⟩ := Frame.resume_control resumption
      exact controlStep_processes segment

/-- A segment tracks nothing but the process of its own call. -/
theorem resume_tracked {answer : Answer} {system after : System}
    {frame following : Frame}
    (resumption : Frame.resume system frame answer = some (after, following))
    {plugin : String} {process : ManagedProcess}
    (here : process ∈ after.supervisor.tracked plugin) :
    process ∈ system.supervisor.tracked plugin ∨
      frame.process? = some process := by
  cases frame with
  | execute point =>
      obtain ⟨_, rfl, segment⟩ := Frame.resume_execute resumption
      rcases (executeStep_segment segment).tracked plugin process here with
        old | ⟨job, rfl, _⟩
      · exact .inl old
      · exact .inr rfl
  | control call point =>
      obtain ⟨_, rfl, segment⟩ := Frame.resume_control resumption
      exact .inl ((controlStep_segment segment).tracked plugin process here)

theorem Frame.process_of_isEntry {frame : Frame}
    (entry : frame.isEntry = true) : frame.process? = none := by
  cases frame with
  | control call point => rfl
  | execute point =>
      cases point with
      | dequeue => rfl
      | _ => cases entry

/-- A call waits for its own process only. -/
theorem Frame.process_of_reaps {answer : Answer} {frame : Frame}
    {process : ManagedProcess} (reaped : process ∈ frame.reaps answer) :
    frame.process? = some process := by
  cases frame with
  | control call point => cases reaped
  | execute point =>
      cases point with
      | poll job polled round =>
          simp only [reaps, ExecPoint.reaps] at reaped
          split at reaped
          · cases reaped
          · split at reaped
            · cases reaped
            · rw [List.mem_singleton.mp reaped]
              rfl
      | _ => cases reaped

end ProcessSegment

end NetGuardian
