import NetGuardian.MetricsStore
import NetGuardian.Foundation.TryLock
import Mathlib.Data.ZMod.Basic
import Mathlib.Tactic.Ring

/-!
# Metrics calls on several threads

The executor, the monitor task and the handlers of the IPC server share one
metrics engine.  Its counters are atomic; its records are under a mutex that
every method takes with `try_lock().unwrap()`, so that a call that meets another
one inside the mutex panics after it has counted.
-/

namespace NetGuardian

open TryLock

/-- A call of a method of the metrics engine. -/
inductive MetricsCall where
  | recordConnectivity (latencyMs packetLossPct : ℚ)
  | recordOnline
  | recordOffline
  | recordOperation (plugin description : String) (success : Bool)
      (retries : Nat)
  | recordRetry
  | recordBandwidth (rx tx : Nat)
  | snapshot
deriving DecidableEq

namespace MetricsStore

section Steps

variable (metrics : MetricsStore)

/-- `is_online.swap(true)`; the call goes on if the flag was `false`. -/
def swapOnline : MetricsStore × Bool :=
  ({ metrics with isOnline := true }, !metrics.isOnline)

/-- `is_online.swap(false)`; the call goes on if the flag was `true`. -/
def swapOffline : MetricsStore × Bool :=
  ({ metrics with isOnline := false }, metrics.isOnline)

def countReconnect : MetricsStore × Bool :=
  ({ metrics with reconnectCount := addU64 metrics.reconnectCount 1 }, true)

def countOperation (success : Bool) : MetricsStore × Bool :=
  ({ metrics with
    successOps :=
      if success then addU64 metrics.successOps 1 else metrics.successOps
    failedOps :=
      if success then metrics.failedOps else addU64 metrics.failedOps 1 }, true)

def countRetry : MetricsStore × Bool :=
  ({ metrics with retryCount := addU64 metrics.retryCount 1 }, true)

def storeRx (rx : Nat) : MetricsStore × Bool :=
  ({ metrics with rxBytes := rx }, true)

def storeTx (tx : Nat) : MetricsStore × Bool :=
  ({ metrics with txBytes := tx }, true)

end Steps

/-- What a call does under the mutex. -/
def locked (call : MetricsCall) (now : Nat) (metrics : MetricsStore) :
    MetricsStore :=
  match call with
  | .recordConnectivity latencyMs packetLossPct =>
      metrics.recordConnectivity latencyMs packetLossPct
  | .recordOnline =>
      { metrics with
        lastOnline := some now
        totalDowntime :=
          match metrics.lastOffline with
          | some offlineAt => metrics.totalDowntime + (now - offlineAt)
          | none => metrics.totalDowntime
        reconnects := metrics.reconnects ++ [now] }
  | .recordOffline =>
      { metrics with
        lastOffline := some now
        totalUptime :=
          match metrics.lastOnline with
          | some onlineAt => metrics.totalUptime + (now - onlineAt)
          | none => metrics.totalUptime }
  | .recordOperation plugin description success retries =>
      { metrics with
        operations := BoundedLog.push 10000 metrics.operations
          ⟨plugin, description, success, retries, now⟩ }
  | .recordRetry => { metrics with retries := metrics.retries ++ [now] }
  | .recordBandwidth rx tx =>
      { metrics with
        bandwidthSamples :=
          BoundedLog.push 3600 metrics.bandwidthSamples ⟨rx, tx, now⟩ }
  | .snapshot => metrics.refreshTotals now

/-- The methods: atomic steps, and what is done under the mutex. -/
def methods : Protocol MetricsStore MetricsCall Nat where
  steps
    | .recordConnectivity .. | .snapshot => []
    | .recordOnline => [swapOnline, countReconnect]
    | .recordOffline => [swapOffline]
    | .recordOperation _ _ success _ =>
        [fun metrics => metrics.countOperation success]
    | .recordRetry => [countRetry]
    | .recordBandwidth rx tx =>
        [fun metrics => metrics.storeRx rx, fun metrics => metrics.storeTx tx]
  body := locked

/-- The whole method, called by one task alone. -/
def call (metrics : MetricsStore) (now : Nat) : MetricsCall → MetricsStore
  | .recordConnectivity latencyMs packetLossPct =>
      metrics.recordConnectivity latencyMs packetLossPct
  | .recordOnline => metrics.recordOnline now
  | .recordOffline => metrics.recordOffline now
  | .recordOperation plugin description success retries =>
      { metrics with
        toMetricsEngine := metrics.toMetricsEngine.recordOperation now plugin
          description success retries }
  | .recordRetry =>
      { metrics with
        toMetricsEngine := metrics.toMetricsEngine.recordRetry now }
  | .recordBandwidth rx tx => metrics.recordBandwidth now rx tx
  | .snapshot => (metrics.snapshot now).1

theorem swapOnline_of_online {metrics : MetricsStore}
    (online : metrics.isOnline = true) :
    metrics.swapOnline = (metrics, false) := by
  have unchanged : { metrics with isOnline := true } = metrics := by
    rw [← online]
  rw [swapOnline, unchanged, online, Bool.not_true]

theorem swapOffline_of_offline {metrics : MetricsStore}
    (offline : metrics.isOnline = false) :
    metrics.swapOffline = (metrics, false) := by
  have unchanged : { metrics with isOnline := false } = metrics := by
    rw [← offline]
  rw [swapOffline, unchanged, offline]

/-- A call of one task alone is the method as the rest of the program sees it. -/
theorem alone_eq_call (call : MetricsCall) (now : Nat) (metrics : MetricsStore) :
    methods.alone call now metrics = metrics.call now call := by
  cases call with
  | recordConnectivity | snapshot | recordRetry | recordBandwidth
  | recordOperation => rfl
  | recordOnline =>
      cases online : metrics.isOnline with
      | true =>
          simp [Protocol.alone, methods, workAll, swapOnline_of_online online,
            call, recordOnline, online]
      | false =>
          cases since : metrics.lastOffline with
          | none | some offlineAt =>
              simp [Protocol.alone, methods, workAll, swapOnline,
                countReconnect, locked, call, recordOnline, online, since]
  | recordOffline =>
      cases online : metrics.isOnline with
      | true =>
          cases since : metrics.lastOnline with
          | none | some onlineAt =>
              simp [Protocol.alone, methods, workAll, swapOffline, locked, call,
                recordOffline, online, since]
      | false =>
          simp [Protocol.alone, methods, workAll, swapOffline_of_offline online,
            call, recordOffline, online]

/-- A call that no other one disturbs does, step by step, what the method does. -/
theorem undisturbed_call {Task : Type*} [DecidableEq Task] (task : Task)
    (call : MetricsCall) (now : Nat) (state : State MetricsStore MetricsCall Task)
    (idle : state.phase task = .idle) (free : state.holder = none) :
    ∃ count, LabelledRun.exec (step methods) state
        (.call task call :: List.replicate count (.advance task now)) =
      some { state with shared := state.shared.call now call } := by
  rw [← alone_eq_call]
  exact exec_alone methods task call now state idle free

section Records

/-- A call that has counted and not yet recorded. -/
def owed (kind : MetricsCall) : Phase MetricsCall → ZMod (2 ^ 64)
  | .working call done =>
      if call = kind ∧ (methods.steps call).length ≤ done then 1 else 0
  | .inside call | .failed call => if call = kind then 1 else 0
  | .idle | .leaving _ => 0

/-- Neither the records nor the counter change. -/
def Leaves (records count : MetricsStore → Nat)
    (change : MetricsStore → MetricsStore) : Prop :=
  ∀ metrics, records (change metrics) = records metrics ∧
    count (change metrics) = count metrics

/-- Calls of one kind count in their last atomic step and leave one record.
Nothing else touches the counter or the records. -/
structure Counted (kind : MetricsCall) (records count : MetricsStore → Nat)
    (early : List (MetricsStore → MetricsStore × Bool))
    (last : MetricsStore → MetricsStore × Bool) : Prop where
  steps : methods.steps kind = early ++ [last]
  others : ∀ {call}, call ≠ kind → ∀ act ∈ methods.steps call,
    Leaves records count fun metrics => (act metrics).1
  otherBodies : ∀ {call}, call ≠ kind → ∀ now,
    Leaves records count (locked call now)
  waits : ∀ act ∈ early, Leaves records count fun metrics => (act metrics).1
  counts : ∀ metrics, records (last metrics).1 = records metrics ∧
    (last metrics).2 = true ∧
      count (last metrics).1 = addU64 (count metrics) 1
  recorded : ∀ now metrics,
    records (locked kind now metrics) = records metrics + 1 ∧
      count (locked kind now metrics) = count metrics

/-- The records that the counter does not show. -/
def uncounted (records count : MetricsStore → Nat) (metrics : MetricsStore) :
    ZMod (2 ^ 64) :=
  records metrics - count metrics

theorem cast_addU64 (count : Nat) :
    ((addU64 count 1 : Nat) : ZMod (2 ^ 64)) = count + 1 := by
  rw [addU64, ZMod.natCast_mod, Nat.cast_add, Nat.cast_one]

section Balance

variable {kind : MetricsCall} {records count : MetricsStore → Nat}
variable {early : List (MetricsStore → MetricsStore × Bool)}
variable {last : MetricsStore → MetricsStore × Bool}

theorem Leaves.uncounted_eq {change : MetricsStore → MetricsStore}
    (leaves : Leaves records count change) (metrics : MetricsStore) :
    uncounted records count (change metrics) =
      uncounted records count metrics := by
  rw [uncounted, uncounted, (leaves metrics).1, (leaves metrics).2]

theorem Counted.work (counted : Counted kind records count early last)
    {done : Nat} {act : MetricsStore → MetricsStore × Bool}
    (found : (methods.steps kind)[done]? = some act) (metrics : MetricsStore) :
    uncounted records count (act metrics).1 +
        owed kind (if (act metrics).2 then .working kind (done + 1) else .idle) =
      uncounted records count metrics + owed kind (.working kind done) := by
  have bound := (List.getElem?_eq_some_iff.mp found).1
  rw [counted.steps] at found
  rw [counted.steps, List.length_append, List.length_singleton] at bound
  rcases Nat.lt_succ_iff_lt_or_eq.mp bound with waiting | final
  · rw [List.getElem?_append_left waiting] at found
    have leaves := counted.waits act (List.mem_of_getElem? found)
    have notDone : ¬ early.length + 1 ≤ done := by omega
    have notLast : ¬ early.length + 1 ≤ done + 1 := by omega
    rw [leaves.uncounted_eq metrics]
    split <;> simp only [owed, counted.steps, List.length_append,
      List.length_singleton, notDone, notLast, and_false, if_false]
  · rw [final, List.getElem?_concat_length, Option.some.injEq] at found
    subst found
    obtain ⟨sameRecords, goesOn, counts⟩ := counted.counts metrics
    rw [uncounted, uncounted, sameRecords, goesOn, counts, cast_addU64]
    have notDone : ¬ early.length + 1 ≤ early.length := by omega
    simp only [owed, counted.steps, final, List.length_append,
      List.length_singleton, notDone, le_refl, and_self, and_false, if_true,
      if_false]
    ring

theorem Counted.balanced (counted : Counted kind records count early last) :
    Balanced methods (uncounted records count) (owed kind) where
  begin call := by
    by_cases same : call = kind
    · subst same
      simp [owed, counted.steps]
    · simp [owed, same]
  work call done act metrics found := by
    by_cases same : call = kind
    · subst same
      exact counted.work found metrics
    · have leaves := counted.others same act (List.mem_of_getElem? found)
      rw [leaves.uncounted_eq metrics]
      split <;> simp [owed, same]
  enter call done worked := by
    simp [owed, List.getElem?_eq_none_iff.mp worked]
  fail call done worked := by
    simp [owed, List.getElem?_eq_none_iff.mp worked]
  run call now metrics := by
    change uncounted _ _ (locked call now metrics) + _ = _
    by_cases same : call = kind
    · subst same
      obtain ⟨oneMore, sameCount⟩ := counted.recorded now metrics
      rw [uncounted, uncounted, oneMore, sameCount]
      simp only [owed, if_true, Nat.cast_add, Nat.cast_one]
      ring
    · rw [(counted.otherBodies same now).uncounted_eq metrics]
      simp [owed, same]
  leave call := rfl

end Balance

theorem refreshTotals_records (metrics : MetricsStore) (now : Nat) :
    ((metrics.refreshTotals now).retries = metrics.retries ∧
        (metrics.refreshTotals now).retryCount = metrics.retryCount) ∧
      (metrics.refreshTotals now).reconnects = metrics.reconnects ∧
        (metrics.refreshTotals now).reconnectCount = metrics.reconnectCount := by
  obtain ⟨uptime, downtime, refreshed⟩ := metrics.refreshTotals_eq now
  rw [refreshed]
  exact ⟨⟨rfl, rfl⟩, rfl, rfl⟩

theorem counted_retries :
    Counted .recordRetry (·.retries.length) (·.retryCount) [] countRetry where
  steps := rfl
  others {call} different act member metrics := by
    cases call with
    | recordRetry => exact absurd rfl different
    | recordConnectivity | snapshot => cases member
    | recordOffline | recordOperation =>
        cases List.mem_singleton.mp member
        exact ⟨rfl, rfl⟩
    | recordOnline | recordBandwidth =>
        rcases List.mem_pair.mp member with rfl | rfl <;> exact ⟨rfl, rfl⟩
  otherBodies {call} different now metrics := by
    cases call with
    | recordRetry => exact absurd rfl different
    | snapshot => simp [locked, refreshTotals_records metrics now]
    | recordConnectivity | recordOnline | recordOffline | recordOperation
    | recordBandwidth => exact ⟨rfl, rfl⟩
  waits act member := by cases member
  counts metrics := ⟨rfl, rfl, rfl⟩
  recorded now metrics := by simp [locked]

theorem counted_reconnects :
    Counted .recordOnline (·.reconnects.length) (·.reconnectCount) [swapOnline]
      countReconnect where
  steps := rfl
  others {call} different act member metrics := by
    cases call with
    | recordOnline => exact absurd rfl different
    | recordConnectivity | snapshot => cases member
    | recordOffline | recordOperation | recordRetry =>
        cases List.mem_singleton.mp member
        exact ⟨rfl, rfl⟩
    | recordBandwidth =>
        rcases List.mem_pair.mp member with rfl | rfl <;> exact ⟨rfl, rfl⟩
  otherBodies {call} different now metrics := by
    cases call with
    | recordOnline => exact absurd rfl different
    | snapshot => simp [locked, refreshTotals_records metrics now]
    | recordConnectivity | recordRetry | recordOffline | recordOperation
    | recordBandwidth => exact ⟨rfl, rfl⟩
  waits act member metrics := by
    cases List.mem_singleton.mp member
    exact ⟨rfl, rfl⟩
  counts metrics := ⟨rfl, rfl, rfl⟩
  recorded now metrics := by simp [locked]

/-- The counters show all records when all calls are over: every call that is
under way or has stopped may account for one. -/
theorem counts_match {Task : Type*} [DecidableEq Task] [Fintype Task]
    {labels : List (Label MetricsCall Nat Task)}
    {state : State MetricsStore MetricsCall Task}
    (run : LabelledRun.Run (step methods) (State.quiet .new) labels state)
    (finished : ∀ task, state.phase task = .idle) :
    state.shared.retryCount ≡ state.shared.retries.length [MOD 2 ^ 64] ∧
      state.shared.reconnectCount ≡
        state.shared.reconnects.length [MOD 2 ^ 64] := by
  have settled : ∀ {kind records count early last},
      Counted kind records count early last → uncounted records count .new = 0 →
        count state.shared ≡ records state.shared [MOD 2 ^ 64] := by
    intro kind records count early last counted fresh
    have kept := counted.balanced.run_eq run
    simp only [total, finished, State.quiet, owed, fresh, Finset.sum_const_zero,
      add_zero] at kept
    rw [← ZMod.natCast_eq_natCast_iff]
    exact (sub_eq_zero.mp kept).symm
  exact ⟨settled counted_retries (by simp [uncounted, new, MetricsEngine.new]),
    settled counted_reconnects (by simp [uncounted, new])⟩

end Records

/-- A call that has stopped has done nothing: it had no atomic steps. -/
def NothingHalfDone {Task : Type*} (state : State MetricsStore MetricsCall Task) :
    Prop :=
  ∀ task call, state.phase task = .failed call → methods.steps call = []

section Counts

variable {Task : Type*} [DecidableEq Task]
variable {labels : List (Label MetricsCall Nat Task)}
variable {state : State MetricsStore MetricsCall Task}

/-- No `try_lock` fails, and no call stops half done, exactly in the schedules in
which a call that tries the mutex finds no other call between its own
`try_lock` and its release. -/
theorem try_lock_succeeds_iff (metrics : MetricsStore)
    (run : LabelledRun.Run (step methods) (State.quiet metrics) labels state) :
    NoFailure state ∧ NothingHalfDone state ↔
      LabelledRun.Guarded (step methods) (Apart methods) (State.quiet metrics)
        labels state := by
  rw [← noFailure_iff_apart metrics run]
  refine and_iff_left_of_imp fun noFailure => ?_
  intro task call failed
  exact absurd failed (noFailure task call)

/-- Two calls under way at the same time; the retry tries the mutex when the operation
has left it. -/
def takingTurns : List (Label MetricsCall Nat Bool) :=
  [.call false (.recordOperation "git" "clone" true 0), .call true .recordRetry,
    .advance false 0, .advance true 0, .advance false 0, .advance false 5,
    .advance false 5, .advance true 5, .advance true 6, .advance true 6]

theorem try_lock_succeeds_iff_taking_turns :
    ∃ state : State MetricsStore MetricsCall Bool,
      LabelledRun.Run (step methods) (State.quiet .new) takingTurns state ∧
        state.shared.operations.length = 1 ∧ state.shared.retries = [6] ∧
        LabelledRun.Guarded (step methods) (Apart methods) (State.quiet .new)
          takingTurns state := by
  have run := @LabelledRun.run_of_exec_eq _ _ (@step _ _ _ Bool _ methods)
    (State.quiet .new) _ takingTurns rfl
  refine ⟨_, run, rfl, rfl, (try_lock_succeeds_iff .new run).mp ⟨?_, ?_⟩⟩
  · intro task call failed
    cases task <;> cases failed
  · intro task call failed
    cases task <;> cases failed

end Counts

/-- An operation is being recorded when a retry is counted.  The retry finds the
mutex taken; the operation is recorded after it. -/
def overlappingCalls : List (Label MetricsCall Nat Bool) :=
  [.call false (.recordOperation "git" "clone" true 0), .advance false 0,
    .advance false 0, .call true .recordRetry, .advance true 0, .advance true 0,
    .advance false 0, .advance false 0]

/-- The retry is counted, but it has no record, and its task is gone. -/
theorem overlapping_calls_panic : ∃ state,
    LabelledRun.Run (step methods) (State.quiet .new) overlappingCalls state ∧
      state.phase true = .failed .recordRetry ∧ state.shared.retryCount = 1 ∧
      state.shared.retries = [] ∧ ¬ NoFailure state ∧ ¬ NothingHalfDone state := by
  have run := @LabelledRun.run_of_exec_eq _ _ (step methods) (State.quiet .new) _
    overlappingCalls rfl
  refine ⟨_, run, rfl, rfl, rfl, fun noFailure => ?_, fun nothing => ?_⟩
  · exact noFailure true .recordRetry rfl
  · cases nothing true .recordRetry rfl

end MetricsStore

end NetGuardian
