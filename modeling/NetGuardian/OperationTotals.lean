import NetGuardian.MetricsLocking

/-!
# The totals of the operations

A recorded operation is counted twice: in the counter of its kind, and by its entry
in a list that keeps ten thousand.  A snapshot takes the total from the length of the
list and the numbers of the two kinds from the counters, so the three fit together
as long as no entry has been dropped.
-/

namespace NetGuardian

/-- The entry that a call adds to the list of operations. -/
def MetricsCall.operation (now : Nat) : MetricsCall → Option OperationRecord
  | .recordOperation plugin description success retries =>
      some ⟨plugin, description, success, retries, now⟩
  | _ => none

namespace MetricsStore

/-- A fresh engine after a run of calls with their readings of the clock. -/
def afterCalls (calls : List (Nat × MetricsCall)) : MetricsStore :=
  calls.foldl (fun metrics timed => metrics.call timed.1 timed.2) .new

theorem afterCalls_append (calls : List (Nat × MetricsCall)) (now : Nat)
    (call : MetricsCall) :
    afterCalls (calls ++ [(now, call)]) = (afterCalls calls).call now call := by
  rw [afterCalls, List.foldl_append]
  rfl

/-- The operations recorded in a run. -/
def operationsOf (calls : List (Nat × MetricsCall)) : List OperationRecord :=
  calls.filterMap fun timed => timed.2.operation timed.1

/-- How many of the recorded operations had the outcome. -/
def outcomes (calls : List (Nat × MetricsCall)) (success : Bool) : Nat :=
  (operationsOf calls).countP (·.success = success)

/-- The three numbers of a snapshot are those of the recorded operations. -/
structure OperationsAddUp (calls : List (Nat × MetricsCall))
    (snapshot : MetricsSnapshot) : Prop where
  sum : snapshot.totalOperations =
    snapshot.successfulOperations + snapshot.failedOperations
  total : snapshot.totalOperations = (operationsOf calls).length
  successful : snapshot.successfulOperations = outcomes calls true
  failed : snapshot.failedOperations = outcomes calls false

/-- What the engine keeps of the recorded operations. -/
structure KeepsOperations (calls : List (Nat × MetricsCall))
    (metrics : MetricsStore) : Prop where
  operations : metrics.operations = BoundedLog.newest 10000 (operationsOf calls)
  successOps : metrics.successOps = outcomes calls true % 2 ^ 64
  failedOps : metrics.failedOps = outcomes calls false % 2 ^ 64

/-- The records that have nothing to do with being online. -/
structure SameRecords (before after : MetricsStore) : Prop where
  operations : after.operations = before.operations
  successOps : after.successOps = before.successOps
  failedOps : after.failedOps = before.failedOps
  latencies : after.latencies = before.latencies
  packetLosses : after.packetLosses = before.packetLosses

section SameRecords

variable (metrics : MetricsStore) (now : Nat)

theorem sameRecords_recordOnline : metrics.SameRecords (metrics.recordOnline now) := by
  rw [recordOnline]
  split
  · exact ⟨rfl, rfl, rfl, rfl, rfl⟩
  · exact ⟨rfl, rfl, rfl, rfl, rfl⟩

theorem sameRecords_recordOffline :
    metrics.SameRecords (metrics.recordOffline now) := by
  rw [recordOffline]
  split
  · exact ⟨rfl, rfl, rfl, rfl, rfl⟩
  · exact ⟨rfl, rfl, rfl, rfl, rfl⟩

theorem sameRecords_refreshTotals :
    metrics.SameRecords (metrics.refreshTotals now) := by
  obtain ⟨uptime, downtime, refreshed⟩ := metrics.refreshTotals_eq now
  rw [refreshed]
  exact ⟨rfl, rfl, rfl, rfl, rfl⟩

end SameRecords

section Totals

variable {calls : List (Nat × MetricsCall)} {metrics : MetricsStore}
variable {now : Nat} {call : MetricsCall}

theorem operationsOf_append_of_none (other : call.operation now = none) :
    operationsOf (calls ++ [(now, call)]) = operationsOf calls := by
  simp [operationsOf, other]

theorem operationsOf_append_of_some {operation : OperationRecord}
    (recorded : call.operation now = some operation) :
    operationsOf (calls ++ [(now, call)]) = operationsOf calls ++ [operation] := by
  simp [operationsOf, recorded]

/-- Each operation is of one of the two kinds. -/
theorem outcomes_add (calls : List (Nat × MetricsCall)) :
    outcomes calls true + outcomes calls false = (operationsOf calls).length := by
  have split := (operationsOf calls).length_eq_countP_add_countP (·.success = true)
  rw [outcomes, outcomes, split]
  simp

/-- A call that records no operation leaves all three alone. -/
theorem call_operations_of_none (other : call.operation now = none) :
    (metrics.call now call).operations = metrics.operations ∧
      (metrics.call now call).successOps = metrics.successOps ∧
      (metrics.call now call).failedOps = metrics.failedOps := by
  cases call with
  | recordConnectivity | recordRetry | recordBandwidth => exact ⟨rfl, rfl, rfl⟩
  | recordOnline =>
      have same := metrics.sameRecords_recordOnline now
      exact ⟨same.operations, same.successOps, same.failedOps⟩
  | recordOffline =>
      have same := metrics.sameRecords_recordOffline now
      exact ⟨same.operations, same.successOps, same.failedOps⟩
  | recordOperation => cases other
  | snapshot =>
      have same := metrics.sameRecords_refreshTotals now
      exact ⟨same.operations, same.successOps, same.failedOps⟩

theorem outcomes_append_of_some {operation : OperationRecord}
    (recorded : call.operation now = some operation) (success : Bool) :
    outcomes (calls ++ [(now, call)]) success =
      outcomes calls success + if operation.success = success then 1 else 0 := by
  rw [outcomes, operationsOf_append_of_some recorded, List.countP_append,
    List.countP_singleton, outcomes]
  simp

/-- A counter with wrap-around follows the number it counts. -/
theorem addU64_mod (count : Nat) : addU64 (count % 2 ^ 64) 1 = (count + 1) % 2 ^ 64 := by
  rw [addU64]
  omega

theorem KeepsOperations.called (keeps : KeepsOperations calls metrics) :
    KeepsOperations (calls ++ [(now, call)]) (metrics.call now call) := by
  cases recorded : call.operation now with
  | none =>
      obtain ⟨operations, successOps, failedOps⟩ :=
        @call_operations_of_none metrics now call recorded
      have same : ∀ success,
          outcomes (calls ++ [(now, call)]) success = outcomes calls success := by
        intro success
        rw [outcomes, operationsOf_append_of_none recorded, outcomes]
      refine ⟨?_, ?_, ?_⟩
      · rw [operations, operationsOf_append_of_none recorded, keeps.operations]
      · rw [successOps, same, keeps.successOps]
      · rw [failedOps, same, keeps.failedOps]
  | some operation =>
      have counted := @outcomes_append_of_some calls now call operation recorded
      cases call with
      | recordOperation plugin description success retries =>
          cases recorded
          refine ⟨?_, ?_, ?_⟩
          · rw [operationsOf_append_of_some rfl, ← BoundedLog.push_newest,
              ← keeps.operations]
            rfl
          · change (if success then addU64 metrics.successOps 1
              else metrics.successOps) = _
            rw [counted, keeps.successOps]
            cases success with
            | true => exact addU64_mod _
            | false => rfl
          · change (if success then metrics.failedOps
              else addU64 metrics.failedOps 1) = _
            rw [counted, keeps.failedOps]
            cases success with
            | true => rfl
            | false => exact addU64_mod _
      | _ => cases recorded

/-- In every run the list is a window on the recorded operations, and the counters
follow their numbers. -/
theorem keepsOperations_afterCalls (calls : List (Nat × MetricsCall)) :
    KeepsOperations calls (afterCalls calls) := by
  induction calls using List.reverseRecOn with
  | nil => exact ⟨rfl, rfl, rfl⟩
  | append_singleton calls timed ih =>
      rw [afterCalls_append]
      exact ih.called

/-- The total of a snapshot is cut off at ten thousand. -/
theorem totalOperations_snapshot :
    ((afterCalls calls).snapshot now).2.totalOperations =
      min (operationsOf calls).length 10000 := by
  have same := (afterCalls calls).sameRecords_refreshTotals now
  change ((afterCalls calls).refreshTotals now).operations.length = _
  rw [same.operations, (keepsOperations_afterCalls calls).operations, BoundedLog.newest,
    List.length_drop]
  omega

/-- The counters of a snapshot are the numbers of the two kinds, wrapped around. -/
theorem outcomes_snapshot :
    ((afterCalls calls).snapshot now).2.successfulOperations =
        outcomes calls true % 2 ^ 64 ∧
      ((afterCalls calls).snapshot now).2.failedOperations =
        outcomes calls false % 2 ^ 64 := by
  have same := (afterCalls calls).sameRecords_refreshTotals now
  have keeps := keepsOperations_afterCalls calls
  exact ⟨same.successOps.trans keeps.successOps, same.failedOps.trans keeps.failedOps⟩

/-- Operation counts: after any run of calls, the three numbers of a snapshot are
those of the recorded operations, and the total is the sum of the two kinds, if and
only if at most ten thousand operations have been recorded. -/
theorem operationsAddUp_iff (calls : List (Nat × MetricsCall)) (now : Nat) :
    OperationsAddUp calls ((afterCalls calls).snapshot now).2 ↔
      (operationsOf calls).length ≤ 10000 := by
  have kinds := outcomes_add calls
  have total := @totalOperations_snapshot calls now
  have counters := @outcomes_snapshot calls now
  constructor
  · intro addUp
    have whole := addUp.total
    omega
  · intro few
    refine ⟨?_, ?_, ?_, ?_⟩
    all_goals omega

/-- After ten thousand and one successful downloads a snapshot shows ten thousand
operations. -/
theorem total_stops_growing :
    ∃ calls now,
      ((afterCalls calls).snapshot now).2.totalOperations = 10000 ∧
        ((afterCalls calls).snapshot now).2.successfulOperations = 10001 ∧
        ¬ OperationsAddUp calls ((afterCalls calls).snapshot now).2 := by
  let calls : Nat → List (Nat × MetricsCall) :=
    fun count => List.replicate count (0, .recordOperation "download" "file" true 0)
  have recorded : ∀ count, operationsOf (calls count) =
      List.replicate count ⟨"download", "file", true, 0, 0⟩ :=
    fun _ => List.filterMap_replicate_of_some rfl
  have total : ((afterCalls (calls 10001)).snapshot 0).2.totalOperations = 10000 := by
    rw [totalOperations_snapshot, recorded, List.length_replicate]
    rfl
  have successful :
      ((afterCalls (calls 10001)).snapshot 0).2.successfulOperations = 10001 := by
    rw [outcomes_snapshot.1, outcomes, recorded, List.countP_replicate]
    rfl
  refine ⟨calls 10001, 0, total, successful, fun addUp => ?_⟩
  have sum := addUp.sum
  omega

end Totals

end MetricsStore

end NetGuardian
