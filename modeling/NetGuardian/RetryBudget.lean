import NetGuardian.RetryEngine

/-!
# The retry budget

`should_retry` asks for a retry and `next_retry` takes one; each of them has the
admission rule for itself.  The two agree, so that the retries granted since the
last `reset` and the remaining ones make up the budget in every run.
-/

namespace NetGuardian

/-- One more attempt. -/
def RetryState.advance (state : RetryState) : RetryState :=
  { state with attempt := state.attempt + 1 }

namespace RetryEngine

variable {engine : RetryEngine} {now : Nat} {jitter : ℚ}

theorem nextRetry_of_allowed (allowed : engine.shouldRetry now = true)
    (jitter : ℚ) :
    engine.nextRetry now jitter =
      ({ engine with state := engine.state.advance },
        some (engine.state.advance.calculateDelay jitter)) := by
  obtain ⟨left, circuit⟩ := Bool.and_eq_true_iff.mp allowed
  have unspent : ¬ engine.state.maxRetries ≤ engine.state.attempt :=
    Nat.not_le.mpr (of_decide_eq_true left)
  rw [nextRetry, RetryState.nextDelay, if_neg unspent, circuit]
  rfl

theorem nextRetry_of_refused (refused : engine.shouldRetry now = false)
    (jitter : ℚ) : engine.nextRetry now jitter = (engine, none) := by
  have unchanged : engine.state.nextDelay now jitter = (engine.state, none) := by
    rcases Bool.and_eq_false_iff.mp refused with spent | circuit
    · have noneLeft : engine.state.maxRetries ≤ engine.state.attempt :=
        Nat.not_lt.mp (of_decide_eq_false spent)
      rw [RetryState.nextDelay, if_pos noneLeft]
    · simp [RetryState.nextDelay, circuit]
  rw [nextRetry, unchanged]

/-- `next_retry` at a reading of the clock does what `should_retry` says. -/
def FollowsShouldRetry (engine : RetryEngine) : Prop :=
  ∀ now jitter,
    (engine.shouldRetry now = true ↔
      (engine.nextRetry now jitter).2.isSome = true) ∧
    ((engine.nextRetry now jitter).2.isSome = true →
      (engine.nextRetry now jitter).1.state.attempt = engine.state.attempt + 1) ∧
    ((engine.nextRetry now jitter).2 = none →
      (engine.nextRetry now jitter).1 = engine)

theorem followsShouldRetry (engine : RetryEngine) : engine.FollowsShouldRetry := by
  intro now jitter
  cases asked : engine.shouldRetry now with
  | true =>
      rw [nextRetry_of_allowed asked]
      simp [RetryState.advance]
  | false =>
      rw [nextRetry_of_refused asked]
      simp

end RetryEngine

/-- An engine, and the number of retries granted since the last `reset`. -/
structure BudgetRun where
  engine : RetryEngine
  granted : Nat

namespace BudgetRun

def take (run : BudgetRun) (call : Nat × RetryOp) : BudgetRun where
  engine := run.engine.apply call
  granted :=
    match call.2 with
    | .nextRetry jitter =>
        if (run.engine.nextRetry call.1 jitter).2.isSome then run.granted + 1
        else run.granted
    | .reset => 0
    | _ => run.granted

/-- A new engine after some calls. -/
def after (maxRetries : Nat) (policy : RetryPolicy)
    (calls : List (Nat × RetryOp)) : BudgetRun :=
  calls.foldl take ⟨.new maxRetries policy, 0⟩

theorem engine_after (maxRetries : Nat) (policy : RetryPolicy)
    (calls : List (Nat × RetryOp)) :
    (after maxRetries policy calls).engine =
      calls.foldl RetryEngine.apply (.new maxRetries policy) := by
  induction calls using List.reverseRecOn with
  | nil => rfl
  | append_singleton calls call ih =>
      rw [List.foldl_append, ← ih, after, List.foldl_append]
      rfl

/-- The attempts are the granted retries, and the budget bounds them. -/
structure InBudget (maxRetries : Nat) (run : BudgetRun) : Prop where
  budget : run.engine.state.maxRetries = maxRetries
  attempt : run.engine.state.attempt = run.granted
  atMost : run.granted ≤ maxRetries

section Budget

variable {maxRetries : Nat} {run : BudgetRun}

theorem InBudget.take (held : InBudget maxRetries run) (call : Nat × RetryOp) :
    InBudget maxRetries (run.take call) := by
  have budget : (run.take call).engine.state.maxRetries = maxRetries :=
    (run.engine.apply_maxRetries call).trans held.budget
  obtain ⟨now, operation⟩ := call
  cases operation with
  | recordFailure errorMsg => exact ⟨budget, held.attempt, held.atMost⟩
  | recordSuccess => exact ⟨budget, held.attempt, held.atMost⟩
  | shouldRetry => exact ⟨budget, held.attempt, held.atMost⟩
  | withNetworkConditions latencyMs packetLossPct =>
      exact ⟨budget, held.attempt, held.atMost⟩
  | reset => exact ⟨budget, rfl, Nat.zero_le _⟩
  | nextRetry jitter =>
      cases asked : run.engine.shouldRetry now with
      | false =>
          have same : run.take (now, .nextRetry jitter) = run := by
            simp [BudgetRun.take, RetryEngine.apply,
              RetryEngine.nextRetry_of_refused asked]
          rw [same]
          exact held
      | true =>
          have next : run.take (now, .nextRetry jitter) =
              ⟨{ run.engine with state := run.engine.state.advance },
                run.granted + 1⟩ := by
            simp [BudgetRun.take, RetryEngine.apply,
              RetryEngine.nextRetry_of_allowed asked]
          have left := of_decide_eq_true (Bool.and_eq_true_iff.mp asked).1
          rw [held.attempt, held.budget] at left
          rw [next]
          exact ⟨held.budget, congrArg Nat.succ held.attempt, left⟩

theorem inBudget_after (maxRetries : Nat) (policy : RetryPolicy)
    (calls : List (Nat × RetryOp)) :
    InBudget maxRetries (after maxRetries policy calls) := by
  induction calls using List.reverseRecOn with
  | nil => exact ⟨rfl, rfl, Nat.zero_le _⟩
  | append_singleton calls call ih =>
      rw [after, List.foldl_append]
      exact ih.take call

/-- In every run `next_retry` follows `should_retry`, and the retries granted
since the last `reset` and the remaining ones make up the budget. -/
theorem budget_exact (maxRetries : Nat) (policy : RetryPolicy)
    (calls : List (Nat × RetryOp)) :
    (calls.foldl RetryEngine.apply (.new maxRetries policy)).FollowsShouldRetry ∧
      (after maxRetries policy calls).granted +
          (calls.foldl RetryEngine.apply
            (.new maxRetries policy)).state.remaining = maxRetries := by
  refine ⟨RetryEngine.followsShouldRetry _, ?_⟩
  obtain ⟨budget, attempt, atMost⟩ := inBudget_after maxRetries policy calls
  rw [← engine_after, RetryState.remaining, budget, attempt]
  omega

end Budget

end BudgetRun

end NetGuardian
