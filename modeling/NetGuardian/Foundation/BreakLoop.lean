import Mathlib.Data.List.Basic

/-!
# Loops that end by their condition or by a break

`while condition { match body { Some(output) => .., None => break } }` on a state:
`Ends` relates the state before the loop to the outputs of its rounds and to the
state after it.  A loop whose body makes a measure smaller ends within as many
rounds as the measure says.
-/

namespace BreakLoop

variable {State Output : Type*}

inductive Ends (condition : State → Prop)
    (body : State → Option (State × Output)) :
    State → List Output → State → Prop
  | finished {state : State} : ¬ condition state →
      Ends condition body state [] state
  | broken {state : State} : condition state → body state = none →
      Ends condition body state [] state
  | round {state next final : State} {output : Output} {outputs : List Output} :
      condition state → body state = some (next, output) →
        Ends condition body next outputs final →
          Ends condition body state (output :: outputs) final

variable {condition : State → Prop} {body : State → Option (State × Output)}
variable {state final : State} {outputs : List Output}

/-- Every round makes the measure smaller. -/
theorem Ends.length_add_le (measure : State → Nat)
    (smaller : ∀ state next output, body state = some (next, output) →
      measure next < measure state)
    (ends : Ends condition body state outputs final) :
    outputs.length + measure final ≤ measure state := by
  induction ends with
  | finished fails => simp
  | broken goesOn stuck => simp
  | round goesOn taken _ ih =>
      have decreased := smaller _ _ _ taken
      rw [List.length_cons]
      omega

/-- What every round keeps holds after the loop. -/
theorem Ends.invariant (Inv : State → Prop)
    (ends : Ends condition body state outputs final) (initially : Inv state)
    (kept : ∀ state next output, Inv state →
      body state = some (next, output) → Inv next) : Inv final := by
  induction ends with
  | finished fails => exact initially
  | broken goesOn stuck => exact initially
  | round goesOn taken _ ih => exact ih (kept _ _ _ initially taken)

/-- A loop without rounds leaves the state alone. -/
theorem Ends.unchanged (ends : Ends condition body state [] final) :
    final = state := by
  cases ends with
  | finished fails => rfl
  | broken goesOn stuck => rfl

end BreakLoop
