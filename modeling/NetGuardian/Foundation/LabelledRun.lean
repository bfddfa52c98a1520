import Mathlib.Data.List.Induction

/-!
# Guarded runs of labelled partial steps

A system is a partial step function `State → Label → Option State`: the label
carries whatever the environment chooses, and `none` means that the label
cannot be taken.  A *guarded* run takes only steps that satisfy a guard on the
state before the step and on the label.  An unguarded run is the special case
of the trivial guard.

The rules at the end compare the two: they say when the runs that end well are
exactly the runs that met the guard at every step.
-/

namespace LabelledRun

variable {State Label : Type*}

/-- Finite runs from `first`, every step of which meets `guard`. -/
inductive Guarded (step : State → Label → Option State)
    (guard : State → Label → Prop) (first : State) :
    List Label → State → Prop
  | start : Guarded step guard first [] first
  | extend {labels : List Label} {state next : State} {label : Label} :
      Guarded step guard first labels state → guard state label →
        step state label = some next →
          Guarded step guard first (labels ++ [label]) next

/-- Finite runs without a guard. -/
abbrev Run (step : State → Label → Option State) (first : State) :
    List Label → State → Prop :=
  Guarded step (fun _ _ => True) first

/-- The state after a list of labels, if every one of them can be taken. -/
def exec (step : State → Label → Option State) (first : State)
    (labels : List Label) : Option State :=
  labels.foldlM step first

section Runs

variable {step : State → Label → Option State}
variable {guard : State → Label → Prop} {first last : State}
variable {labels : List Label}

theorem exec_append_singleton (label : Label) :
    exec step first (labels ++ [label]) =
      (exec step first labels).bind fun state => step state label := by
  simp [exec, List.foldlM_append]

theorem Guarded.exec_eq (run : Guarded step guard first labels last) :
    exec step first labels = some last := by
  induction run with
  | start => rfl
  | extend before guarded taken ih =>
      rw [exec_append_singleton, ih, Option.bind_some, taken]

/-- A concrete run can be evaluated. -/
theorem run_of_exec_eq (computed : exec step first labels = some last) :
    Run step first labels last := by
  induction labels using List.reverseRecOn generalizing last with
  | nil =>
      cases computed
      exact .start
  | append_singleton labels label ih =>
      rw [exec_append_singleton, Option.bind_eq_some_iff] at computed
      obtain ⟨state, before, taken⟩ := computed
      exact (ih before).extend trivial taken

/-- The invariant rule: what holds initially and is kept by every step that
meets the guard holds at the end of every guarded run. -/
theorem Guarded.invariant (Inv : State → Prop)
    (run : Guarded step guard first labels last) (initially : Inv first)
    (kept : ∀ state label next, Inv state → guard state label →
      step state label = some next → Inv next) :
    Inv last := by
  induction run with
  | start => exact initially
  | extend _ guarded taken ih => exact kept _ _ _ ih guarded taken

/-- A guard that an invariant of the run implies is met at every step. -/
theorem Guarded.strengthen {stronger : State → Label → Prop} (Inv : State → Prop)
    (run : Guarded step guard first labels last)
    (invariant : ∀ {labels state}, Guarded step guard first labels state →
      Inv state)
    (implied : ∀ state label, Inv state → guard state label →
      stronger state label) :
    Guarded step stronger first labels last := by
  induction run with
  | start => exact .start
  | extend before guarded taken ih =>
      exact ih.extend (implied _ _ (invariant before) guarded) taken

/-- The characterisation rule.  If guarded steps keep `Good`, unguarded steps
destroy it and no step repairs it, then a run ends in a good state exactly when
all of its steps met the guard. -/
theorem Guarded.good_iff_guarded (Inv Good : State → Prop)
    (run : Run step first labels last)
    (invInit : Inv first) (goodInit : Good first)
    (invKept : ∀ state label next, Inv state →
      step state label = some next → Inv next)
    (kept : ∀ state label next, Inv state → Good state →
      guard state label → step state label = some next → Good next)
    (broken : ∀ state label next, Inv state → ¬ guard state label →
      step state label = some next → ¬ Good next)
    (final : ∀ state label next, Inv state → ¬ Good state →
      step state label = some next → ¬ Good next) :
    Good last ↔ Guarded step guard first labels last := by
  have invLast : ∀ {labels last}, Run step first labels last → Inv last :=
    fun run => run.invariant Inv invInit fun _ _ _ inv _ => invKept _ _ _ inv
  constructor
  · intro good
    induction run with
    | start => exact .start
    | @extend labels state next label before _ taken ih =>
        have inv := invLast before
        have goodBefore : Good state := by
          by_contra bad
          exact final _ _ _ inv bad taken good
        have guarded : guard state label := by
          by_contra unguarded
          exact broken _ _ _ inv unguarded taken good
        exact (ih goodBefore).extend guarded taken
  · intro guardedRun
    have both : Inv last ∧ Good last := by
      refine guardedRun.invariant (fun state => Inv state ∧ Good state)
        ⟨invInit, goodInit⟩ ?_
      intro state label next holds guarded taken
      exact ⟨invKept _ _ _ holds.1 taken,
        kept _ _ _ holds.1 holds.2 guarded taken⟩
    exact both.2

end Runs

end LabelledRun
