import NetGuardian.Foundation.LabelledRun

/-!
# Logs and the machines that read them

A system that appends to a log is described from outside by a machine that reads
the log.  The machine is a labelled step function itself, with the entries of the
log as its labels.  If every step of the system appends entries that the machine
can read, and a relation between the states of the two is kept, then the machine
reads the log of every run.
-/

namespace LabelledRun

variable {State Label Entry Reader : Type*}

section Splitting

variable {step : State → Label → Option State} {first last : State}
variable {earlier later : List Label} {label : Label}

theorem Guarded.append {guard : State → Label → Prop} {middle : State}
    (before : Guarded step guard first earlier middle)
    (after : Guarded step guard middle later last) :
    Guarded step guard first (earlier ++ later) last := by
  induction after with
  | start =>
      rw [List.append_nil]
      exact before
  | extend _ guarded taken ih =>
      rw [← List.append_assoc]
      exact ih.extend guarded taken

theorem run_append_iff :
    Run step first (earlier ++ later) last ↔
      ∃ middle, Run step first earlier middle ∧ Run step middle later last := by
  constructor
  · intro run
    have computed := run.exec_eq
    rw [exec, List.foldlM_append] at computed
    obtain ⟨middle, before, after⟩ := Option.bind_eq_some_iff.mp computed
    exact ⟨middle, run_of_exec_eq before, run_of_exec_eq after⟩
  · rintro ⟨middle, before, after⟩
    exact before.append after

theorem run_cons_iff :
    Run step first (label :: later) last ↔
      ∃ middle, step first label = some middle ∧ Run step middle later last := by
  constructor
  · intro run
    have computed := run.exec_eq
    rw [exec, List.foldlM_cons] at computed
    obtain ⟨middle, taken, after⟩ := Option.bind_eq_some_iff.mp computed
    exact ⟨middle, taken, run_of_exec_eq after⟩
  · rintro ⟨middle, taken, after⟩
    exact (Guarded.start.extend trivial taken).append after

/-- A guard that every label of a run meets in any state. -/
theorem guarded_of_forall {guard : State → Label → Prop} {labels : List Label}
    (run : Run step first labels last)
    (met : ∀ label ∈ labels, ∀ state, guard state label) :
    Guarded step guard first labels last := by
  induction run with
  | start => exact .start
  | extend _ _ taken ih =>
      refine (ih fun label member => met label ?_).extend (met _ ?_ _) taken
      · exact List.mem_append_left _ member
      · exact List.mem_append_right _ List.mem_cons_self

/-- What a guard says of the label alone holds of all labels of a run. -/
theorem Guarded.forall_labels {guard : State → Label → Prop} {labels : List Label}
    {meets : Label → Prop} (run : Guarded step guard first labels last)
    (implied : ∀ state label, guard state label → meets label) :
    ∀ label ∈ labels, meets label := by
  induction run with
  | start => exact fun _ none => by cases none
  | extend _ admitted _ ih =>
      intro label member
      rcases List.mem_append.mp member with old | new
      · exact ih label old
      · rw [List.mem_singleton.mp new]
        exact implied _ _ admitted

end Splitting

variable {step : State → Label → Option State}
variable {guard : State → Label → Prop} {first last : State}
variable {labels : List Label}

/-- The simulation rule for logs. -/
theorem Guarded.reads (log : State → List Entry)
    (read : Reader → Entry → Option Reader) (start : Reader)
    (Related : State → Reader → Prop)
    (run : Guarded step guard first labels last)
    (silent : log first = []) (related : Related first start)
    (simulates : ∀ state label next reader, Related state reader →
      guard state label → step state label = some next →
        ∃ entries after, log next = log state ++ entries ∧
          Run read reader entries after ∧ Related next after) :
    ∃ reader, Run read start (log last) reader ∧ Related last reader := by
  refine run.invariant
    (fun state => ∃ reader, Run read start (log state) reader ∧
      Related state reader) ⟨start, ?_, related⟩ ?_
  · rw [silent]
    exact .start
  · rintro state label next ⟨reader, reading, now⟩ guarded taken
    obtain ⟨entries, after, grown, more, then_⟩ :=
      simulates state label next reader now guarded taken
    rw [grown]
    exact ⟨after, reading.append more, then_⟩

end LabelledRun
