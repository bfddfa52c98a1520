import NetGuardian.Foundation.LabelledRun

/-!
# Addressing what has ended

A system addresses cells, and now and then learns that a cell has ended.  What
it has learned so far is history, which the system itself does not keep; it may
keep a record per cell instead, which later steps can overwrite.

A recorder is *faithful* when only an overwriting step can lose a record.  For a
faithful recorder no ended cell is ever addressed in the runs in which every
step leaves the cells alone that are on record.  Conversely, a run that addresses
no ended cell addresses none that is on record.
-/

namespace EndRecords

open LabelledRun

/-- What a step learns, whom it addresses and whose record it overwrites, and the
record of the ends. -/
structure Recorder (State Label Cell : Type*) where
  step : State → Label → Option State
  learns : State → Label → List Cell
  addresses : State → Label → List Cell
  overwrites : State → Label → List Cell
  ended : State → Cell → Prop

/-- A state with its history: the ends learned so far, and the cells that were
addressed after their end. -/
structure Observed (State Cell : Type*) where
  state : State
  known : List Cell
  late : List Cell

namespace Recorder

variable {State Label Cell : Type*}

/-- A step, and what it adds to the history. -/
def observe [DecidableEq Cell] (recorder : Recorder State Label Cell)
    (observed : Observed State Cell) (label : Label) :
    Option (Observed State Cell) :=
  (recorder.step observed.state label).map fun next =>
    { state := next
      known := observed.known ++ recorder.learns observed.state label
      late := observed.late ++
        (recorder.addresses observed.state label).filter
          (· ∈ observed.known) }

def start (first : State) : Observed State Cell where
  state := first
  known := []
  late := []

/-- The step addresses nothing that is on record. -/
def Heeds (recorder : Recorder State Label Cell)
    (observed : Observed State Cell) (label : Label) : Prop :=
  ∀ cell ∈ recorder.addresses observed.state label,
    ¬ recorder.ended observed.state cell

/-- The step neither addresses nor overwrites anything that is on record. -/
def Spares (recorder : Recorder State Label Cell)
    (observed : Observed State Cell) (label : Label) : Prop :=
  ∀ cell, cell ∈ recorder.addresses observed.state label ∨
      cell ∈ recorder.overwrites observed.state label →
    ¬ recorder.ended observed.state cell

/-- The record follows the history, as far as no record is overwritten. -/
structure Faithful (recorder : Recorder State Label Cell)
    (Inv : State → Prop) : Prop where
  keeps : ∀ {state label next}, Inv state →
    recorder.step state label = some next → Inv next
  recorded : ∀ {state label next cell}, Inv state →
    recorder.step state label = some next →
      cell ∈ recorder.learns state label → recorder.ended next cell
  kept : ∀ {state label next cell}, Inv state →
    recorder.step state label = some next → recorder.ended state cell →
      cell ∉ recorder.overwrites state label → recorder.ended next cell
  only : ∀ {state label next cell}, Inv state →
    recorder.step state label = some next → recorder.ended next cell →
      recorder.ended state cell ∨ cell ∈ recorder.learns state label

section Faithful

variable [DecidableEq Cell] {recorder : Recorder State Label Cell}
variable {Inv : State → Prop} {observed next last : Observed State Cell}
variable {first : State} {label : Label} {labels : List Label}

/-- Everything an observed step can do. -/
theorem observe_eq_some (taken : recorder.observe observed label = some next) :
    recorder.step observed.state label = some next.state ∧
      next.known = observed.known ++ recorder.learns observed.state label ∧
      next.late = observed.late ++
        (recorder.addresses observed.state label).filter
          (· ∈ observed.known) := by
  obtain ⟨state, step, rfl⟩ := Option.map_eq_some_iff.mp taken
  exact ⟨step, rfl, rfl⟩

/-- A step is in time exactly when it addresses nothing that is known to have
ended. -/
theorem late_observe_eq_nil
    (taken : recorder.observe observed label = some next) :
    next.late = [] ↔ observed.late = [] ∧
      ∀ cell ∈ recorder.addresses observed.state label,
        cell ∉ observed.known := by
  obtain ⟨_, _, late⟩ := observe_eq_some taken
  rw [late, List.append_eq_nil_iff, List.filter_eq_nil_iff]
  simp

/-- Whatever is known to have ended is on record, and nothing was addressed
late. -/
structure OnRecord (recorder : Recorder State Label Cell) (Inv : State → Prop)
    (observed : Observed State Cell) : Prop where
  inv : Inv observed.state
  inTime : observed.late = []
  ended : ∀ cell ∈ observed.known, recorder.ended observed.state cell

theorem OnRecord.observe (faithful : recorder.Faithful Inv)
    (held : recorder.OnRecord Inv observed)
    (spares : recorder.Spares observed label)
    (taken : recorder.observe observed label = some next) :
    recorder.OnRecord Inv next := by
  obtain ⟨step, known, _⟩ := observe_eq_some taken
  refine ⟨faithful.keeps held.inv step, ?_, ?_⟩
  · rw [late_observe_eq_nil taken]
    refine ⟨held.inTime, ?_⟩
    intro cell addressed old
    exact spares cell (.inl addressed) (held.ended cell old)
  · intro cell learned
    rw [known, List.mem_append] at learned
    rcases learned with old | new
    · have before := held.ended cell old
      apply faithful.kept held.inv step before
      intro overwritten
      exact spares cell (.inr overwritten) before
    · exact faithful.recorded held.inv step new

/-- No ended cell is addressed in a run whose steps all spare the record. -/
theorem Faithful.late_eq_nil (faithful : recorder.Faithful Inv)
    (run : Guarded recorder.observe recorder.Spares (start first) labels last)
    (initially : Inv first) : last.late = [] := by
  have held : recorder.OnRecord Inv last := by
    refine run.invariant (recorder.OnRecord Inv) ⟨initially, rfl, ?_⟩ ?_
    · intro cell known
      cases known
    · intro observed label next held spares taken
      exact held.observe faithful spares taken
  exact held.inTime

/-- Whatever is on record is known to have ended. -/
theorem Faithful.known_of_ended (faithful : recorder.Faithful Inv)
    (run : Run recorder.observe (start first) labels last)
    (initially : Inv first) (clear : ∀ cell, ¬ recorder.ended first cell) :
    Inv last.state ∧
      ∀ cell, recorder.ended last.state cell → cell ∈ last.known := by
  refine run.invariant (fun observed => Inv observed.state ∧
    ∀ cell, recorder.ended observed.state cell → cell ∈ observed.known)
    ⟨initially, fun cell ended => absurd ended (clear cell)⟩ ?_
  rintro observed label next ⟨inv, before⟩ _ taken
  obtain ⟨step, known, _⟩ := observe_eq_some taken
  refine ⟨faithful.keeps inv step, fun cell ended => ?_⟩
  rw [known, List.mem_append]
  rcases faithful.only inv step ended with old | new
  · exact .inl (before cell old)
  · exact .inr new

/-- In a run that addresses no ended cell, no step addresses one that is on
record. -/
theorem Faithful.heeds_of_late_eq_nil (faithful : recorder.Faithful Inv)
    (run : Run recorder.observe (start first) labels last)
    (initially : Inv first) (clear : ∀ cell, ¬ recorder.ended first cell)
    (inTime : last.late = []) :
    Guarded recorder.observe recorder.Heeds (start first) labels last := by
  induction run with
  | start => exact .start
  | extend before _ taken ih =>
      obtain ⟨inTimeBefore, unknown⟩ := (late_observe_eq_nil taken).mp inTime
      have recorded := (faithful.known_of_ended before initially clear).2
      refine (ih inTimeBefore).extend ?_ taken
      intro cell addressed ended
      exact unknown cell addressed (recorded cell ended)

end Faithful

end Recorder

end EndRecords
