import Mathlib.Data.List.DropRight
import Mathlib.Data.List.Induction

/-!
# Time spent in phases

A timeline lists, oldest first, the times at which a phase was entered; the same
phase may be entered again.  `spent` adds up the time of one phase, `since` is
the beginning of the current period, `earlier` is the timeline before it, and
`started` forgets what was before the first entry into a phase.
-/

namespace PhaseTime

variable {Phase : Type*} [DecidableEq Phase] (phase : Phase)

/-- The time spent in a phase up to `finish`. -/
def spent : List (Nat × Phase) → Nat → Nat
  | [], _ => 0
  | [(start, entered)], finish =>
      if entered = phase then finish - start else 0
  | (start, entered) :: (next, following) :: rest, finish =>
      (if entered = phase then next - start else 0) +
        spent ((next, following) :: rest) finish

/-- The beginning of the current period, if the current phase is this one. -/
def since (timeline : List (Nat × Phase)) : Option Nat :=
  (timeline.rtakeWhile fun entry => entry.2 = phase).head?.map Prod.fst

/-- The timeline without the current period. -/
def earlier (timeline : List (Nat × Phase)) : List (Nat × Phase) :=
  timeline.rdropWhile fun entry => entry.2 = phase

/-- The timeline from the first entry into a phase. -/
def started (timeline : List (Nat × Phase)) : List (Nat × Phase) :=
  timeline.dropWhile fun entry => entry.2 ≠ phase

/-- Nothing in the timeline is later. -/
def Until (timeline : List (Nat × Phase)) (finish : Nat) : Prop :=
  ∀ entry ∈ timeline, entry.1 ≤ finish

variable {phase} {timeline : List (Nat × Phase)} {time finish : Nat}
variable {entered : Phase}

/-- The last entry closes the period before it. -/
theorem spent_append :
    spent phase (timeline ++ [(time, entered)]) finish =
      spent phase timeline time +
        if entered = phase then finish - time else 0 := by
  induction timeline with
  | nil => simp [spent]
  | cons first rest ih =>
      obtain ⟨start, before⟩ := first
      cases rest with
      | nil => simp [spent]
      | cons second rest =>
          obtain ⟨next, following⟩ := second
          have tail := ih
          simp only [List.cons_append] at tail
          simp only [List.cons_append, spent, tail]
          omega

theorem spent_append_same :
    spent phase (timeline ++ [(time, phase)]) finish =
      spent phase timeline time + (finish - time) := by
  rw [spent_append, if_pos rfl]

theorem spent_append_other (differs : entered ≠ phase) :
    spent phase (timeline ++ [(time, entered)]) finish =
      spent phase timeline time := by
  rw [spent_append, if_neg differs, Nat.add_zero]

theorem since_append_same {start : Nat}
    (current : since phase timeline = some start) :
    since phase (timeline ++ [(time, phase)]) = some start := by
  unfold since at current ⊢
  rw [List.rtakeWhile_concat_pos _ _ _ (by simp)]
  cases run : timeline.rtakeWhile fun entry => entry.2 = phase with
  | nil => simp [run] at current
  | cons first rest => simpa [run] using current

theorem since_append_new (current : since phase timeline = none) :
    since phase (timeline ++ [(time, phase)]) = some time := by
  unfold since at current ⊢
  rw [List.rtakeWhile_concat_pos _ _ _ (by simp)]
  cases run : timeline.rtakeWhile fun entry => entry.2 = phase with
  | nil => simp
  | cons first rest => simp [run] at current

theorem since_append_other (differs : entered ≠ phase) :
    since phase (timeline ++ [(time, entered)]) = none := by
  unfold since
  rw [List.rtakeWhile_concat_neg _ _ _ (by simpa using differs)]
  rfl

theorem started_append (begun : started phase timeline ≠ []) :
    started phase (timeline ++ [(time, entered)]) =
      started phase timeline ++ [(time, entered)] := by
  unfold started at begun ⊢
  rw [List.dropWhile_append, if_neg (by simpa using begun)]

/-- Before the phase has been entered, only the new entry can begin it. -/
theorem started_append_of_silent (silent : started phase timeline = []) :
    started phase (timeline ++ [(time, entered)]) =
      started phase [(time, entered)] := by
  have empty : (started phase timeline).isEmpty := by
    rw [silent]
    rfl
  unfold started at empty ⊢
  rw [List.dropWhile_append, if_pos empty]

theorem started_append_first (silent : started phase timeline = []) :
    started phase (timeline ++ [(time, phase)]) = [(time, phase)] := by
  rw [started_append_of_silent silent]
  simp [started]

theorem started_append_silent (silent : started phase timeline = [])
    (differs : entered ≠ phase) :
    started phase (timeline ++ [(time, entered)]) = [] := by
  rw [started_append_of_silent silent]
  simp [started, differs]

/-- A phase that was never entered takes no time. -/
theorem spent_of_silent (silent : started phase timeline = []) :
    spent phase timeline finish = 0 := by
  induction timeline using List.reverseRecOn generalizing finish with
  | nil => rfl
  | append_singleton timeline entry ih =>
      obtain ⟨time, entered⟩ := entry
      have absent := List.dropWhile_eq_nil_iff.mp silent
      have differs : entered ≠ phase := by
        simpa using absent (time, entered) (by simp)
      have silentBefore : started phase timeline = [] := by
        apply List.dropWhile_eq_nil_iff.mpr
        intro earlier member
        exact absent earlier (List.mem_append_left _ member)
      rw [spent_append_other differs, ih silentBefore]

theorem since_of_silent (silent : started phase timeline = []) :
    since phase timeline = none := by
  have absent := List.dropWhile_eq_nil_iff.mp silent
  have noRun : timeline.rtakeWhile (fun entry => entry.2 = phase) = [] := by
    rw [List.rtakeWhile_eq_nil_iff]
    intro nonempty
    simpa using absent _ (List.getLast_mem nonempty)
  rw [since, noRun]
  rfl

/-- There is at most one current phase. -/
theorem since_other {other : Phase} (differs : phase ≠ other) {start : Nat}
    (current : since phase timeline = some start) :
    since other timeline = none := by
  induction timeline using List.reverseRecOn with
  | nil => rfl
  | append_singleton timeline entry _ =>
      obtain ⟨time, entered⟩ := entry
      by_cases same : entered = other
      · subst same
        rw [since_append_other differs.symm] at current
        cases current
      · exact since_append_other same

/-- Only what was before the first entry is forgotten. -/
theorem since_started {other : Phase} (differs : phase ≠ other)
    (begun : started phase timeline ≠ []) :
    since other (started phase timeline) = since other timeline := by
  induction timeline using List.reverseRecOn with
  | nil => exact absurd rfl begun
  | append_singleton timeline entry ih =>
      obtain ⟨time, entered⟩ := entry
      by_cases silent : started phase timeline = []
      · have first : entered = phase := by
          by_contra different
          exact begun (started_append_silent silent different)
        subst first
        rw [started_append_first silent, since_append_other differs,
          ← List.nil_append [(time, entered)], since_append_other differs]
      · rw [started_append silent]
        by_cases same : entered = other
        · subst same
          have before := ih silent
          cases current : since entered timeline with
          | none => rw [since_append_new current, since_append_new (before.trans current)]
          | some start =>
              rw [since_append_same current, since_append_same (before.trans current)]
        · rw [since_append_other same, since_append_other same]

theorem earlier_append_same :
    earlier phase (timeline ++ [(time, phase)]) = earlier phase timeline :=
  List.rdropWhile_concat_pos _ _ _ (by simp)

/-- Outside of the phase nothing is dropped. -/
theorem earlier_of_since_eq_none (absent : since phase timeline = none) :
    earlier phase timeline = timeline := by
  induction timeline using List.reverseRecOn with
  | nil => rfl
  | append_singleton timeline entry _ =>
      obtain ⟨time, entered⟩ := entry
      have differs : entered ≠ phase := by
        rintro rfl
        cases current : since entered timeline with
        | none =>
            rw [since_append_new current] at absent
            cases absent
        | some start =>
            rw [since_append_same current] at absent
            cases absent
      exact List.rdropWhile_concat_neg _ _ _ (by simpa using differs)

omit [DecidableEq Phase] in
theorem Until.of_append (ends : Until (timeline ++ [(time, entered)]) finish) :
    Until timeline finish ∧ time ≤ finish :=
  ⟨fun entry member => ends entry (List.mem_append_left _ member),
    ends (time, entered) (by simp)⟩

/-- The time in a phase is that of the earlier periods and of the current one. -/
theorem spent_eq_earlier_add {start : Nat}
    (ordered : (timeline.map Prod.fst ++ [finish]).Pairwise (· ≤ ·))
    (current : since phase timeline = some start) :
    start ≤ finish ∧ spent phase timeline finish =
      spent phase (earlier phase timeline) start + (finish - start) := by
  induction timeline using List.reverseRecOn generalizing finish with
  | nil => cases current
  | append_singleton timeline entry ih =>
      obtain ⟨time, entered⟩ := entry
      rw [List.map_append, List.pairwise_append] at ordered
      obtain ⟨before, _, last⟩ := ordered
      have timeLe : time ≤ finish := last time (by simp) finish List.mem_cons_self
      have same : entered = phase := by
        by_contra differs
        rw [since_append_other differs] at current
        cases current
      subst same
      rw [spent_append_same, earlier_append_same]
      cases already : since entered timeline with
      | none =>
          rw [since_append_new already, Option.some.injEq] at current
          subst current
          rw [earlier_of_since_eq_none already]
          exact ⟨timeLe, rfl⟩
      | some first =>
          rw [since_append_same already, Option.some.injEq] at current
          subst current
          obtain ⟨startLe, total⟩ := ih before already
          refine ⟨startLe.trans timeLe, ?_⟩
          rw [total]
          omega

end PhaseTime
