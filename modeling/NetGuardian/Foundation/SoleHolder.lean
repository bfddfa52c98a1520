import Mathlib.Data.Multiset.UnionInter
import NetGuardian.Foundation.CooperativeTasks

/-!
# Who holds what

Two facts about pools of cooperative tasks.  A mutex whose guards all come from
acquisitions has one holder at most.  And when no segment creates keys, but only
hands them over from the shared state to its task, keys that are distinct in the
beginning stay distinct, wherever they are.
-/

namespace CooperativeTasks

open LabelledRun

variable {Mutex Shared Frame Answer Key : Type*}

/-- A task gets a guard of the mutex by acquiring it. -/
structure Acquires (program : Program Mutex Shared Frame Answer)
    (mutex : Mutex) : Prop where
  entry : ∀ frame, program.entry frame = true → mutex ∉ program.guards frame
  resume : ∀ shared frame answer after next,
    program.resume shared frame answer = some (after, next) →
      mutex ∈ program.guards next →
        mutex ∈ program.guards frame ∨ program.awaits frame = some mutex

/-- At most one task has a guard of the mutex. -/
def SoleHolder (program : Program Mutex Shared Frame Answer) (mutex : Mutex)
    (tasks : List Frame) : Prop :=
  ∀ (first second : Nat) (one other : Frame), tasks[first]? = some one →
    tasks[second]? = some other → mutex ∈ program.guards one →
      mutex ∈ program.guards other → first = second

section SoleHolder

variable [DecidableEq Mutex] {program : Program Mutex Shared Frame Answer}
variable {mutex : Mutex} {pool next : Pool Shared Frame}
variable {label : Label Frame Answer}

theorem soleHolder_step (acquires : Acquires program mutex)
    (sole : SoleHolder program mutex pool.tasks)
    (taken : step program pool label = some next) :
    SoleHolder program mutex next.tasks := by
  cases label with
  | start frame =>
      obtain ⟨entry, rfl⟩ := step_start taken
      have old : ∀ (index : Nat) (task : Frame),
          (pool.tasks ++ [frame])[index]? = some task →
            mutex ∈ program.guards task → pool.tasks[index]? = some task := by
        intro index task here holds
        rcases Nat.lt_or_ge index pool.tasks.length with below | above
        · rwa [List.getElem?_append_left below] at here
        · rw [List.getElem?_append_right above] at here
          have added := List.mem_singleton.mp (List.mem_of_getElem? here)
          rw [added] at holds
          exact absurd holds (acquires.entry frame entry)
      intro first second one other atFirst atSecond oneHolds otherHolds
      exact sole first second one other (old _ _ atFirst oneHolds)
        (old _ _ atSecond otherHolds) oneHolds otherHolds
  | advance index answer =>
      obtain ⟨frame, shared, resumed, found, available, resumption, rfl⟩ :=
        step_advance taken
      obtain ⟨below, _⟩ := List.getElem?_eq_some_iff.mp found
      have only : ∀ (second : Nat) (other : Frame), second ≠ index →
          pool.tasks[second]? = some other → mutex ∈ program.guards other →
            mutex ∉ program.guards resumed := by
        intro second other apart here otherHolds holds
        rcases acquires.resume _ _ _ _ _ resumption holds with kept | acquired
        · exact apart (sole second index other frame here found otherHolds kept)
        · exact available mutex acquired other (List.mem_of_getElem? here)
            otherHolds
      intro first second one other atFirst atSecond oneHolds otherHolds
      change (pool.tasks.set index resumed)[first]? = some one at atFirst
      change (pool.tasks.set index resumed)[second]? = some other at atSecond
      by_cases firstMoved : index = first
      · by_cases secondMoved : index = second
        · exact firstMoved.symm.trans secondMoved
        · subst firstMoved
          rw [List.getElem?_set_self below] at atFirst
          rw [List.getElem?_set_ne secondMoved] at atSecond
          cases atFirst
          exact absurd oneHolds
            (only second other (Ne.symm secondMoved) atSecond otherHolds)
      · rw [List.getElem?_set_ne firstMoved] at atFirst
        by_cases secondMoved : index = second
        · subst secondMoved
          rw [List.getElem?_set_self below] at atSecond
          cases atSecond
          exact absurd otherHolds
            (only first one (Ne.symm firstMoved) atFirst oneHolds)
        · rw [List.getElem?_set_ne secondMoved] at atSecond
          exact sole first second one other atFirst atSecond oneHolds otherHolds

/-- Mutual exclusion, in every interleaving. -/
theorem soleHolder_run {guard : Pool Shared Frame → Label Frame Answer → Prop}
    {shared : Shared} {labels : List (Label Frame Answer)}
    (acquires : Acquires program mutex)
    (run : Guarded (step program) guard ⟨shared, []⟩ labels next) :
    SoleHolder program mutex next.tasks := by
  refine run.invariant (fun pool => SoleHolder program mutex pool.tasks) ?_
    fun _ _ _ sole _ taken => soleHolder_step acquires sole taken
  intro first second one other atFirst
  cases atFirst

end SoleHolder

/-- The keys that wait in the shared state, and those that tasks have. -/
def custody (waiting : Shared → List Key) (owns : Frame → Option Key)
    (pool : Pool Shared Frame) : Multiset Key :=
  (waiting pool.shared : Multiset Key) +
    (pool.tasks.filterMap owns : Multiset Key)

/-- A segment hands keys over, and new tasks have none. -/
structure HandsOver (program : Program Mutex Shared Frame Answer)
    (waiting : Shared → List Key) (owns : Frame → Option Key) : Prop where
  entry : ∀ frame, program.entry frame = true → owns frame = none
  resume : ∀ shared frame answer after next,
    program.resume shared frame answer = some (after, next) →
      (waiting after : Multiset Key) + ((owns next).toList : Multiset Key) ≤
        (waiting shared : Multiset Key) + ((owns frame).toList : Multiset Key)

section Custody

variable [DecidableEq Mutex] {program : Program Mutex Shared Frame Answer}
variable {waiting : Shared → List Key} {owns : Frame → Option Key}
variable {pool next : Pool Shared Frame} {label : Label Frame Answer}

theorem filterMap_split (owns : Frame → Option Key) (before behind : List Frame)
    (frame : Frame) :
    ((before ++ frame :: behind).filterMap owns : Multiset Key) =
      ((owns frame).toList : Multiset Key) +
        ((before ++ behind).filterMap owns : Multiset Key) := by
  have moved : (before ++ frame :: behind).Perm (frame :: (before ++ behind)) :=
    List.perm_middle
  have same : ((before ++ frame :: behind).filterMap owns : Multiset Key) =
      ((frame :: (before ++ behind)).filterMap owns : Multiset Key) :=
    Multiset.coe_eq_coe.mpr (moved.filterMap owns)
  rw [same, Multiset.coe_add]
  cases owned : owns frame with
  | none => rw [List.filterMap_cons_none owned, Option.toList_none, List.nil_append]
  | some key => rw [List.filterMap_cons_some owned]; rfl

theorem custody_step (hands : HandsOver program waiting owns)
    (taken : step program pool label = some next) :
    custody waiting owns next ≤ custody waiting owns pool := by
  cases label with
  | start frame =>
      obtain ⟨entry, rfl⟩ := step_start taken
      simp [custody, List.filterMap_append, hands.entry frame entry]
  | advance index answer =>
      obtain ⟨frame, shared, resumed, found, _, resumption, rfl⟩ :=
        step_advance taken
      obtain ⟨below, atIndex⟩ := List.getElem?_eq_some_iff.mp found
      have split : pool.tasks =
          pool.tasks.take index ++ frame :: pool.tasks.drop (index + 1) := by
        rw [← atIndex, List.getElem_cons_drop, List.take_append_drop]
      have moved : pool.tasks.set index resumed =
          pool.tasks.take index ++ resumed :: pool.tasks.drop (index + 1) :=
        List.set_eq_take_append_cons_drop.trans (if_pos below)
      have smaller := hands.resume _ _ _ _ _ resumption
      change (waiting shared : Multiset Key) +
          ((pool.tasks.set index resumed).filterMap owns : Multiset Key) ≤
        (waiting pool.shared : Multiset Key) +
          (pool.tasks.filterMap owns : Multiset Key)
      rw [moved, filterMap_split, ← Multiset.add_assoc]
      conv_rhs => rw [split, filterMap_split, ← Multiset.add_assoc]
      exact Multiset.add_le_add_iff_right.mpr smaller

/-- Distinct keys stay distinct, in every interleaving. -/
theorem custody_nodup_run
    {guard : Pool Shared Frame → Label Frame Answer → Prop}
    {labels : List (Label Frame Answer)}
    (hands : HandsOver program waiting owns)
    (distinct : (custody waiting owns pool).Nodup)
    (run : Guarded (step program) guard pool labels next) :
    (custody waiting owns next).Nodup :=
  run.invariant (fun pool => (custody waiting owns pool).Nodup) distinct
    fun _ _ _ distinct _ taken =>
      Multiset.nodup_of_le (custody_step hands taken) distinct

/-- Two tasks with the same key spoil the list of keys. -/
theorem not_nodup_filterMap {first second : Nat} {one other : Frame} {key : Key}
    {tasks : List Frame} (before : first < second)
    (atFirst : tasks[first]? = some one) (atSecond : tasks[second]? = some other)
    (oneOwns : owns one = some key) (otherOwns : owns other = some key) :
    ¬ (tasks.filterMap owns).Nodup := by
  intro distinct
  obtain ⟨below, atIndex⟩ := List.getElem?_eq_some_iff.mp atFirst
  have split : tasks = tasks.take first ++ one :: tasks.drop (first + 1) := by
    rw [← atIndex, List.getElem_cons_drop, List.take_append_drop]
  have later : other ∈ tasks.drop (first + 1) := by
    have there : (tasks.drop (first + 1))[second - (first + 1)]? = some other := by
      rw [List.getElem?_drop, Nat.add_sub_cancel' before]
      exact atSecond
    exact List.mem_of_getElem? there
  rw [split, List.filterMap_append, List.filterMap_cons_some oneOwns,
    List.nodup_append, List.nodup_cons] at distinct
  exact distinct.2.1.1 (List.mem_filterMap.mpr ⟨other, later, otherOwns⟩)

/-- Where the keys are distinct, a task that has a key is the only one, and the
key does not wait. -/
theorem owner_unique (distinct : (custody waiting owns pool).Nodup)
    {first second : Nat} {one other : Frame} {key : Key}
    (atFirst : pool.tasks[first]? = some one)
    (atSecond : pool.tasks[second]? = some other)
    (oneOwns : owns one = some key) (otherOwns : owns other = some key) :
    first = second := by
  have tasks : (pool.tasks.filterMap owns).Nodup :=
    Multiset.coe_nodup.mp (Multiset.nodup_of_le (Multiset.le_add_left _ _)
      distinct)
  rcases lt_trichotomy first second with before | same | behind
  · exact absurd tasks (not_nodup_filterMap before atFirst atSecond oneOwns
      otherOwns)
  · exact same
  · exact absurd tasks (not_nodup_filterMap behind atSecond atFirst otherOwns
      oneOwns)

theorem waiting_not_owned (distinct : (custody waiting owns pool).Nodup)
    {frame : Frame} {key : Key} (member : frame ∈ pool.tasks)
    (owned : owns frame = some key) : key ∉ waiting pool.shared := by
  intro waits
  exact Multiset.disjoint_left.mp (Multiset.nodup_add.mp distinct).2.2 waits
    (List.mem_filterMap.mpr ⟨frame, member, owned⟩)

end Custody

end CooperativeTasks
