import NetGuardian.Foundation.SoleHolder

/-!
# Records that belong to tasks

Tasks take over distinct keys and keep them.  A shared table has a record for each
key, and a segment touches no record but that of its task.  Then what a record says is
what its one owner has made of it, whatever the other tasks do meanwhile.
-/

namespace CooperativeTasks

open LabelledRun

variable {Mutex Shared Frame Answer Key Record : Type*}

/-- The record of a key is as it was in the beginning and belongs to nobody, or it is
what a task that owns the key expects. -/
def Kept (owns : Frame → Option Key) (record : Shared → Key → Record)
    (Fresh : Record → Prop) (Fits : Frame → Key → Record → Prop)
    (pool : Pool Shared Frame) (key : Key) : Prop :=
  (Fresh (record pool.shared key) ∧ ∀ frame ∈ pool.tasks, owns frame ≠ some key) ∨
    ∃ frame ∈ pool.tasks, owns frame = some key ∧
      Fits frame key (record pool.shared key)

/-- What a segment has to obey, in a state that is good. -/
structure TendsRecords (program : Program Mutex Shared Frame Answer)
    (owns : Frame → Option Key) (record : Shared → Key → Record)
    (Fresh : Record → Prop) (Fits : Frame → Key → Record → Prop)
    (Good : Shared → Prop) : Prop where
  good : ∀ shared frame answer after next,
    program.resume shared frame answer = some (after, next) → Good shared → Good after
  steady : ∀ shared frame answer after next key, ¬ SelfBlocked program frame →
    program.resume shared frame answer = some (after, next) →
      owns frame = some key → owns next = some key
  untouched : ∀ shared frame answer after next, ¬ SelfBlocked program frame →
    program.resume shared frame answer = some (after, next) →
      ∀ key, owns next ≠ some key → record after key = record shared key
  keeps : ∀ shared frame answer after next key, ¬ SelfBlocked program frame →
    program.resume shared frame answer = some (after, next) → Good shared →
      owns frame = some key → Fits frame key (record shared key) →
        Fits next key (record after key)
  takes : ∀ shared frame answer after next key, ¬ SelfBlocked program frame →
    program.resume shared frame answer = some (after, next) → Good shared →
      owns frame = none → owns next = some key → Fresh (record shared key) →
        Fits next key (record after key)

section Records

variable {program : Program Mutex Shared Frame Answer}
variable {waiting : Shared → List Key} {owns : Frame → Option Key}
variable {record : Shared → Key → Record} {Fresh : Record → Prop}
variable {Fits : Frame → Key → Record → Prop} {Good : Shared → Prop}
variable {pool next : Pool Shared Frame} {key : Key}

theorem kept_start {frame : Frame} (entry : owns frame = none)
    (kept : Kept owns record Fresh Fits pool key) :
    Kept owns record Fresh Fits { pool with tasks := pool.tasks ++ [frame] } key := by
  rcases kept with ⟨fresh, nobody⟩ | ⟨owner, member, owned, fits⟩
  · refine .inl ⟨fresh, fun task here => ?_⟩
    rcases List.mem_append.mp here with old | new
    · exact nobody task old
    · rw [List.mem_singleton.mp new, entry]
      exact nofun
  · exact .inr ⟨owner, List.mem_append_left _ member, owned, fits⟩

theorem kept_advance {index : Nat} {answer : Answer} {frame resumed : Frame}
    {shared : Shared} (hands : HandsOver program waiting owns)
    (tends : TendsRecords program owns record Fresh Fits Good)
    (good : Good pool.shared) (distinct : (custody waiting owns pool).Nodup)
    (kept : Kept owns record Fresh Fits pool key)
    (found : pool.tasks[index]? = some frame)
    (available : Available program pool.tasks frame)
    (resumption : program.resume pool.shared frame answer = some (shared, resumed)) :
    Kept owns record Fresh Fits ⟨shared, pool.tasks.set index resumed⟩ key := by
  have free : ¬ SelfBlocked program frame := fun blocked =>
    blocked.not_available (List.mem_of_getElem? found) available
  obtain ⟨below, _⟩ := List.getElem?_eq_some_iff.mp found
  have here : resumed ∈ pool.tasks.set index resumed :=
    List.mem_of_getElem? (List.getElem?_set_self below)
  by_cases own : owns frame = some key
  · -- the owner itself moves, and nobody else can be the owner
    rcases kept with ⟨_, nobody⟩ | ⟨owner, member, owned, fits⟩
    · exact absurd own (nobody frame (List.mem_of_getElem? found))
    · obtain ⟨position, there⟩ := List.mem_iff_getElem?.mp member
      have same := owner_unique distinct found there own owned
      subst same
      rw [found] at there
      cases there
      exact .inr ⟨resumed, here, tends.steady _ _ _ _ _ key free resumption own,
        tends.keeps _ _ _ _ _ key free resumption good own fits⟩
  · by_cases takes : owns resumed = some key
    · -- the task takes the key over, which has waited for it
      have idle : owns frame = none := by
        cases owned : owns frame with
        | none => rfl
        | some other =>
            rw [tends.steady _ _ _ _ _ other free resumption owned] at takes
            cases takes
            exact absurd owned own
      have smaller := hands.resume _ _ _ _ _ resumption
      rw [idle, takes] at smaller
      have handed : (waiting shared : Multiset Key) + {key} ≤
          (waiting pool.shared : Multiset Key) := smaller.trans (by simp)
      have waits : key ∈ waiting pool.shared := Multiset.mem_of_le handed
        (Multiset.mem_add.mpr (.inr (Multiset.mem_singleton_self key)))
      rcases kept with ⟨fresh, _⟩ | ⟨owner, member, owned, _⟩
      · exact .inr ⟨resumed, here, takes,
          tends.takes _ _ _ _ _ key free resumption good idle takes fresh⟩
      · exact absurd waits (waiting_not_owned distinct member owned)
    · have same := tends.untouched _ _ _ _ _ free resumption key takes
      rcases kept with ⟨fresh, nobody⟩ | ⟨owner, member, owned, fits⟩
      · refine .inl ⟨by rw [same]; exact fresh, fun task member => ?_⟩
        rcases List.mem_or_eq_of_mem_set member with old | rfl
        · exact nobody task old
        · exact takes
      · obtain ⟨position, there⟩ := List.mem_iff_getElem?.mp member
        have apart : index ≠ position := by
          rintro rfl
          rw [found] at there
          cases there
          exact own owned
        refine .inr ⟨owner, ?_, owned, by rw [same]; exact fits⟩
        exact List.mem_of_getElem? ((List.getElem?_set_ne apart).trans there)

/-- In every interleaving every record is kept. -/
theorem kept_run [DecidableEq Mutex]
    {guard : Pool Shared Frame → Label Frame Answer → Prop} {first : Shared}
    {labels : List (Label Frame Answer)} (hands : HandsOver program waiting owns)
    (tends : TendsRecords program owns record Fresh Fits Good) (good : Good first)
    (distinct : (waiting first).Nodup) (fresh : ∀ key, Fresh (record first key))
    (run : Guarded (step program) guard ⟨first, []⟩ labels pool) :
    Good pool.shared ∧ (custody waiting owns pool).Nodup ∧
      ∀ key, Kept owns record Fresh Fits pool key := by
  refine run.invariant (fun pool => Good pool.shared ∧
    (custody waiting owns pool).Nodup ∧ ∀ key, Kept owns record Fresh Fits pool key)
    ⟨good, by simpa [custody] using distinct, fun key => .inl ⟨fresh key, by simp⟩⟩ ?_
  rintro before label after ⟨good, distinct, kept⟩ _ taken
  have fewer := Multiset.nodup_of_le (custody_step hands taken) distinct
  cases label with
  | start frame =>
      obtain ⟨entry, rfl⟩ := step_start taken
      exact ⟨good, fewer, fun key => kept_start (hands.entry frame entry) (kept key)⟩
  | advance index answer =>
      obtain ⟨frame, shared, resumed, found, available, resumption, rfl⟩ :=
        step_advance taken
      exact ⟨tends.good _ _ _ _ _ resumption good, fewer, fun key =>
        kept_advance hands tends good distinct (kept key) found available resumption⟩

end Records

end CooperativeTasks
