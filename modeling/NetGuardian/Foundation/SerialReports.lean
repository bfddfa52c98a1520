import NetGuardian.Foundation.SoleHolder
import NetGuardian.Foundation.TakingTurns

/-!
# Reports from under one mutex

Cooperative tasks that each take over a key, announce it, and then work on it
while they hold a common mutex.  Whatever a task says about its key while it
works, the log that all of them write is one that the floor of `TakingTurns`
accepts.
-/

namespace CooperativeTasks

open LabelledRun TakingTurns

variable {Mutex Shared Frame Answer Key : Type*}

/-- Where a task is with its key.  A task that is committed owes an utterance. -/
inductive Place (Key : Type*) where
  | idle
  | waiting (key : Key)
  | working (key : Key)
  | committed (key : Key)
  | settled (key : Key)
deriving DecidableEq

namespace Place

def key? : Place Key → Option Key
  | idle => none
  | waiting key | working key | committed key | settled key => some key

/-- The task works on its key. -/
def AtWork : Place Key → Prop
  | working _ | committed _ => True
  | idle | waiting _ | settled _ => False

/-- The floor as a task expects it. -/
def Fits (floor : Floor Key) : Place Key → Prop
  | idle | settled _ => True
  | waiting key => key ∈ floor.opened ∧ ¬ floor.Spoken key
  | working key => floor.MaySpeak key
  | committed key => floor.speaker = some (key, true)

end Place

/-- What a segment says, and where the task is afterwards. -/
inductive Speech : Place Key → List (Utterance Key) → Place Key → Prop
  | silence (place : Place Key) : Speech place [] place
  | opens (key : Key) : Speech .idle [.opens key] (.waiting key)
  | enters (key : Key) : Speech (.waiting key) [] (.working key)
  | continues (key : Key) :
      Speech (.working key) [.continues key] (.working key)
  | ends (key : Key) : Speech (.working key) [.ends key] (.settled key)
  | quits (key : Key) : Speech (.working key) [] (.settled key)
  | pledges (key : Key) :
      Speech (.working key) [.pledges key] (.committed key)
  | redeems (key : Key) : Speech (.committed key) [.redeems key] (.settled key)

/-- What a program has to obey. -/
structure Reports (program : Program Mutex Shared Frame Answer) (mutex : Mutex)
    (waiting : Shared → List Key) (place : Frame → Place Key)
    (log : Shared → List (Utterance Key)) : Prop where
  acquires : Acquires program mutex
  hands : HandsOver program waiting fun frame => (place frame).key?
  entry : ∀ frame, program.entry frame = true → place frame = .idle
  holds : ∀ frame, (place frame).AtWork → mutex ∈ program.guards frame
  enters : ∀ frame key, place frame = .waiting key →
    program.awaits frame = some mutex
  speaks : ∀ shared frame answer after next, ¬ SelfBlocked program frame →
    program.resume shared frame answer = some (after, next) →
      ∃ said, log after = log shared ++ said ∧
        Speech (place frame) said (place next)

/-- A pool and the floor that its log has led to. -/
structure InOrder (program : Program Mutex Shared Frame Answer) (mutex : Mutex)
    (waiting : Shared → List Key) (place : Frame → Place Key)
    (pool : Pool Shared Frame) (floor : Floor Key) : Prop where
  sound : floor.Sound
  sole : SoleHolder program mutex pool.tasks
  distinct : (custody waiting (fun frame => (place frame).key?) pool).Nodup
  unopened : ∀ key ∈ waiting pool.shared, key ∉ floor.opened
  fits : ∀ (index : Nat) (frame : Frame), pool.tasks[index]? = some frame →
    (place frame).Fits floor
  promised : ∀ key, floor.speaker = some (key, true) →
    ∃ frame ∈ pool.tasks, place frame = .committed key

section Simulation

variable {program : Program Mutex Shared Frame Answer} {mutex : Mutex}
variable {waiting : Shared → List Key} {place : Frame → Place Key}
variable {log : Shared → List (Utterance Key)}
variable {pool next : Pool Shared Frame} {floor : Floor Key}

/-- What waits after a segment waited before it. -/
theorem waiting_subset {owns : Frame → Option Key} {shared after : Shared}
    {frame resumed : Frame} {answer : Answer}
    (hands : HandsOver program waiting owns)
    (resumption : program.resume shared frame answer = some (after, resumed))
    (same : owns resumed = owns frame) :
    ∀ key ∈ waiting after, key ∈ waiting shared := by
  intro key waits
  have smaller := hands.resume _ _ _ _ _ resumption
  rw [same] at smaller
  exact Multiset.mem_of_le (Multiset.le_of_add_le_add_right smaller) waits

/-- An opening disturbs nobody. -/
theorem Place.Fits.of_opening {other : Place Key} {key : Key}
    (fits : other.Fits floor) :
    other.Fits { floor with opened := key :: floor.opened } := by
  cases other with
  | idle | settled key => trivial
  | waiting key => exact ⟨List.mem_cons_of_mem _ fits.1, fits.2⟩
  | working key => exact ⟨List.mem_cons_of_mem _ fits.1, fits.2⟩
  | committed key => exact fits

/-- A task that can be resumed does not wait for a guard of its own. -/
theorem not_selfBlocked_of_available {index : Nat} {frame : Frame}
    (found : pool.tasks[index]? = some frame)
    (available : Available program pool.tasks frame) :
    ¬ SelfBlocked program frame := fun blocked =>
  blocked.not_available (List.mem_of_getElem? found) available

theorem mem_set_of_getElem? {index : Nat} {frame : Frame}
    (found : pool.tasks[index]? = some frame) (resumed : Frame) :
    resumed ∈ pool.tasks.set index resumed := by
  obtain ⟨below, _⟩ := List.getElem?_eq_some_iff.mp found
  exact List.mem_of_getElem? (List.getElem?_set_self below)

variable [DecidableEq Mutex]

theorem inOrder_start {frame : Frame}
    (reports : Reports program mutex waiting place log)
    (order : InOrder program mutex waiting place pool floor)
    (taken : step program pool (.start frame) = some next) :
    InOrder program mutex waiting place next floor := by
  have sole := soleHolder_step reports.acquires order.sole taken
  have fewer := custody_step reports.hands taken
  obtain ⟨entry, rfl⟩ := step_start taken
  exact
    { sound := order.sound
      sole := sole
      distinct := Multiset.nodup_of_le fewer order.distinct
      unopened := order.unopened
      fits := by
        intro index task here
        rcases Nat.lt_or_ge index pool.tasks.length with below | above
        · exact order.fits index task
            ((List.getElem?_append_left below).symm.trans here)
        · rw [List.getElem?_append_right above] at here
          rw [List.mem_singleton.mp (List.mem_of_getElem? here),
            reports.entry frame entry]
          trivial
      promised := by
        intro key speaking
        obtain ⟨task, member, committed⟩ := order.promised key speaking
        exact ⟨task, List.mem_append_left _ member, committed⟩ }

variable {index : Nat} {frame resumed : Frame} {shared : Shared}
variable {answer : Answer}

theorem step_of_available (found : pool.tasks[index]? = some frame)
    (available : Available program pool.tasks frame)
    (resumption : program.resume pool.shared frame answer =
      some (shared, resumed)) :
    step program pool (.advance index answer) =
      some ⟨shared, pool.tasks.set index resumed⟩ := by
  simp only [step, found, if_pos available, resumption, Option.map_some]

/-- A task that says nothing leaves the pool in order, when the floor fits its next
place too. -/
theorem inOrder_silent
    (reports : Reports program mutex waiting place log)
    (order : InOrder program mutex waiting place pool floor)
    (found : pool.tasks[index]? = some frame)
    (available : Available program pool.tasks frame)
    (resumption : program.resume pool.shared frame answer =
      some (shared, resumed))
    (same : (place resumed).key? = (place frame).key?)
    (fits : (place resumed).Fits floor)
    (kept : ∀ key, place frame = .committed key →
      place resumed = .committed key) :
    InOrder program mutex waiting place
      ⟨shared, pool.tasks.set index resumed⟩ floor := by
  have advanced := step_of_available found available resumption
  obtain ⟨below, _⟩ := List.getElem?_eq_some_iff.mp found
  exact
    { sound := order.sound
      sole := soleHolder_step reports.acquires order.sole advanced
      distinct := Multiset.nodup_of_le (custody_step reports.hands advanced)
        order.distinct
      unopened := fun key waits => order.unopened key
        (waiting_subset reports.hands resumption same key waits)
      fits := by
        intro position other here
        by_cases moved : index = position
        · subst moved
          rw [List.getElem?_set_self below] at here
          cases here
          exact fits
        · rw [List.getElem?_set_ne moved] at here
          exact order.fits position other here
      promised := by
        intro key speaking
        obtain ⟨task, member, committed⟩ := order.promised key speaking
        obtain ⟨position, here⟩ := List.mem_iff_getElem?.mp member
        by_cases moved : index = position
        · subst moved
          rw [found] at here
          cases here
          exact ⟨resumed, mem_set_of_getElem? found resumed,
            kept key committed⟩
        · refine ⟨task, ?_, committed⟩
          exact List.mem_of_getElem? ((List.getElem?_set_ne moved).trans here) }

variable [DecidableEq Key]

/-- Everything about the floor that another task relies on survives what a task at
work says. -/
theorem Place.Fits.of_turn {one other : Place Key} {said : Utterance Key}
    {after : Floor Key} (fits : other.Fits floor)
    (taken : floor.step said = some after) (resting : ¬ other.AtWork)
    (own : one.key? = some said.key) (apart : other.key? ≠ one.key?) :
    other.Fits after := by
  cases other with
  | idle | settled key => trivial
  | working key | committed key => exact absurd trivial resting
  | waiting key =>
      have others : said.key ≠ key := by
        rintro rfl
        exact apart own.symm
      exact ⟨(Floor.step_of_other others taken).1.mpr fits.1,
        Floor.not_spoken_of_other fits.2 others taken⟩

/-- A task at work is followed by a pool in order again, when what it says is
accepted and fits its next place. -/
theorem inOrder_turn {said : Utterance Key} {after : Floor Key}
    (reports : Reports program mutex waiting place log)
    (order : InOrder program mutex waiting place pool floor)
    (found : pool.tasks[index]? = some frame)
    (available : Available program pool.tasks frame)
    (resumption : program.resume pool.shared frame answer =
      some (shared, resumed))
    (atWork : (place frame).AtWork) (own : (place frame).key? = some said.key)
    (same : (place resumed).key? = (place frame).key?)
    (taken : floor.step said = some after) (working : said.isOpening = false)
    (fits : (place resumed).Fits after)
    (promised : ∀ key, after.speaker = some (key, true) →
      place resumed = .committed key) :
    InOrder program mutex waiting place
      ⟨shared, pool.tasks.set index resumed⟩ after := by
  have advanced := step_of_available found available resumption
  have opened : after.opened = floor.opened := by
    rcases Floor.step_cases taken with ⟨_, rfl, _, rfl⟩ | ⟨_, _, _, rfl⟩ |
      ⟨_, _, _, rfl⟩ | ⟨_, _, _, rfl⟩ | ⟨_, _, _, rfl⟩
    · cases working
    all_goals rfl
  exact
    { sound := Floor.sound_step order.sound taken
      sole := soleHolder_step reports.acquires order.sole advanced
      distinct := Multiset.nodup_of_le (custody_step reports.hands advanced)
        order.distinct
      unopened := by
        intro key waits
        rw [opened]
        exact order.unopened key
          (waiting_subset reports.hands resumption same key waits)
      fits := by
        intro position other here
        obtain ⟨below, _⟩ := List.getElem?_eq_some_iff.mp found
        by_cases moved : index = position
        · subst moved
          rw [List.getElem?_set_self below] at here
          cases here
          exact fits
        · rw [List.getElem?_set_ne moved] at here
          refine (order.fits position other here).of_turn taken ?_ own ?_
          · intro busy
            exact moved (order.sole index position frame other found here
              (reports.holds frame atWork) (reports.holds other busy))
          · intro sameKey
            rw [own] at sameKey
            exact moved (owner_unique order.distinct found here own sameKey)
      promised := fun key speaking =>
        ⟨resumed, mem_set_of_getElem? found resumed, promised key speaking⟩ }

theorem inOrder_opening {key : Key}
    (reports : Reports program mutex waiting place log)
    (order : InOrder program mutex waiting place pool floor)
    (found : pool.tasks[index]? = some frame)
    (available : Available program pool.tasks frame)
    (resumption : program.resume pool.shared frame answer =
      some (shared, resumed))
    (idle : place frame = .idle) (waits : place resumed = .waiting key) :
    floor.step (.opens key) =
        some { floor with opened := key :: floor.opened } ∧
      InOrder program mutex waiting place
        ⟨shared, pool.tasks.set index resumed⟩
        { floor with opened := key :: floor.opened } := by
  have advanced := step_of_available found available resumption
  obtain ⟨below, _⟩ := List.getElem?_eq_some_iff.mp found
  have distinct := Multiset.nodup_of_le (custody_step reports.hands advanced)
    order.distinct
  have owned : (place resumed).key? = some key := by rw [waits]; rfl
  have smaller := reports.hands.resume _ _ _ _ _ resumption
  rw [owned, idle] at smaller
  have handed : (waiting shared : Multiset Key) + {key} ≤
      (waiting pool.shared : Multiset Key) := smaller.trans (by simp [Place.key?])
  have waited : key ∈ waiting pool.shared :=
    Multiset.mem_of_le handed
      (Multiset.mem_add.mpr (.inr (Multiset.mem_singleton_self key)))
  have fresh := order.unopened key waited
  have taken : floor.step (.opens key) =
      some { floor with opened := key :: floor.opened } := if_neg fresh
  refine ⟨taken, ?_⟩
  exact
    { sound := Floor.sound_step order.sound taken
      sole := soleHolder_step reports.acquires order.sole advanced
      distinct := distinct
      unopened := by
        intro other stillWaits opened
        rcases List.mem_cons.mp opened with rfl | old
        · exact waiting_not_owned distinct (mem_set_of_getElem? found resumed)
            owned stillWaits
        · refine order.unopened other ?_ old
          exact Multiset.mem_of_le
            ((Multiset.le_add_right _ _).trans handed) stillWaits
      fits := by
        intro position other here
        by_cases moved : index = position
        · subst moved
          rw [List.getElem?_set_self below] at here
          cases here
          rw [waits]
          refine ⟨List.mem_cons_self, ?_⟩
          rintro (⟨pledge, speaking⟩ | closed)
          · exact fresh (order.sound.opened key pledge speaking)
          · exact fresh (order.sound.closedOpened key closed)
        · rw [List.getElem?_set_ne moved] at here
          exact (order.fits position other here).of_opening
      promised := by
        intro other speaking
        obtain ⟨task, member, committed⟩ := order.promised other speaking
        obtain ⟨position, here⟩ := List.mem_iff_getElem?.mp member
        have moved : index ≠ position := by
          rintro rfl
          rw [found] at here
          cases here
          rw [idle] at committed
          cases committed
        refine ⟨task, ?_, committed⟩
        exact List.mem_of_getElem? ((List.getElem?_set_ne moved).trans here) }

/-- Whatever a segment says, the floor can read it. -/
theorem inOrder_advance
    (reports : Reports program mutex waiting place log)
    (order : InOrder program mutex waiting place pool floor)
    (found : pool.tasks[index]? = some frame)
    (available : Available program pool.tasks frame)
    (resumption : program.resume pool.shared frame answer =
      some (shared, resumed)) :
    ∃ said after, log shared = log pool.shared ++ said ∧
      Run Floor.step floor said after ∧
      InOrder program mutex waiting place
        ⟨shared, pool.tasks.set index resumed⟩ after := by
  obtain ⟨said, grown, speech⟩ := reports.speaks _ _ _ _ _
    (not_selfBlocked_of_available found available) resumption
  have fits := order.fits index frame found
  have one : ∀ {said : Utterance Key} {after : Floor Key},
      floor.step said = some after → Run Floor.step floor [said] after :=
    fun taken => run_cons_iff.mpr ⟨_, taken, .start⟩
  generalize now : place frame = here at speech
  generalize later : place resumed = there at speech
  rw [now] at fits
  cases speech with
  | silence place =>
      refine ⟨_, floor, grown, .start,
        inOrder_silent reports order found available resumption ?_ ?_ ?_⟩
      · rw [now, later]
      · rw [later]
        exact fits
      · intro key committed
        rw [later, ← now, committed]
  | opens key =>
      obtain ⟨taken, inOrder⟩ := inOrder_opening reports order found available
        resumption now later
      exact ⟨_, _, grown, one taken, inOrder⟩
  | enters key =>
      refine ⟨_, floor, grown, .start,
        inOrder_silent reports order found available resumption ?_ ?_ ?_⟩
      · rw [now, later]
        rfl
      · rw [later]
        refine ⟨fits.1, fun closed => fits.2 (.inr closed), ?_⟩
        -- a pledge would be that of a task which holds the mutex
        cases pledged : floor.pledged with
        | false => rfl
        | true =>
            obtain ⟨other, speaking⟩ := Floor.pledged_iff.mp pledged
            obtain ⟨task, member, committed⟩ := order.promised other speaking
            have busy : (place task).AtWork := by
              rw [committed]
              trivial
            exact absurd (reports.holds task busy)
              (available mutex (reports.enters frame key now) task member)
      · intro key committed
        rw [now] at committed
        cases committed
  | continues key =>
      have taken : floor.step (.continues key) = some (floor.take key false) :=
        if_pos fits
      refine ⟨_, _, grown, one taken,
        inOrder_turn reports order found available resumption ?_ ?_ ?_ taken rfl
          ?_ ?_⟩
      · rw [now]
        trivial
      · rw [now]
        rfl
      · rw [now, later]
      · rw [later]
        exact ⟨fits.1, Floor.not_mem_closed_take fits, rfl⟩
      · intro other speaking
        cases speaking
  | ends key =>
      have taken : floor.step (.ends key) =
          some ((floor.take key false).close key) := if_pos fits
      refine ⟨_, _, grown, one taken,
        inOrder_turn reports order found available resumption ?_ ?_ ?_ taken rfl
          ?_ ?_⟩
      · rw [now]
        trivial
      · rw [now]
        rfl
      · rw [now, later]
        rfl
      · rw [later]
        trivial
      · intro other speaking
        cases speaking
  | quits key =>
      refine ⟨_, floor, grown, .start,
        inOrder_silent reports order found available resumption ?_ ?_ ?_⟩
      · rw [now, later]
        rfl
      · rw [later]
        trivial
      · intro other committed
        rw [now] at committed
        cases committed
  | pledges key =>
      have taken : floor.step (.pledges key) = some (floor.take key true) :=
        if_pos fits
      refine ⟨_, _, grown, one taken,
        inOrder_turn reports order found available resumption ?_ ?_ ?_ taken rfl
          ?_ ?_⟩
      · rw [now]
        trivial
      · rw [now]
        rfl
      · rw [now, later]
        rfl
      · rw [later]
        rfl
      · intro other speaking
        cases speaking
        exact later
  | redeems key =>
      have taken : floor.step (.redeems key) = some (floor.close key) :=
        if_pos fits
      refine ⟨_, _, grown, one taken,
        inOrder_turn reports order found available resumption ?_ ?_ ?_ taken rfl
          ?_ ?_⟩
      · rw [now]
        trivial
      · rw [now]
        rfl
      · rw [now, later]
        rfl
      · rw [later]
        trivial
      · intro other speaking
        cases speaking

/-- The log of every interleaving is one that the floor accepts. -/
theorem reports_accepted
    {guard : Pool Shared Frame → Label Frame Answer → Prop}
    {labels : List (Label Frame Answer)} {start : Shared}
    (reports : Reports program mutex waiting place log)
    (distinct : (waiting start).Nodup) (quiet : log start = [])
    (run : Guarded (step program) guard ⟨start, []⟩ labels next) :
    ∃ floor, Run Floor.step .empty (log next.shared) floor ∧
      InOrder program mutex waiting place next floor := by
  refine run.reads (fun pool => log pool.shared) Floor.step .empty
    (InOrder program mutex waiting place) quiet ?_ ?_
  · exact
      { sound := Floor.sound_empty
        sole := by
          intro first second one other atFirst
          cases atFirst
        distinct := by
          simpa [custody] using distinct
        unopened := fun _ _ opened => by cases opened
        fits := by
          intro index frame here
          cases here
        promised := fun _ speaking => by cases speaking }
  · intro pool label next floor order _ taken
    cases label with
    | start frame =>
        refine ⟨[], floor, ?_, .start, inOrder_start reports order taken⟩
        obtain ⟨_, rfl⟩ := step_start taken
        exact (List.append_nil _).symm
    | advance index answer =>
        obtain ⟨frame, shared, resumed, found, available, resumption, rfl⟩ :=
          step_advance taken
        exact inOrder_advance reports order found available resumption

end Simulation

end CooperativeTasks
