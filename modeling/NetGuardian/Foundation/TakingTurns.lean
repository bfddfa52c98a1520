import NetGuardian.Foundation.LogSimulation

/-!
# Taking turns

Parties report on sessions of their own in one common log.  Each opens its session
once, at any time.  From then on it may speak until it ends the session; but
when another party speaks, the one that spoke before is through.  A party that has
pledged something speaks next, to redeem the pledge, and is through then.

`Floor` is the machine that reads such logs.  A log that it accepts tells one
simple story for each key, and what the parties say, openings apart, is serial:
no party speaks in the middle of the turn of another.
-/

namespace TakingTurns

open LabelledRun

variable {Key : Type*}

inductive Utterance (Key : Type*) where
  | opens (key : Key)
  | continues (key : Key)
  | ends (key : Key)
  | pledges (key : Key)
  | redeems (key : Key)
deriving DecidableEq

namespace Utterance

def key : Utterance Key → Key
  | opens key | continues key | ends key | pledges key | redeems key => key

def isOpening : Utterance Key → Bool
  | opens _ => true
  | continues _ | ends _ | pledges _ | redeems _ => false

end Utterance

/-- Who has opened a session, who is through, and who spoke last: the flag says
that a pledge is outstanding. -/
structure Floor (Key : Type*) where
  opened : List Key
  closed : List Key
  speaker : Option (Key × Bool)

namespace Floor

def empty : Floor Key := ⟨[], [], none⟩

def pledged (floor : Floor Key) : Bool := floor.speaker.any Prod.snd

def MaySpeak (floor : Floor Key) (key : Key) : Prop :=
  key ∈ floor.opened ∧ key ∉ floor.closed ∧ floor.pledged = false

instance [DecidableEq Key] (floor : Floor Key) (key : Key) :
    Decidable (floor.MaySpeak key) :=
  inferInstanceAs (Decidable (_ ∧ _ ∧ _))

/-- The last speaker, unless it is this one. -/
def outgoing [DecidableEq Key] (floor : Floor Key) (key : Key) : List Key :=
  (floor.speaker.toList.map Prod.fst).filter (· ≠ key)

def take [DecidableEq Key] (floor : Floor Key) (key : Key) (pledge : Bool) :
    Floor Key :=
  { floor with
    closed := floor.outgoing key ++ floor.closed
    speaker := some (key, pledge) }

def close (floor : Floor Key) (key : Key) : Floor Key :=
  { floor with closed := key :: floor.closed, speaker := none }

def step [DecidableEq Key] (floor : Floor Key) :
    Utterance Key → Option (Floor Key)
  | .opens key =>
      if key ∈ floor.opened then none
      else some { floor with opened := key :: floor.opened }
  | .continues key =>
      if floor.MaySpeak key then some (floor.take key false) else none
  | .ends key =>
      if floor.MaySpeak key then some ((floor.take key false).close key) else none
  | .pledges key =>
      if floor.MaySpeak key then some (floor.take key true) else none
  | .redeems key =>
      if floor.speaker = some (key, true) then some (floor.close key) else none

/-- The last speaker has opened its session and is not through. -/
structure Sound (floor : Floor Key) : Prop where
  opened : ∀ key pledge, floor.speaker = some (key, pledge) → key ∈ floor.opened
  notClosed : ∀ key pledge, floor.speaker = some (key, pledge) →
    key ∉ floor.closed
  closedOpened : ∀ key ∈ floor.closed, key ∈ floor.opened

/-- A session that has been opened and has gone on for some time. -/
def talk (key : Key) (count : Nat) : List (Utterance Key) :=
  .opens key :: List.replicate count (.continues key)

/-- What a party has said so far, and how that fits the floor. -/
inductive Told (floor : Floor Key) (key : Key) : List (Utterance Key) → Prop
  | unopened : key ∉ floor.opened → Told floor key []
  | talking (count : Nat) : key ∈ floor.opened →
      floor.speaker ≠ some (key, true) → Told floor key (talk key count)
  | pledged (count : Nat) : floor.speaker = some (key, true) →
      Told floor key (talk key count ++ [.pledges key])
  | ended (count : Nat) : key ∈ floor.closed →
      Told floor key (talk key count ++ [.ends key])
  | redeemed (count : Nat) : key ∈ floor.closed →
      Told floor key (talk key count ++ [.pledges key, .redeems key])

/-- The stories that an accepted log can tell. -/
def IsStory (key : Key) (story : List (Utterance Key)) : Prop :=
  story = [] ∨ ∃ count, ∃ ending ∈ [[], [Utterance.ends key],
    [.pledges key], [.pledges key, .redeems key]], story = talk key count ++ ending

/-- The stories without an outstanding pledge. -/
def IsWholeStory (key : Key) (story : List (Utterance Key)) : Prop :=
  story = [] ∨ ∃ count, ∃ ending ∈ [[], [Utterance.ends key],
    [.pledges key, .redeems key]], story = talk key count ++ ending

/-- A party has spoken, and possibly is through. -/
def Spoken (floor : Floor Key) (key : Key) : Prop :=
  (∃ pledge, floor.speaker = some (key, pledge)) ∨ key ∈ floor.closed

section Sound

variable {floor : Floor Key} {key : Key}

theorem sound_empty : (empty : Floor Key).Sound where
  opened _ _ speaking := by cases speaking
  notClosed _ _ speaking := by cases speaking
  closedOpened _ closed := by cases closed

theorem Sound.close (sound : floor.Sound) (opened : key ∈ floor.opened) :
    (floor.close key).Sound where
  opened _ _ speaking := by cases speaking
  notClosed _ _ speaking := by cases speaking
  closedOpened other closed := by
    rcases List.mem_cons.mp closed with rfl | old
    · exact opened
    · exact sound.closedOpened other old

theorem pledged_iff :
    floor.pledged = true ↔ ∃ key, floor.speaker = some (key, true) := by
  unfold pledged
  cases floor.speaker with
  | none => simp
  | some turn =>
      obtain ⟨key, flag⟩ := turn
      simp

theorem talk_succ (key : Key) (count : Nat) :
    talk key (count + 1) = talk key count ++ [.continues key] := by
  rw [talk, List.replicate_succ', talk, List.cons_append]

variable {story : List (Utterance Key)}

theorem Told.isStory (told : Told floor key story) : IsStory key story := by
  cases told with
  | unopened => exact .inl rfl
  | talking count => exact .inr ⟨count, [], by simp, (List.append_nil _).symm⟩
  | pledged count => exact .inr ⟨count, _, by simp, rfl⟩
  | ended count => exact .inr ⟨count, _, by simp, rfl⟩
  | redeemed count => exact .inr ⟨count, _, by simp, rfl⟩

theorem Told.isWholeStory (told : Told floor key story)
    (settled : floor.speaker ≠ some (key, true)) : IsWholeStory key story := by
  cases told with
  | unopened => exact .inl rfl
  | talking count => exact .inr ⟨count, [], by simp, (List.append_nil _).symm⟩
  | pledged count speaking => exact absurd speaking settled
  | ended count => exact .inr ⟨count, _, by simp, rfl⟩
  | redeemed count => exact .inr ⟨count, _, by simp, rfl⟩

/-- A party that may speak is in the middle of its session. -/
theorem Told.of_maySpeak (told : Told floor key story)
    (may : floor.MaySpeak key) : ∃ count, story = talk key count := by
  cases told with
  | unopened fresh => exact absurd may.1 fresh
  | talking count => exact ⟨count, rfl⟩
  | pledged count speaking =>
      have owes := pledged_iff.mpr ⟨key, speaking⟩
      rw [may.2.2] at owes
      cases owes
  | ended count closed | redeemed count closed => exact absurd closed may.2.1

/-- A party that has a pledge outstanding has just pledged. -/
theorem Told.of_pledged (told : Told floor key story) (sound : floor.Sound)
    (speaking : floor.speaker = some (key, true)) :
    ∃ count, story = talk key count ++ [.pledges key] := by
  cases told with
  | unopened fresh => exact absurd (sound.opened key true speaking) fresh
  | talking count _ silent => exact absurd speaking silent
  | pledged count => exact ⟨count, rfl⟩
  | ended count closed | redeemed count closed =>
      exact absurd closed (sound.notClosed key true speaking)

end Sound

section Steps

variable [DecidableEq Key]
variable {floor next : Floor Key} {key other : Key} {said : Utterance Key}

theorem mem_closed_take {pledge : Bool} :
    other ∈ (floor.take key pledge).closed ↔
      (other ≠ key ∧ ∃ flag, floor.speaker = some (other, flag)) ∨
        other ∈ floor.closed := by
  unfold take outgoing
  rw [List.mem_append, List.mem_filter]
  cases speaking : floor.speaker with
  | none => simp
  | some turn =>
      obtain ⟨last, flag⟩ := turn
      simp only [Option.toList_some, List.map_cons, List.map_nil,
        List.mem_singleton, decide_eq_true_eq, Option.some.injEq, Prod.mk.injEq]
      constructor
      · rintro (⟨rfl, apart⟩ | closed)
        · exact .inl ⟨apart, flag, rfl, rfl⟩
        · exact .inr closed
      · rintro (⟨apart, _, rfl, _⟩ | closed)
        · exact .inl ⟨rfl, apart⟩
        · exact .inr closed

theorem not_mem_closed_take {pledge : Bool} (may : floor.MaySpeak key) :
    key ∉ (floor.take key pledge).closed := by
  rw [mem_closed_take]
  rintro (⟨apart, _⟩ | closed)
  · exact apart rfl
  · exact may.2.1 closed

/-- Everything an utterance can do. -/
theorem step_cases (taken : floor.step said = some next) :
    (∃ key, said = .opens key ∧ key ∉ floor.opened ∧
      next = { floor with opened := key :: floor.opened }) ∨
    (∃ key, said = .continues key ∧ floor.MaySpeak key ∧
      next = floor.take key false) ∨
    (∃ key, said = .ends key ∧ floor.MaySpeak key ∧
      next = (floor.take key false).close key) ∨
    (∃ key, said = .pledges key ∧ floor.MaySpeak key ∧
      next = floor.take key true) ∨
    ∃ key, said = .redeems key ∧ floor.speaker = some (key, true) ∧
      next = floor.close key := by
  cases said with
  | opens key =>
      simp only [step] at taken
      split at taken
      · cases taken
      · next fresh =>
          cases taken
          exact .inl ⟨key, rfl, fresh, rfl⟩
  | continues key =>
      simp only [step] at taken
      split at taken
      · next may =>
          cases taken
          exact .inr (.inl ⟨key, rfl, may, rfl⟩)
      · cases taken
  | ends key =>
      simp only [step] at taken
      split at taken
      · next may =>
          cases taken
          exact .inr (.inr (.inl ⟨key, rfl, may, rfl⟩))
      · cases taken
  | pledges key =>
      simp only [step] at taken
      split at taken
      · next may =>
          cases taken
          exact .inr (.inr (.inr (.inl ⟨key, rfl, may, rfl⟩)))
      · cases taken
  | redeems key =>
      simp only [step] at taken
      split at taken
      · next speaking =>
          cases taken
          exact .inr (.inr (.inr (.inr ⟨key, rfl, speaking, rfl⟩)))
      · cases taken

theorem Sound.take {pledge : Bool} (sound : floor.Sound)
    (may : floor.MaySpeak key) : (floor.take key pledge).Sound where
  opened other _ speaking := by
    cases speaking
    exact may.1
  notClosed other _ speaking := by
    cases speaking
    exact not_mem_closed_take may
  closedOpened other closed := by
    rcases mem_closed_take.mp closed with ⟨_, flag, spoke⟩ | old
    · exact sound.opened other flag spoke
    · exact sound.closedOpened other old

theorem sound_step (sound : floor.Sound) (taken : floor.step said = some next) :
    next.Sound := by
  rcases step_cases taken with ⟨key, _, fresh, rfl⟩ | ⟨key, _, may, rfl⟩ |
    ⟨key, _, may, rfl⟩ | ⟨key, _, may, rfl⟩ | ⟨key, _, speaking, rfl⟩
  · exact
      { opened := fun other flag spoke =>
          List.mem_cons_of_mem _ (sound.opened other flag spoke)
        notClosed := sound.notClosed
        closedOpened := fun other closed =>
          List.mem_cons_of_mem _ (sound.closedOpened other closed) }
  · exact sound.take may
  · exact (sound.take may).close may.1
  · exact sound.take may
  · exact sound.close (sound.opened key true speaking)

theorem sound_run {log : List (Utterance Key)}
    (run : Run step empty log floor) : floor.Sound :=
  run.invariant Sound sound_empty fun _ _ _ sound _ taken =>
    sound_step sound taken

theorem closed_step (closed : key ∈ floor.closed)
    (taken : floor.step said = some next) : key ∈ next.closed := by
  rcases step_cases taken with ⟨other, _, _, rfl⟩ | ⟨other, _, _, rfl⟩ |
    ⟨other, _, _, rfl⟩ | ⟨other, _, _, rfl⟩ | ⟨other, _, _, rfl⟩
  · exact closed
  · exact mem_closed_take.mpr (.inr closed)
  · exact List.mem_cons_of_mem _ (mem_closed_take.mpr (.inr closed))
  · exact mem_closed_take.mpr (.inr closed)
  · exact List.mem_cons_of_mem _ closed

/-- What another party says changes little for this one. -/
theorem step_of_other (apart : said.key ≠ key)
    (taken : floor.step said = some next) :
    (key ∈ next.opened ↔ key ∈ floor.opened) ∧
      (next.speaker = some (key, true) ↔ floor.speaker = some (key, true)) := by
  have free : floor.pledged = false → floor.speaker ≠ some (key, true) := by
    intro free speaking
    rw [pledged_iff.mpr ⟨key, speaking⟩] at free
    cases free
  rcases step_cases taken with ⟨other, rfl, _, rfl⟩ | ⟨other, rfl, may, rfl⟩ |
    ⟨other, rfl, may, rfl⟩ | ⟨other, rfl, may, rfl⟩ | ⟨other, rfl, speaking, rfl⟩
  · refine ⟨?_, Iff.rfl⟩
    rw [List.mem_cons]
    exact or_iff_right fun same => apart same.symm
  · refine ⟨Iff.rfl, fun now => ?_, fun then_ => absurd then_ (free may.2.2)⟩
    cases now
  · refine ⟨Iff.rfl, fun now => ?_, fun then_ => absurd then_ (free may.2.2)⟩
    cases now
  · refine ⟨Iff.rfl, fun now => ?_, fun then_ => absurd then_ (free may.2.2)⟩
    cases now
    exact absurd rfl apart
  · refine ⟨Iff.rfl, fun now => ?_, fun then_ => ?_⟩
    · cases now
    · rw [speaking] at then_
      cases then_
      exact absurd rfl apart

/-! ## One story for each key -/

variable {story : List (Utterance Key)}

theorem Told.of_other (told : Told floor key story)
    (apart : said.key ≠ key) (taken : floor.step said = some next) :
    Told next key story := by
  obtain ⟨opened, speaker⟩ := step_of_other apart taken
  cases told with
  | unopened absent => exact .unopened (mt opened.mp absent)
  | talking count here silent =>
      exact .talking count (opened.mpr here) (mt speaker.mp silent)
  | pledged count speaking => exact .pledged count (speaker.mpr speaking)
  | ended count closed => exact .ended count (closed_step closed taken)
  | redeemed count closed => exact .redeemed count (closed_step closed taken)

/-- What a party says continues its own story. -/
theorem Told.of_own (told : Told floor key story) (sound : floor.Sound)
    (own : said.key = key) (taken : floor.step said = some next) :
    Told next key (story ++ [said]) := by
  rcases step_cases taken with ⟨same, rfl, fresh, rfl⟩ | ⟨same, rfl, may, rfl⟩ |
    ⟨same, rfl, may, rfl⟩ | ⟨same, rfl, may, rfl⟩ | ⟨same, rfl, speaking, rfl⟩
  · cases own
    have silent : floor.speaker ≠ some (same, true) := fun speaking =>
      fresh (sound.opened same true speaking)
    have begins : story = [] := by
      cases told with
      | unopened => rfl
      | talking _ opened => exact absurd opened fresh
      | pledged _ speaking => exact absurd speaking silent
      | ended _ closed | redeemed _ closed =>
          exact absurd (sound.closedOpened same closed) fresh
    rw [begins]
    exact .talking 0 List.mem_cons_self silent
  · cases own
    obtain ⟨count, rfl⟩ := told.of_maySpeak may
    change Told _ same (talk same count ++ [.continues same])
    rw [← talk_succ]
    refine .talking (count + 1) may.1 ?_
    intro speaking
    cases speaking
  · cases own
    obtain ⟨count, rfl⟩ := told.of_maySpeak may
    exact .ended count List.mem_cons_self
  · cases own
    obtain ⟨count, rfl⟩ := told.of_maySpeak may
    exact .pledged count rfl
  · cases own
    obtain ⟨count, rfl⟩ := told.of_pledged sound speaking
    change Told _ same (talk same count ++ [.pledges same] ++ [.redeems same])
    rw [List.append_assoc]
    exact .redeemed count List.mem_cons_self

theorem told_run {log : List (Utterance Key)} (run : Run step empty log floor)
    (key : Key) : Told floor key (log.filter (·.key = key)) := by
  induction run with
  | start => exact .unopened (List.not_mem_nil)
  | @extend log floor next said before _ taken ih =>
      rw [List.filter_append]
      by_cases own : said.key = key
      · have kept : [said].filter (·.key = key) = [said] := by simp [own]
        rw [kept]
        exact ih.of_own (sound_run before) own taken
      · have dropped : [said].filter (·.key = key) = [] := by simp [own]
        rw [dropped, List.append_nil]
        exact ih.of_other own taken

def isPledge : Utterance Key → Bool
  | .pledges _ => true
  | _ => false

def isRedemption : Utterance Key → Bool
  | .redeems _ => true
  | _ => false

/-- Every pledge is redeemed, but for the one that is outstanding. -/
theorem pledges_run {log : List (Utterance Key)}
    (run : Run step empty log floor) :
    log.countP isPledge = log.countP isRedemption + floor.pledged.toNat := by
  induction run with
  | start => rfl
  | @extend log floor next said before _ taken ih =>
      rw [List.countP_append, List.countP_append, ih]
      rcases step_cases taken with ⟨key, rfl, _, rfl⟩ | ⟨key, rfl, may, rfl⟩ |
        ⟨key, rfl, may, rfl⟩ | ⟨key, rfl, may, rfl⟩ | ⟨key, rfl, speaking, rfl⟩
      · rfl
      · rw [may.2.2]
        rfl
      · rw [may.2.2]
        rfl
      · rw [may.2.2]
        rfl
      · rw [pledged_iff.mpr ⟨key, speaking⟩]
        rfl

/-! ## No interruptions -/

theorem spoken_of_said (works : said.isOpening = false)
    (taken : floor.step said = some next) : next.Spoken said.key := by
  rcases step_cases taken with ⟨same, rfl, _, rfl⟩ | ⟨same, rfl, _, rfl⟩ |
    ⟨same, rfl, _, rfl⟩ | ⟨same, rfl, _, rfl⟩ | ⟨same, rfl, _, rfl⟩
  · cases works
  · exact .inl ⟨false, rfl⟩
  · exact .inr List.mem_cons_self
  · exact .inl ⟨true, rfl⟩
  · exact .inr List.mem_cons_self

/-- When another party speaks, one that has spoken is through. -/
theorem Spoken.closed_of_other (spoken : floor.Spoken key)
    (works : said.isOpening = false) (apart : said.key ≠ key)
    (taken : floor.step said = some next) : key ∈ next.closed := by
  rcases spoken with ⟨pledge, spoke⟩ | closed
  · have goes : ∀ other pledge, other ≠ key →
        key ∈ (floor.take other pledge).closed := fun other _ apart =>
      mem_closed_take.mpr (.inl ⟨apart.symm, pledge, spoke⟩)
    rcases step_cases taken with ⟨other, rfl, _, rfl⟩ | ⟨other, rfl, _, rfl⟩ |
      ⟨other, rfl, _, rfl⟩ | ⟨other, rfl, _, rfl⟩ | ⟨other, rfl, speaking, rfl⟩
    · cases works
    · exact goes other false apart
    · exact List.mem_cons_of_mem _ (goes other false apart)
    · exact goes other true apart
    · rw [spoke] at speaking
      cases speaking
      exact absurd rfl apart
  · exact closed_step closed taken

theorem Spoken.step (spoken : floor.Spoken key)
    (taken : floor.step said = some next) : next.Spoken key := by
  cases works : said.isOpening with
  | true =>
      rcases step_cases taken with ⟨_, _, _, rfl⟩ | ⟨_, rfl, _⟩ | ⟨_, rfl, _⟩ |
        ⟨_, rfl, _⟩ | ⟨_, rfl, _⟩
      · exact spoken
      all_goals cases works
  | false =>
      by_cases own : said.key = key
      · rw [← own]
        exact spoken_of_said works taken
      · exact .inr (spoken.closed_of_other works own taken)

/-- Nobody else makes a party one that has spoken. -/
theorem not_spoken_of_other (silent : ¬ floor.Spoken key)
    (apart : said.key ≠ key) (taken : floor.step said = some next) :
    ¬ next.Spoken key := by
  have still : ∀ other pledge, key ∉ (floor.take other pledge).closed := by
    intro other pledge closed
    rcases mem_closed_take.mp closed with ⟨_, flag, spoke⟩ | old
    · exact silent (.inl ⟨flag, spoke⟩)
    · exact silent (.inr old)
  rcases step_cases taken with ⟨other, rfl, _, rfl⟩ | ⟨other, rfl, _, rfl⟩ |
    ⟨other, rfl, _, rfl⟩ | ⟨other, rfl, _, rfl⟩ | ⟨other, rfl, _, rfl⟩
  · exact silent
  · rintro (⟨pledge, speaking⟩ | closed)
    · cases speaking
      exact apart rfl
    · exact still other false closed
  · rintro (⟨pledge, speaking⟩ | closed)
    · cases speaking
    · rcases List.mem_cons.mp closed with same | old
      · exact apart same.symm
      · exact still other false old
  · rintro (⟨pledge, speaking⟩ | closed)
    · cases speaking
      exact apart rfl
    · exact still other true closed
  · rintro (⟨pledge, speaking⟩ | closed)
    · cases speaking
    · rcases List.mem_cons.mp closed with same | old
      · exact apart same.symm
      · exact silent (.inr old)

/-- Only a party that is not through speaks. -/
theorem not_closed_of_said (sound : floor.Sound) (works : said.isOpening = false)
    (taken : floor.step said = some next) : said.key ∉ floor.closed := by
  rcases step_cases taken with ⟨same, rfl, _⟩ | ⟨same, rfl, may, _⟩ |
    ⟨same, rfl, may, _⟩ | ⟨same, rfl, may, _⟩ | ⟨same, rfl, speaking, _⟩
  · cases works
  · exact may.2.1
  · exact may.2.1
  · exact may.2.1
  · exact sound.notClosed same true speaking

/-- Between two things that a party says, no other party says anything, openings
apart. -/
theorem serial_of_run {before between behind : List (Utterance Key)}
    {one another : Utterance Key}
    (run : Run step empty (before ++ one :: (between ++ another :: behind)) floor)
    (oneWorks : one.isOpening = false) (anotherWorks : another.isOpening = false)
    (same : another.key = one.key) :
    ∀ said ∈ between, said.isOpening = false → said.key = one.key := by
  intro said member works
  by_contra apart
  obtain ⟨early, late, rfl⟩ := List.append_of_mem member
  obtain ⟨first, reachesFirst, run⟩ := run_append_iff.mp run
  obtain ⟨second, takenOne, run⟩ := run_cons_iff.mp run
  obtain ⟨fifth, run, rest⟩ := run_append_iff.mp run
  obtain ⟨third, runEarly, run⟩ := run_append_iff.mp run
  obtain ⟨fourth, takenSaid, runLate⟩ := run_cons_iff.mp run
  obtain ⟨sixth, takenAnother, _⟩ := run_cons_iff.mp rest
  have spoken : third.Spoken one.key :=
    runEarly.invariant (Spoken · one.key) (spoken_of_said oneWorks takenOne)
      fun _ _ _ spoken _ taken => spoken.step taken
  have through : one.key ∈ fifth.closed :=
    runLate.invariant (one.key ∈ ·.closed)
      (spoken.closed_of_other works apart takenSaid)
      fun _ _ _ closed _ taken => closed_step closed taken
  have soundFifth : fifth.Sound := by
    have all := (((reachesFirst.extend trivial takenOne).append runEarly).extend
      trivial takenSaid).append runLate
    exact sound_run all
  rw [← same] at through
  exact not_closed_of_said soundFifth anotherWorks takenAnother through

end Steps

end Floor

end TakingTurns
