import Mathlib.Data.List.Basic
import Mathlib.Data.List.Count
import Mathlib.Order.Nat

/-!
# Bounded broadcast channels

A bounded broadcast channel keeps the last `capacity` values that were sent.
Every receiver has a cursor into the whole history of sent values.  A receiver
that is more than `capacity` values behind is told so by its next receive and
then continues with the oldest value that is still there; the values it missed
are gone.

The history `sent` is shared, so the functions below take it as an argument
and describe one receiver.  The receiver carries two pieces of bookkeeping: what
it was given, and which values were overwritten before it could read them.
-/

namespace Broadcast

variable {Event : Type*}

/-- One receiver of a broadcast channel. -/
structure Receiver (Event : Type*) where
  subscribedAt : Nat
  cursor : Nat
  delivered : List Event
  overwritten : List Event

/-- The answers of a receive attempt. -/
inductive Reception (Event : Type*) where
  | empty
  | lagged (missed : Nat)
  | event (value : Event)

/-- A fresh receiver sees only what is sent after its subscription. -/
def subscribe (sent : List Event) : Receiver Event where
  subscribedAt := sent.length
  cursor := sent.length
  delivered := []
  overwritten := []

/-- Position of the oldest value that the receiver can still be given. -/
def windowStart (capacity : Nat) (sent : List Event)
    (receiver : Receiver Event) : Nat :=
  max receiver.cursor (sent.length - capacity)

/-- The values that the receiver has not been given and that still exist. -/
def unread (capacity : Nat) (sent : List Event)
    (receiver : Receiver Event) : List Event :=
  sent.drop (windowStart capacity sent receiver)

/-- The unread values that sending `events` pushes out of the channel. -/
def newlyOverwritten (capacity : Nat) (sent events : List Event)
    (receiver : Receiver Event) : List Event :=
  ((sent ++ events).take (windowStart capacity (sent ++ events) receiver)).drop
    (windowStart capacity sent receiver)

/-- The receiver's bookkeeping when `events` are sent. -/
def publish (capacity : Nat) (sent events : List Event)
    (receiver : Receiver Event) : Receiver Event :=
  { receiver with
    overwritten := receiver.overwritten ++
      newlyOverwritten capacity sent events receiver }

/-- The receiver is further behind than the channel can bridge. -/
def Lags (capacity : Nat) (sent : List Event)
    (receiver : Receiver Event) : Prop :=
  capacity < sent.length - receiver.cursor

instance (capacity : Nat) (sent : List Event) (receiver : Receiver Event) :
    Decidable (Lags capacity sent receiver) :=
  inferInstanceAs (Decidable (_ < _))

/-- One receive attempt. -/
def receive (capacity : Nat) (sent : List Event)
    (receiver : Receiver Event) : Reception Event × Receiver Event :=
  if Lags capacity sent receiver then
    (.lagged (sent.length - capacity - receiver.cursor),
      { receiver with cursor := sent.length - capacity })
  else
    match sent[receiver.cursor]? with
    | none => (.empty, receiver)
    | some event =>
        (.event event,
          { receiver with
            cursor := receiver.cursor + 1
            delivered := receiver.delivered ++ [event] })

/-- Nothing that was sent since the subscription is unaccounted for: it was
delivered, overwritten or is still unread, and order is kept. -/
structure Accounted (capacity : Nat) (sent : List Event)
    (receiver : Receiver Event) : Prop where
  subscribed_le : receiver.subscribedAt ≤ receiver.cursor
  cursor_le : receiver.cursor ≤ sent.length
  ordered : List.Sublist
    (receiver.delivered ++ unread capacity sent receiver)
    (sent.drop receiver.subscribedAt)
  counted : ∀ select : Event → Bool,
    receiver.delivered.countP select + receiver.overwritten.countP select +
        (unread capacity sent receiver).countP select =
      (sent.drop receiver.subscribedAt).countP select

/-- No selected event was lost: those delivered and those still unread are
together, and in order, the ones sent since the subscription. -/
def Lossless (select : Event → Bool) (capacity : Nat) (sent : List Event)
    (receiver : Receiver Event) : Prop :=
  (receiver.delivered ++ unread capacity sent receiver).filter select =
    (sent.drop receiver.subscribedAt).filter select

section Accounting

variable {capacity : Nat} {sent : List Event} {receiver : Receiver Event}

theorem accounted_subscribe (capacity : Nat) (sent : List Event) :
    Accounted capacity sent (subscribe sent) where
  subscribed_le := le_rfl
  cursor_le := le_rfl
  ordered := by simp [subscribe, unread, windowStart]
  counted := by simp [subscribe, unread, windowStart]

theorem windowStart_le_length (accounted : Accounted capacity sent receiver) :
    windowStart capacity sent receiver ≤ sent.length := by
  have := accounted.cursor_le
  simp only [windowStart]
  omega

theorem windowStart_le_publish (capacity : Nat) (sent events : List Event)
    (receiver : Receiver Event) :
    windowStart capacity sent receiver ≤
      windowStart capacity (sent ++ events) receiver := by
  simp only [windowStart, List.length_append]
  omega

@[simp]
theorem newlyOverwritten_nil (capacity : Nat) (sent : List Event)
    (receiver : Receiver Event) :
    newlyOverwritten capacity sent [] receiver = [] := by
  simp [newlyOverwritten]

/-- Sending nothing changes nothing. -/
@[simp]
theorem publish_nil (capacity : Nat) (sent : List Event)
    (receiver : Receiver Event) :
    publish capacity sent [] receiver = receiver := by
  simp [publish]

/-- Receiving overwrites nothing. -/
@[simp]
theorem receive_overwritten (capacity : Nat) (sent : List Event)
    (receiver : Receiver Event) :
    (receive capacity sent receiver).2.overwritten = receiver.overwritten := by
  unfold receive
  split
  · rfl
  · split <;> rfl

/-- What was delivered grows by the event that is handed out. -/
theorem receive_delivered (capacity : Nat) (sent : List Event)
    (receiver : Receiver Event) :
    (receive capacity sent receiver).2.delivered =
      match (receive capacity sent receiver).1 with
      | .event event => receiver.delivered ++ [event]
      | .lagged _ | .empty => receiver.delivered := by
  unfold receive
  split
  · rfl
  · split <;> rfl

/-- Sending splits the old window and the new values into what is pushed out
and what can still be read. -/
theorem newlyOverwritten_append_unread
    (accounted : Accounted capacity sent receiver) (events : List Event) :
    newlyOverwritten capacity sent events receiver ++
        unread capacity (sent ++ events) receiver =
      unread capacity sent receiver ++ events := by
  have forward := windowStart_le_publish capacity sent events receiver
  have split : windowStart capacity (sent ++ events) receiver =
      windowStart capacity sent receiver +
        (windowStart capacity (sent ++ events) receiver -
          windowStart capacity sent receiver) := by omega
  calc
    newlyOverwritten capacity sent events receiver ++
          unread capacity (sent ++ events) receiver =
        (sent ++ events).drop (windowStart capacity sent receiver) := by
      rw [newlyOverwritten, unread, List.drop_take]
      nth_rewrite 2 [split]
      rw [← List.drop_drop, List.take_append_drop]
    _ = unread capacity sent receiver ++ events := by
      rw [unread, List.drop_append_of_le_length
        (windowStart_le_length accounted)]

theorem accounted_publish (accounted : Accounted capacity sent receiver)
    (events : List Event) :
    Accounted capacity (sent ++ events)
      (publish capacity sent events receiver) := by
  have split := newlyOverwritten_append_unread accounted events
  have since : (sent ++ events).drop receiver.subscribedAt =
      sent.drop receiver.subscribedAt ++ events :=
    List.drop_append_of_le_length
      (accounted.subscribed_le.trans accounted.cursor_le)
  refine ⟨accounted.subscribed_le, ?_, ?_, ?_⟩
  · have := accounted.cursor_le
    simp only [publish, List.length_append]
    omega
  · change List.Sublist
      (receiver.delivered ++ unread capacity (sent ++ events) receiver)
      ((sent ++ events).drop receiver.subscribedAt)
    have suffix : List.Sublist (unread capacity (sent ++ events) receiver)
        (unread capacity sent receiver ++ events) := by
      rw [← split]
      exact List.sublist_append_right _ _
    rw [since]
    calc
      List.Sublist
          (receiver.delivered ++ unread capacity (sent ++ events) receiver)
          (receiver.delivered ++ (unread capacity sent receiver ++ events)) :=
        suffix.append_left _
      List.Sublist _ (sent.drop receiver.subscribedAt ++ events) := by
        rw [← List.append_assoc]
        exact accounted.ordered.append_right events
  · intro select
    have counts := accounted.counted select
    have splitCount := congrArg (List.countP select) split
    change receiver.delivered.countP select +
        (receiver.overwritten ++
          newlyOverwritten capacity sent events receiver).countP select +
        (unread capacity (sent ++ events) receiver).countP select =
      ((sent ++ events).drop receiver.subscribedAt).countP select
    rw [since]
    simp only [List.countP_append] at splitCount ⊢
    omega

theorem windowStart_of_not_lags (timely : ¬ Lags capacity sent receiver) :
    windowStart capacity sent receiver = receiver.cursor := by
  simp only [Lags, windowStart] at timely ⊢
  omega

theorem accounted_receive (accounted : Accounted capacity sent receiver) :
    Accounted capacity sent (receive capacity sent receiver).2 := by
  unfold receive
  by_cases lags : Lags capacity sent receiver
  · rw [if_pos lags]
    have same : windowStart capacity sent
        { receiver with cursor := sent.length - capacity } =
          windowStart capacity sent receiver := by
      simp only [Lags, windowStart] at lags ⊢
      omega
    have subscribed := accounted.subscribed_le
    refine ⟨?_, ?_, ?_, ?_⟩
    · simp only [Lags] at lags ⊢
      omega
    · simp
    · simpa only [unread, same] using accounted.ordered
    · simpa only [unread, same] using accounted.counted
  · rw [if_neg lags]
    cases found : sent[receiver.cursor]? with
    | none => exact accounted
    | some event =>
        obtain ⟨below, value⟩ := List.getElem?_eq_some_iff.mp found
        let advanced : Receiver Event :=
          { receiver with
            cursor := receiver.cursor + 1
            delivered := receiver.delivered ++ [event] }
        have next : windowStart capacity sent advanced =
            receiver.cursor + 1 := by
          simp only [Lags, windowStart, advanced] at lags ⊢
          omega
        have unreadSplit : unread capacity sent receiver =
            event :: unread capacity sent advanced := by
          rw [unread, unread, windowStart_of_not_lags lags, next,
            List.drop_eq_getElem_cons below, value]
        refine ⟨accounted.subscribed_le.trans (Nat.le_succ _), below, ?_, ?_⟩
        · have ordered := accounted.ordered
          rw [unreadSplit] at ordered
          simpa [advanced] using ordered
        · intro select
          have counts := accounted.counted select
          rw [unreadSplit] at counts
          simp only [List.countP_append, List.countP_cons, List.countP_nil]
            at counts ⊢
          change _ + (unread capacity sent advanced).countP select = _
          omega

/-- A channel is lossless for the selected events exactly when none of them
was overwritten. -/
theorem lossless_iff (select : Event → Bool)
    (accounted : Accounted capacity sent receiver) :
    Lossless select capacity sent receiver ↔
      ∀ event ∈ receiver.overwritten, select event = false := by
  have counts := accounted.counted select
  have none_iff : (∀ event ∈ receiver.overwritten, select event = false) ↔
      receiver.overwritten.countP select = 0 := by
    simp [List.countP_eq_zero]
  rw [none_iff]
  constructor
  · intro lossless
    have sizes := congrArg List.length lossless
    simp only [← List.countP_eq_length_filter, List.countP_append] at sizes
    omega
  · intro noneLost
    apply (accounted.ordered.filter select).eq_of_length
    simp only [← List.countP_eq_length_filter, List.countP_append]
    omega

end Accounting

end Broadcast
