import Mathlib.Data.List.Count
import Mathlib.Logic.Function.Basic
import Mathlib.Logic.Relation

/-!
# Writing to pipes that nobody reads

A writer has bytes left to write, each of them to one of several pipes.  A pipe
holds a bounded number of bytes, and a write to a full pipe blocks.  Without a
reader nothing leaves a pipe, so the writer gets through exactly when all its
bytes fit.
-/

namespace Pipes

/-- The bytes still to be written, named by their pipes, and the number of
bytes in each pipe. -/
structure Writer (Stream : Type*) where
  pending : List Stream
  held : Stream → Nat

namespace Writer

variable {Stream : Type*}

def start (output : List Stream) : Writer Stream where
  pending := output
  held := fun _ => 0

/-- The pipe of the next byte is full. -/
def Blocked (capacity : Stream → Nat) (writer : Writer Stream) : Prop :=
  ∃ stream rest, writer.pending = stream :: rest ∧
    capacity stream ≤ writer.held stream

theorem Blocked.pending_ne_nil {capacity : Stream → Nat}
    {writer : Writer Stream} (blocked : writer.Blocked capacity) :
    writer.pending ≠ [] := by
  obtain ⟨stream, rest, pending, _⟩ := blocked
  rw [pending]
  exact List.cons_ne_nil stream rest

variable [DecidableEq Stream]

/-- The next byte is written, if there is one and its pipe has room. -/
def write (capacity : Stream → Nat) (writer : Writer Stream) :
    Option (Writer Stream) :=
  match writer.pending with
  | [] => none
  | stream :: rest =>
      if writer.held stream < capacity stream then
        some ⟨rest, Function.update writer.held stream (writer.held stream + 1)⟩
      else none

/-- All that a pipe will have to hold. -/
def total (writer : Writer Stream) (stream : Stream) : Nat :=
  writer.held stream + writer.pending.count stream

def Fits (capacity : Stream → Nat) (writer : Writer Stream) : Prop :=
  ∀ stream, writer.total stream ≤ capacity stream

variable {capacity : Stream → Nat} {writer next : Writer Stream}

@[simp]
theorem total_start (output : List Stream) (stream : Stream) :
    (start output).total stream = output.count stream :=
  Nat.zero_add _

/-- Everything a write can do. -/
theorem write_eq_some (written : writer.write capacity = some next) :
    ∃ stream rest, writer.pending = stream :: rest ∧
      writer.held stream < capacity stream ∧
      next = ⟨rest,
        Function.update writer.held stream (writer.held stream + 1)⟩ := by
  unfold write at written
  split at written
  · cases written
  · next stream rest pending =>
      split at written
      · next room =>
          cases written
          exact ⟨stream, rest, pending, room, rfl⟩
      · cases written

theorem Blocked.write_eq_none (blocked : writer.Blocked capacity) :
    writer.write capacity = none := by
  obtain ⟨stream, rest, pending, full⟩ := blocked
  rw [write, pending]
  exact if_neg (Nat.not_lt.mpr full)

/-- A byte moves from the writer into its pipe. -/
theorem total_write (written : writer.write capacity = some next)
    (stream : Stream) : next.total stream = writer.total stream := by
  obtain ⟨head, rest, pending, _, rfl⟩ := write_eq_some written
  unfold total
  rw [pending, List.count_cons]
  by_cases same : head = stream
  · subst same
    simp only [Function.update_self, BEq.rfl, if_true]
    omega
  · have other : stream ≠ head := fun equal => same equal.symm
    simp [Function.update_of_ne other, same]

theorem held_write (written : writer.write capacity = some next)
    (room : ∀ stream, writer.held stream ≤ capacity stream) (stream : Stream) :
    next.held stream ≤ capacity stream := by
  obtain ⟨head, rest, _, below, rfl⟩ := write_eq_some written
  by_cases same : stream = head
  · subst same
    simpa using Nat.succ_le_of_lt below
  · simpa [Function.update_of_ne same] using room stream

/-- A writer whose bytes fit never waits. -/
theorem Fits.not_blocked (fits : writer.Fits capacity) :
    ¬ writer.Blocked capacity := by
  rintro ⟨stream, rest, pending, full⟩
  have enough := fits stream
  rw [total, pending, List.count_cons_self] at enough
  omega

/-- Otherwise it gets blocked after some writes. -/
theorem exists_blocked (room : ∀ stream, writer.held stream ≤ capacity stream)
    (overflow : ¬ writer.Fits capacity) :
    ∃ last, Relation.ReflTransGen
        (fun writer next => writer.write capacity = some next) writer last ∧
      last.Blocked capacity := by
  obtain ⟨pending, held⟩ := writer
  induction pending generalizing held with
  | nil =>
      refine absurd ?_ overflow
      intro stream
      exact room stream
  | cons stream rest ih =>
      by_cases full : capacity stream ≤ held stream
      · exact ⟨_, .refl, stream, rest, rfl, full⟩
      · have written : write capacity ⟨stream :: rest, held⟩ =
            some ⟨rest, Function.update held stream (held stream + 1)⟩ :=
          if_pos (Nat.lt_of_not_le full)
        have overflowAfter : ¬ Fits capacity ⟨rest,
            Function.update held stream (held stream + 1)⟩ := by
          intro fits
          apply overflow
          intro other
          rw [← total_write written other]
          exact fits other
        obtain ⟨last, writes, blocked⟩ :=
          ih _ (held_write written room) overflowAfter
        exact ⟨last, .head written writes, blocked⟩

end Writer

end Pipes
