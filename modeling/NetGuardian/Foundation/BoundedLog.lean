import Mathlib.Data.List.Basic

/-!
# Bounded logs

A bounded log appends at the back and drops its oldest entry as soon as it
would exceed its capacity.  Its content is therefore always the newest part of
the full, unbounded history; this file proves that once, so that a component
that keeps such a log can be compared with its history.
-/

namespace BoundedLog

variable {Entry : Type*}

/-- Append an entry, dropping the oldest one when the capacity is exceeded. -/
def push (capacity : Nat) (log : List Entry) (entry : Entry) : List Entry :=
  if capacity < (log ++ [entry]).length then (log ++ [entry]).tail
  else log ++ [entry]

/-- The newest `capacity` entries of a history. -/
def newest (capacity : Nat) (history : List Entry) : List Entry :=
  history.drop (history.length - capacity)

@[simp]
theorem newest_nil (capacity : Nat) :
    newest capacity ([] : List Entry) = [] := by
  simp [newest]

/-- A log within its capacity stays within it. -/
theorem length_push_le {capacity : Nat} {log : List Entry} {entry : Entry}
    (fits : log.length ≤ capacity) : (push capacity log entry).length ≤ capacity := by
  have size : (log ++ [entry]).length = log.length + 1 := by simp
  rw [push]
  split
  · rw [List.length_tail, size]
    exact fits
  · next small => exact Nat.not_lt.mp small

/-- Pushing keeps the log equal to the newest part of the history. -/
theorem push_newest (capacity : Nat) (history : List Entry) (entry : Entry) :
    push capacity (newest capacity history) entry =
      newest capacity (history ++ [entry]) := by
  have grown : newest capacity history ++ [entry] =
      (history ++ [entry]).drop (history.length - capacity) := by
    rw [newest, List.drop_append_of_le_length (by omega)]
  have size : ((history ++ [entry]).drop (history.length - capacity)).length =
      history.length + 1 - (history.length - capacity) := by simp
  rw [push, grown, size, newest]
  by_cases full : capacity < history.length + 1 - (history.length - capacity)
  · rw [if_pos full, ← List.drop_one, List.drop_drop, List.length_append,
      List.length_singleton]
    congr 1
    omega
  · rw [if_neg full, List.length_append, List.length_singleton]
    congr 1
    omega

theorem newest_suffix (capacity : Nat) (history : List Entry) :
    newest capacity history <:+ history :=
  List.drop_suffix _ _

theorem length_newest (capacity : Nat) (history : List Entry) :
    (newest capacity history).length = min history.length capacity := by
  rw [newest, List.length_drop]
  omega

/-- Making room before the entry is appended comes to the same, if there is any
room to make. -/
theorem makeRoom_append {capacity : Nat} (positive : 0 < capacity)
    (log : List Entry) (entry : Entry) :
    (if capacity ≤ log.length then log.tail else log) ++ [entry] =
      push capacity log entry := by
  rw [push, List.length_append, List.length_singleton]
  by_cases full : capacity ≤ log.length
  · have nonempty : log ≠ [] :=
      List.ne_nil_of_length_pos (Nat.lt_of_lt_of_le positive full)
    rw [if_pos full, if_pos (Nat.lt_succ_of_le full),
      List.tail_append_of_ne_nil nonempty]
  · rw [if_neg full, if_neg fun exceeded => full (Nat.le_of_lt_succ exceeded)]

end BoundedLog
