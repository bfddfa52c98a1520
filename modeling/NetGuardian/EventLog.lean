import NetGuardian.Foundation.BoundedLog
import NetGuardian.Primitives

/-!
# The event log

A log of the last events in memory.  `record` makes room before it appends the
new entry: a log without any capacity has nothing to remove then, and panics at
its first entry.  Every other log is the newest part of its history.
-/

namespace NetGuardian

structure LogEntry where
  timestamp : String
  level : String
  module : String
  message : String
deriving DecidableEq

structure EventLog where
  entries : List LogEntry
  maxEntries : Nat
deriving DecidableEq

namespace EventLog

/-- The bytes of a `LogEntry`: four strings of three words of 64 bits. -/
def entrySize : Nat := 96

/-- `Vec::with_capacity` panics if the entries would take more than
`isize::MAX` bytes. -/
def new (maxEntries : Nat) : Option EventLog :=
  if maxEntries * entrySize < 2 ^ 63 then some ⟨[], maxEntries⟩ else none

/-- `Vec::remove(0)`, which panics if there is nothing to remove. -/
def removeFirst : List LogEntry → Option (List LogEntry)
  | [] => none
  | _ :: entries => some entries

/-- `none` if the removal panics. -/
def record (log : EventLog) (timestamp level module message : String) :
    Option EventLog :=
  let entry : LogEntry := ⟨timestamp, level, module, message⟩
  let kept :=
    if log.maxEntries ≤ log.entries.length then removeFirst log.entries
    else some log.entries
  kept.map fun entries => { log with entries := entries ++ [entry] }

def info (log : EventLog) (timestamp module message : String) : Option EventLog :=
  log.record timestamp "INFO" module message

def error (log : EventLog) (timestamp module message : String) : Option EventLog :=
  log.record timestamp "ERROR" module message

def recent (log : EventLog) (count : Nat) : List LogEntry :=
  log.entries.drop (log.entries.length - count)

def byModule (log : EventLog) (module : String) : List LogEntry :=
  log.entries.filter fun entry => entry.module = module

/-- A run of calls of `record`, given by the entries that they make; `none` if
one of them panics. -/
def recordAll (log : EventLog) (recorded : List LogEntry) : Option EventLog :=
  recorded.foldlM (fun log entry =>
    log.record entry.timestamp entry.level entry.module entry.message) log

/-- No call panics, and the entries and the recent ones are the last ones of the
history and of the entries, as many as there should be. -/
def BoundedSuffix (log : EventLog) (recorded : List LogEntry) : Prop :=
  ∃ final, log.recordAll recorded = some final ∧
    final.entries <:+ recorded ∧
    final.entries.length = min recorded.length log.maxEntries ∧
    ∀ count, final.recent count <:+ final.entries ∧
      (final.recent count).length = min count final.entries.length

section Runs

variable {log : EventLog} {maxEntries : Nat}

theorem new_eq_some (accepted : new maxEntries = some log) : log = ⟨[], maxEntries⟩ := by
  rw [new, Option.ite_none_right_eq_some] at accepted
  exact (Option.some.inj accepted.2).symm

/-- A log with a capacity keeps the newest entries. -/
theorem record_of_pos (positive : 0 < log.maxEntries) (entry : LogEntry) :
    log.record entry.timestamp entry.level entry.module entry.message =
      some { log with
        entries := BoundedLog.push log.maxEntries log.entries entry } := by
  rw [← BoundedLog.makeRoom_append positive, record]
  by_cases full : log.maxEntries ≤ log.entries.length
  · obtain ⟨first, others, split⟩ := List.exists_cons_of_length_pos
      (Nat.lt_of_lt_of_le positive full)
    rw [if_pos full, if_pos full, split]
    rfl
  · rw [if_neg full, if_neg full]
    rfl

/-- A log without a capacity cannot record anything. -/
theorem record_of_zero (timestamp level module message : String) :
    record ⟨[], 0⟩ timestamp level module message = none :=
  rfl

/-- From the newest part of a history on, a run leads to the newest part of the
longer history. -/
theorem recordAll_newest (positive : 0 < maxEntries) (history recorded : List LogEntry) :
    recordAll ⟨BoundedLog.newest maxEntries history, maxEntries⟩ recorded =
      some ⟨BoundedLog.newest maxEntries (history ++ recorded), maxEntries⟩ := by
  induction recorded generalizing history with
  | nil => rw [List.append_nil, recordAll, List.foldlM_nil, Option.pure_def]
  | cons entry recorded ih =>
      rw [recordAll, List.foldlM_cons, record_of_pos positive, Option.bind_eq_bind,
        Option.bind_some, BoundedLog.push_newest]
      have rest := ih (history ++ [entry])
      rwa [List.append_assoc, List.singleton_append] at rest

theorem recordAll_new (positive : 0 < maxEntries) (recorded : List LogEntry) :
    recordAll ⟨[], maxEntries⟩ recorded =
      some ⟨BoundedLog.newest maxEntries recorded, maxEntries⟩ := by
  have run := recordAll_newest positive [] recorded
  rwa [BoundedLog.newest_nil, List.nil_append] at run

theorem recent_suffix (count : Nat) : log.recent count <:+ log.entries :=
  BoundedLog.newest_suffix count log.entries

theorem length_recent (count : Nat) :
    (log.recent count).length = min count log.entries.length :=
  (BoundedLog.length_newest count log.entries).trans (Nat.min_comm _ _)

/-- The entries of a module after a run are those among the newest ones. -/
theorem byModule_recordAll (positive : 0 < maxEntries) (recorded : List LogEntry)
    (module : String) :
    (recordAll ⟨[], maxEntries⟩ recorded).map (byModule · module) =
      some ((BoundedLog.newest maxEntries recorded).filter
        fun entry => entry.module = module) := by
  rw [recordAll_new positive, Option.map_some]
  rfl

end Runs

/-- The log is a bounded part of its history exactly if it has a capacity or
nothing is recorded. -/
theorem boundedSuffix_iff {maxEntries : Nat} {log : EventLog}
    (accepted : new maxEntries = some log) (recorded : List LogEntry) :
    log.BoundedSuffix recorded ↔ 0 < maxEntries ∨ recorded = [] := by
  rw [new_eq_some accepted]
  constructor
  · rintro ⟨final, run, _⟩
    by_contra neither
    rw [not_or, Nat.not_lt, Nat.le_zero] at neither
    obtain ⟨rfl, nonempty⟩ := neither
    obtain ⟨entry, others, rfl⟩ := List.exists_cons_of_ne_nil nonempty
    rw [recordAll, List.foldlM_cons, record_of_zero] at run
    cases run
  · rintro (positive | rfl)
    · exact ⟨_, recordAll_new positive recorded, BoundedLog.newest_suffix _ _,
        BoundedLog.length_newest _ _, fun count => ⟨recent_suffix count,
          length_recent count⟩⟩
    · exact ⟨_, rfl, List.suffix_rfl, (Nat.zero_min _).symm, fun count =>
        ⟨recent_suffix count, length_recent count⟩⟩

/-- A log of two entries that records three. -/
theorem boundedSuffix_two :
    BoundedSuffix ⟨[], 2⟩ [⟨"0", "INFO", "main", "a"⟩, ⟨"1", "WARN", "main", "b"⟩,
      ⟨"2", "ERROR", "main", "c"⟩] := by
  have accepted : new 2 = some ⟨[], 2⟩ := by decide
  exact (boundedSuffix_iff accepted _).mpr (.inl (by decide))

/-- A log of no entries is accepted, and panics at the first event. -/
theorem empty_log_panics :
    new 0 = some ⟨[], 0⟩ ∧ info ⟨[], 0⟩ "0" "main" "started" = none ∧
      ¬ BoundedSuffix ⟨[], 0⟩ [⟨"0", "INFO", "main", "started"⟩] := by
  refine ⟨by decide, rfl, ?_⟩
  rintro ⟨final, run, _⟩
  cases run

end EventLog

end NetGuardian
