import NetGuardian.CacheManager
import NetGuardian.Foundation.DecimalText
import NetGuardian.Foundation.DistinctKeys

/-!
# Timestamps as texts

The cache keeps its timestamps as the texts of `Utc::now().to_rfc3339()` and
compares the texts.  Their fractions have zero, three, six or nine digits, so
that the texts differ in length; they are still in the order of the instants.
-/

namespace NetGuardian

open DecimalText

def IsLeapYear (year : Nat) : Prop :=
  year % 4 = 0 ∧ (year % 100 ≠ 0 ∨ year % 400 = 0)

instance (year : Nat) : Decidable (IsLeapYear year) :=
  inferInstanceAs (Decidable (_ ∧ _))

def daysInMonth (year : Nat) : Nat → Nat
  | 2 => if IsLeapYear year then 29 else 28
  | 4 | 6 | 9 | 11 => 30
  | _ => 31

def daysInYear (year : Nat) : Nat :=
  if IsLeapYear year then 366 else 365

/-- The days of a year before a month. -/
def daysBeforeMonth (year month : Nat) : Nat :=
  blockStart (fun earlier => daysInMonth year (earlier + 1)) (month - 1)

theorem daysBeforeMonth_add_le (year : Nat) {month later : Nat}
    (started : 1 ≤ month) (before : month < later) :
    daysBeforeMonth year month + daysInMonth year month ≤
      daysBeforeMonth year later := by
  have next := blockStart_add_le (fun earlier => daysInMonth year (earlier + 1))
    (show month - 1 < later - 1 by omega)
  have same : month - 1 + 1 = month := by omega
  rw [same] at next
  exact next

/-- The months make up the year. -/
theorem daysBeforeMonth_add_le_year (year : Nat) {month : Nat}
    (started : 1 ≤ month) (within : month ≤ 12) :
    daysBeforeMonth year month + daysInMonth year month ≤ daysInYear year := by
  have whole : daysBeforeMonth year 13 = daysInYear year := by
    simp only [daysBeforeMonth, blockStart, daysInMonth, daysInYear]
    split <;> rfl
  rw [← whole]
  exact daysBeforeMonth_add_le year started (by omega)

/-- A date and time of the years that have four digits. -/
structure DateTime where
  year : Nat
  month : Nat
  day : Nat
  hour : Nat
  minute : Nat
  second : Nat
  nanosecond : Nat
  year_le : year ≤ 9999
  month_pos : 1 ≤ month
  month_le : month ≤ 12
  day_pos : 1 ≤ day
  day_le : day ≤ daysInMonth year month
  hour_lt : hour < 24
  minute_lt : minute < 60
  second_lt : second < 60
  nanosecond_lt : nanosecond < 10 ^ 9

namespace DateTime

/-- Days since the beginning of the year zero. -/
def dayNumber (time : DateTime) : Nat :=
  blockStart daysInYear time.year + daysBeforeMonth time.year time.month +
    (time.day - 1)

/-- Nanoseconds since the beginning of the year zero. -/
def instant (time : DateTime) : Nat :=
  (((time.dayNumber * 24 + time.hour) * 60 + time.minute) * 60 + time.second) *
    10 ^ 9 + time.nanosecond

def fields (time : DateTime) : List Nat :=
  [time.year, time.month, time.day, time.hour, time.minute, time.second,
    time.nanosecond]

theorem daysInMonth_le (year month : Nat) : daysInMonth year month ≤ 31 := by
  unfold daysInMonth
  split
  · split <;> omega
  · omega
  · omega
  · omega
  · omega
  · omega

/-- How many digits the fraction of a second needs. -/
def fractionDigits (nanosecond : Nat) : Nat :=
  if nanosecond = 0 then 0
  else if nanosecond % 10 ^ 6 = 0 then 3
  else if nanosecond % 10 ^ 3 = 0 then 6
  else 9

def fraction (nanosecond : Nat) : List Char :=
  if fractionDigits nanosecond = 0 then []
  else '.' :: padded (fractionDigits nanosecond)
    (nanosecond / 10 ^ (9 - fractionDigits nanosecond))

/-- The fraction and the offset of UTC. -/
def ending (nanosecond : Nat) : List Char :=
  fraction nanosecond ++ ['+', '0', '0', ':', '0', '0']

/-- `to_rfc3339` of a time in UTC. -/
def toRfc3339 (time : DateTime) : String :=
  String.ofList (padded 4 time.year ++ '-' :: (padded 2 time.month ++ '-' ::
    (padded 2 time.day ++ 'T' :: (padded 2 time.hour ++ ':' ::
      (padded 2 time.minute ++ ':' :: (padded 2 time.second ++
        ending time.nanosecond))))))

section Instants

variable {time other : DateTime}

theorem dayNumber_lt_of_year_lt (earlier : time.year < other.year) :
    time.dayNumber < other.dayNumber := by
  have years := blockStart_add_le daysInYear earlier
  have months := daysBeforeMonth_add_le_year time.year time.month_pos time.month_le
  have days := time.day_le
  have started := time.day_pos
  unfold dayNumber
  omega

theorem dayNumber_lt_of_month_lt (sameYear : time.year = other.year)
    (earlier : time.month < other.month) : time.dayNumber < other.dayNumber := by
  have months := daysBeforeMonth_add_le time.year time.month_pos earlier
  have days := time.day_le
  have started := time.day_pos
  unfold dayNumber
  rw [← sameYear]
  omega

theorem dayNumber_lt_of_day_lt (sameYear : time.year = other.year)
    (sameMonth : time.month = other.month) (earlier : time.day < other.day) :
    time.dayNumber < other.dayNumber := by
  have started := time.day_pos
  unfold dayNumber
  rw [sameYear, sameMonth]
  omega

theorem instant_lt_of_dayNumber_lt (earlier : time.dayNumber < other.dayNumber) :
    time.instant < other.instant := by
  have hours := time.hour_lt
  have minutes := time.minute_lt
  have seconds := time.second_lt
  have nanoseconds := time.nanosecond_lt
  unfold instant
  omega

/-- A calendar that counts field by field agrees with the time line. -/
theorem instant_lt_of_fields_lt (earlier : time.fields < other.fields) :
    time.instant < other.instant := by
  have minutes := time.minute_lt
  have seconds := time.second_lt
  have nanoseconds := time.nanosecond_lt
  simp only [fields, List.cons_lt_cons_iff, List.not_lt_nil, and_false,
    or_false] at earlier
  rcases earlier with year | ⟨sameYear, month | ⟨sameMonth, day | ⟨sameDay, later⟩⟩⟩
  · exact instant_lt_of_dayNumber_lt (dayNumber_lt_of_year_lt year)
  · exact instant_lt_of_dayNumber_lt (dayNumber_lt_of_month_lt sameYear month)
  · exact instant_lt_of_dayNumber_lt
      (dayNumber_lt_of_day_lt sameYear sameMonth day)
  · have sameDate : time.dayNumber = other.dayNumber := by
      rw [dayNumber, dayNumber, sameYear, sameMonth, sameDay]
    unfold instant
    omega

theorem instant_eq_of_fields_eq (same : time.fields = other.fields) :
    time.instant = other.instant := by
  simp only [fields, List.cons.injEq, and_true] at same
  obtain ⟨year, month, day, hour, minute, second, nanosecond⟩ := same
  rw [instant, instant, dayNumber, dayNumber, year, month, day, hour, minute,
    second, nanosecond]

theorem fields_lt_iff : time.fields < other.fields ↔ time.instant < other.instant := by
  constructor
  · exact instant_lt_of_fields_lt
  · intro earlier
    rcases lt_trichotomy time.fields other.fields with before | same | after
    · exact before
    · exact absurd (instant_eq_of_fields_eq same) (Nat.ne_of_lt earlier)
    · exact absurd (instant_lt_of_fields_lt after) (Nat.lt_asymm earlier)

end Instants

section Fractions

variable {nanosecond other : Nat}

/-- The fraction is exact. -/
theorem padded_fractionDigits (nanosecond : Nat) :
    padded 9 nanosecond =
      padded (fractionDigits nanosecond)
          (nanosecond / 10 ^ (9 - fractionDigits nanosecond)) ++
        List.replicate (9 - fractionDigits nanosecond) '0' := by
  have isExact : fractionDigits nanosecond ≤ 9 ∧
      nanosecond / 10 ^ (9 - fractionDigits nanosecond) *
        10 ^ (9 - fractionDigits nanosecond) = nanosecond := by
    unfold fractionDigits
    split
    · next zero => simp [zero]
    · split
      · omega
      · split
        · omega
        · omega
  rw [← padded_mul_pow, isExact.2, Nat.add_sub_cancel' isExact.1]

/-- Fractions are in the order of their numbers, whatever their lengths. -/
theorem ending_lt (small : other < 10 ^ 9) (less : nanosecond < other) :
    ending nanosecond < ending other := by
  have ordered : padded 9 nanosecond < padded 9 other :=
    padded_strictMonoOn 9 (less.trans small) small less
  have positive : fractionDigits other ≠ 0 := by
    unfold fractionDigits
    rw [if_neg (by omega)]
    split
    · decide
    · split <;> decide
  rw [ending, ending, fraction, fraction, if_neg positive]
  by_cases noDigits : fractionDigits nanosecond = 0
  · rw [if_pos noDigits, List.nil_append, List.cons_append, List.cons_lt_cons_iff]
    exact .inl (by decide)
  · rw [if_neg noDigits, List.cons_append, List.cons_append, List.cons_lt_cons_iff]
    refine .inr ⟨rfl, ?_⟩
    rw [padded_fractionDigits nanosecond, padded_fractionDigits other] at ordered
    apply trimmed_lt (by decide) (fun _ => zero_le_of_mem_padded)
      (fun _ => zero_le_of_mem_padded) _ ordered
    have lengths := congrArg List.length (padded_fractionDigits nanosecond)
    have others := congrArg List.length (padded_fractionDigits other)
    simp only [List.length_append, length_padded, List.length_replicate]
      at lengths others ⊢
    omega

theorem ending_lt_iff (small : nanosecond < 10 ^ 9) (otherSmall : other < 10 ^ 9) :
    ending nanosecond < ending other ↔ nanosecond < other := by
  have increasing : StrictMonoOn ending (Set.Iio (10 ^ 9)) :=
    fun _ _ _ below less => ending_lt below less
  exact increasing.lt_iff_lt small otherSmall

end Fractions

/-- The texts are in the order of the instants. -/
theorem toRfc3339_lt_iff (time other : DateTime) :
    time.toRfc3339 < other.toRfc3339 ↔ time.instant < other.instant := by
  have twoDigits : ∀ {number bound : Nat}, number < bound → bound ≤ 100 →
      number < 10 ^ 2 := by
    intro number bound below small
    omega
  have day : ∀ time : DateTime, time.day < 10 ^ 2 := by
    intro time
    have most := daysInMonth_le time.year time.month
    have within := time.day_le
    omega
  have month : ∀ time : DateTime, time.month < 10 ^ 2 := fun time =>
    twoDigits (Nat.lt_succ_of_le time.month_le) (by decide)
  have year : ∀ time : DateTime, time.year < 10 ^ 4 := fun time =>
    Nat.lt_succ_of_le time.year_le
  rw [← fields_lt_iff, String.lt_iff_toList_lt, toRfc3339, toRfc3339,
    String.toList_ofList, String.toList_ofList,
    field_lt_iff (year time) (year other), field_lt_iff (month time) (month other),
    field_lt_iff (day time) (day other),
    field_lt_iff (twoDigits time.hour_lt (by decide))
      (twoDigits other.hour_lt (by decide)),
    field_lt_iff (twoDigits time.minute_lt (by decide))
      (twoDigits other.minute_lt (by decide)),
    numeral_lt_iff (twoDigits time.second_lt (by decide))
      (twoDigits other.second_lt (by decide)),
    ending_lt_iff time.nanosecond_lt other.nanosecond_lt]
  simp only [fields, List.cons_lt_cons_iff, List.not_lt_nil, and_false, or_false]

end DateTime

namespace CacheManager

variable {cache : CacheManager}

/-- One entry leaves the cache, and no entry of the cache has been used less, or
as often and less recently. -/
theorem evictOne_least_recent (disk : Disk) (removed : Path → Bool)
    (times : CacheEntry → DateTime)
    (produced : ∀ entry ∈ cache.entries,
      entry.lastAccess = (times entry).toRfc3339)
    (nonempty : cache.entries ≠ []) :
    ∃ before entry behind, cache.entries = before ++ entry :: behind ∧
      cache.evictOne disk removed =
        some ({ cache with entries := before ++ behind },
          disk.removeFile removed entry.path, entry) ∧
      ∀ other ∈ cache.entries, ¬ (other.accessCount < entry.accessCount ∨
        other.accessCount = entry.accessCount ∧
          (times other).instant < (times entry).instant) := by
  cases evicted : cache.evictOne disk removed with
  | none => exact absurd (evictOne_eq_none evicted) nonempty
  | some next =>
      obtain ⟨index, entry, found, rfl, least⟩ := evictOne_spec evicted
      obtain ⟨before, behind, split, rest⟩ := DistinctKeys.exists_split found
      refine ⟨before, entry, behind, split, by rw [rest], ?_⟩
      intro other member
      obtain ⟨position, atPosition⟩ := List.mem_iff_getElem?.mp member
      have first := (least position other atPosition).1
      rw [evictionKey, evictionKey, Prod.Lex.toLex_le_toLex] at first
      rintro (used | ⟨sameCount, sooner⟩)
      · rcases first with more | ⟨same, _⟩
        · exact Nat.lt_asymm used more
        · exact absurd same.symm (Nat.ne_of_lt used)
      · rw [← DateTime.toRfc3339_lt_iff, ← produced other member,
          ← produced entry (List.mem_of_getElem? found)] at sooner
        rcases first with more | ⟨_, earlier⟩
        · exact absurd sameCount.symm (Nat.ne_of_lt more)
        · exact absurd sooner (not_lt_of_ge earlier)

/-- The beginning of a year and a number of nanoseconds after it. -/
def newYear (nanosecond : Nat) (small : nanosecond < 10 ^ 9) : DateTime where
  year := 2024
  month := 1
  day := 1
  hour := 0
  minute := 0
  second := 0
  nanosecond := nanosecond
  year_le := by decide
  month_pos := by decide
  month_le := by decide
  day_pos := by decide
  day_le := by decide
  hour_lt := by decide
  minute_lt := by decide
  second_lt := by decide
  nanosecond_lt := small

/-- When the two entries of `twoUnread` were put. -/
def putTimes (entry : CacheEntry) : DateTime :=
  if entry.key = "first" then newYear 0 (by decide)
  else newYear 500000000 (by decide)

/-- An entry of one byte that has been put at a time and not been read. -/
def unread (key : String) (time : DateTime) : CacheEntry where
  key := key
  path := key
  sizeBytes := 1
  cacheType := .generic
  createdAt := time.toRfc3339
  lastAccess := time.toRfc3339
  accessCount := 0
  metadata := ∅

/-- Two such entries, half a second apart; the text of the second is longer. -/
def twoUnread : CacheManager :=
  { CacheManager.new "/cache" 10 with
    entries := [unread "first" (newYear 0 (by decide)),
      unread "second" (newYear 500000000 (by decide))] }

theorem evictOne_least_recent_twoUnread :
    ∃ before entry behind, twoUnread.entries = before ++ entry :: behind ∧
      twoUnread.evictOne (fun _ => none) (fun _ => true) =
        some ({ twoUnread with entries := before ++ behind },
          Disk.removeFile (fun _ => none) (fun _ => true) entry.path, entry) ∧
      ∀ other ∈ twoUnread.entries, ¬ (other.accessCount < entry.accessCount ∨
        other.accessCount = entry.accessCount ∧
          (putTimes other).instant < (putTimes entry).instant) := by
  apply evictOne_least_recent _ _ putTimes
  · intro entry member
    simp only [twoUnread, List.mem_cons, List.not_mem_nil, or_false] at member
    rcases member with rfl | rfl
    · rfl
    · rfl
  · exact List.cons_ne_nil _ _

end CacheManager

end NetGuardian
