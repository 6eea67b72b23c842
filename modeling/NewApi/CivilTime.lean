import Mathlib.Tactic.ByContra

/-!
Civil time over Unix seconds: the months of the Gregorian calendar as days since 1970-01-01,
and the clock of a location whose offset from UTC changes. `date` turns a reading of that
clock back into an instant the way Go's `time.Date` does: with the offset in force at the
instant that the offset found at the reading leads to. Where the clock skips a reading, the
result shows another one. A midnight that is neither skipped nor repeated divides the
instants into those of earlier and those of later days.
-/

namespace NewApi.CivilTime

/-- The first day of a month, counted from 1970-01-01; month 0 is the January of year 0. -/
def firstDay (month : Int) : Int :=
  -- A leap day ends the year that begins with March.
  let year := (month - 2) / 12
  365 * year + year / 4 - year / 100 + year / 400 + (153 * ((month - 2) % 12) + 2) / 5 - 719468

example : firstDay (12 * 2024 + 2) - firstDay (12 * 2024 + 1) = 29 := by decide

theorem firstDay_succ (month : Int) :
    firstDay month < firstDay (month + 1) ∧ firstDay (month + 1) ≤ firstDay month + 31 := by
  simp only [firstDay]
  by_cases last : (month - 2) % 12 = 11
  · have year : (month + 1 - 2) / 12 = (month - 2) / 12 + 1 := by omega
    omega
  · have year : (month + 1 - 2) / 12 = (month - 2) / 12 := by omega
    have next : (month + 1 - 2) % 12 = (month - 2) % 12 + 1 := by omega
    rw [year, next]
    omega

/-- Months are 146097 / 4800 days long on average, and no month starts a month off that. -/
theorem firstDay_linear (month : Int) :
    4800 * firstDay month ≤ 146097 * (month - 23640) + 146097 ∧
      146097 * (month - 23640) ≤ 4800 * firstDay month + 146097 := by
  simp only [firstDay]
  omega

/-- The month of a day: the average estimate, moved by at most one. -/
def monthOf (day : Int) : Int :=
  let guess := 4800 * day / 146097 + 23640
  if day < firstDay guess then guess - 1
  else if firstDay (guess + 1) ≤ day then guess + 1
  else guess

theorem monthOf_spec (day : Int) :
    firstDay (monthOf day) ≤ day ∧ day < firstDay (monthOf day + 1) := by
  have lower := firstDay_linear (4800 * day / 146097 + 23640 - 1)
  have upper := firstDay_linear (4800 * day / 146097 + 23640 + 1 + 1)
  simp only [monthOf]
  split
  · rename_i early
    rw [Int.sub_add_cancel]
    exact ⟨by omega, early⟩
  · split
    · rename_i late
      exact ⟨late, by omega⟩
    · omega

variable {right left days : Int}

theorem firstDay_lt (order : left < right) : firstDay left < firstDay right := by
  have climb (steps : Nat) : firstDay left < firstDay (left + 1 + steps) := by
    induction steps with
    | zero =>
      rw [Int.natCast_zero, Int.add_zero]
      exact (firstDay_succ left).1
    | succ steps ih =>
      have next := (firstDay_succ (left + 1 + steps)).1
      rw [Int.natCast_succ, ← Int.add_assoc]
      exact Int.lt_trans ih next
  have last : left + 1 + (right - (left + 1)).toNat = right := by omega
  rw [← last]
  exact climb _

theorem monthOf_lt {day month : Int} (later : day < firstDay month) : monthOf day < month := by
  by_contra reached
  have order : month ≤ monthOf day := by omega
  have start := (monthOf_spec day).1
  rcases Int.lt_or_eq_of_le order with before | same
  · have := firstDay_lt before
    omega
  · rw [same] at later
    omega

theorem monthOf_mono (order : left ≤ right) : monthOf left ≤ monthOf right := by
  have inside := (monthOf_spec right).2
  have := monthOf_lt (Int.lt_of_le_of_lt order inside)
  omega

theorem monthOf_firstDay (month : Int) : monthOf (firstDay month) = month := by
  have below := monthOf_lt (firstDay_succ month).1
  have inside := (monthOf_spec (firstDay month)).2
  by_contra different
  have before : monthOf (firstDay month) + 1 ≤ month := by omega
  rcases Int.lt_or_eq_of_le before with earlier | same
  · have := firstDay_lt earlier
    omega
  · rw [same] at inside
    omega

/-- The day number of a civil date; a month or a day past its range counts on. -/
def dayNumber (year month day : Int) : Int := firstDay (12 * year + (month - 1)) + day - 1

/-- The offset from UTC, in seconds, at every instant. -/
structure Zone where
  offset : Int → Int

namespace Zone

variable (zone : Zone)

def clock (instant : Int) : Int := instant + zone.offset instant

def date (reading : Int) : Int :=
  reading - zone.offset (reading - zone.offset reading)

def dayOf (instant : Int) : Int := zone.clock instant / 86400

def midnight (day : Int) : Int := zone.date (86400 * day)

def year (instant : Int) : Int := monthOf (zone.dayOf instant) / 12

def month (instant : Int) : Int := monthOf (zone.dayOf instant) % 12 + 1

def day (instant : Int) : Int :=
  zone.dayOf instant - firstDay (monthOf (zone.dayOf instant)) + 1

/-- Sunday is 0. -/
def weekday (instant : Int) : Int := (zone.dayOf instant + 4) % 7

/-- Moves the civil date and keeps the time of day. -/
def addDate (instant years months days : Int) : Int :=
  zone.date (86400 * dayNumber (zone.year instant + years) (zone.month instant + months)
    (zone.day instant + days) + zone.clock instant % 86400)

/-- No midnight of these days is skipped or repeated: the clock shows it at the instant
that `date` finds, an earlier day before that instant, and none after it. -/
structure Orderly (zone : Zone) (first last : Int) : Prop where
  shown : ∀ day, first ≤ day → day ≤ last → zone.clock (zone.midnight day) = 86400 * day
  divides : ∀ day, first ≤ day → day ≤ last → ∀ instant,
    zone.midnight day ≤ instant ↔ 86400 * day ≤ zone.clock instant

theorem month_year (instant : Int) :
    12 * zone.year instant + (zone.month instant - 1) = monthOf (zone.dayOf instant) := by
  simp only [year, month]
  omega

theorem dayNumber_civil (instant days : Int) :
    dayNumber (zone.year instant) (zone.month instant) (zone.day instant + days) =
      zone.dayOf instant + days := by
  rw [dayNumber, month_year, day]
  omega

theorem dayNumber_next (instant : Int) :
    dayNumber (zone.year instant) (zone.month instant + 1) (zone.day instant) =
      firstDay (monthOf (zone.dayOf instant) + 1) + zone.dayOf instant -
        firstDay (monthOf (zone.dayOf instant)) := by
  have index : 12 * zone.year instant + (zone.month instant + 1 - 1) =
      monthOf (zone.dayOf instant) + 1 := by
    rw [← month_year]
    omega
  rw [dayNumber, index, day]
  omega

theorem dayNumber_first (instant : Int) :
    dayNumber (zone.year instant) (zone.month instant) 1 =
      firstDay (monthOf (zone.dayOf instant)) := by
  rw [dayNumber, month_year]
  omega

section Orderly

variable {zone} {first last : Int} (orderly : zone.Orderly first last)

include orderly

theorem Orderly.le_dayOf {day : Int} (low : first ≤ day) (high : day ≤ last) (instant : Int) :
    zone.midnight day ≤ instant ↔ day ≤ zone.dayOf instant := by
  rw [orderly.divides day low high, dayOf]
  omega

theorem Orderly.dayOf_midnight {day : Int} (low : first ≤ day) (high : day ≤ last) :
    zone.dayOf (zone.midnight day) = day := by
  rw [dayOf, orderly.shown day low high]
  omega

theorem Orderly.dayOf_mono (low : first ≤ zone.dayOf left) (high : zone.dayOf left ≤ last)
    (order : left ≤ right) : zone.dayOf left ≤ zone.dayOf right := by
  have started := (orderly.le_dayOf low high left).mpr (Int.le_refl _)
  exact (orderly.le_dayOf low high right).mp (Int.le_trans started order)

theorem Orderly.addDate_midnight {day : Int} (low : first ≤ day) (high : day ≤ last) :
    zone.addDate (zone.midnight day) 0 0 days = zone.midnight (day + days) := by
  simp only [addDate, Int.add_zero, dayNumber_civil, orderly.dayOf_midnight low high,
    orderly.shown day low high]
  rw [show 86400 * day % 86400 = 0 by omega, Int.add_zero, midnight]

theorem Orderly.addDate_month {month : Int} (low : first ≤ firstDay month)
    (high : firstDay month ≤ last) :
    zone.addDate (zone.midnight (firstDay month)) 0 1 0 = zone.midnight (firstDay (month + 1)) := by
  simp only [addDate, Int.add_zero, dayNumber_next, orderly.dayOf_midnight low high,
    orderly.shown _ low high, monthOf_firstDay]
  rw [show 86400 * firstDay month % 86400 = 0 by omega, Int.add_zero, Int.add_sub_cancel, midnight]

end Orderly

end Zone

end NewApi.CivilTime
