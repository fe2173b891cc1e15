import Mathlib.Tactic.IntervalCases
import Mathlib.Tactic.Linarith

/-!
Owns the calendar: dates of the Gregorian calendar, extended to all years, their
numbers of days and milliseconds from the start of 1970, and the way back.

Does not own time zones, nor how dates are written.
-/

namespace MarketMind.Calendar

/-! ### Years and months -/

def isLeapYear (year : Int) : Bool :=
  year % 4 = 0 && (year % 100 ≠ 0 || year % 400 = 0)

/-- The days from the start of 1970 to that of a year. -/
def dayFromYear (year : Int) : Int :=
  365 * (year - 1970) + (year - 1969) / 4 - (year - 1901) / 100 + (year - 1601) / 400

/-- 1 in leap years. -/
def leapDay (year : Int) : Int := if isLeapYear year then 1 else 0

theorem leapDay_bounds (year : Int) : 0 ≤ leapDay year ∧ leapDay year ≤ 1 := by
  unfold leapDay
  split <;> omega

theorem dayFromYear_succ (year : Int) :
    dayFromYear (year + 1) = dayFromYear year + 365 + leapDay year := by
  unfold dayFromYear leapDay isLeapYear
  split
  · next isLeap =>
    simp only [Bool.and_eq_true, Bool.or_eq_true, decide_eq_true_eq] at isLeap
    omega
  · next notLeap =>
    simp only [Bool.and_eq_true, Bool.or_eq_true, decide_eq_true_eq, not_and, not_or] at notLeap
    omega

theorem dayFromYear_le {year other : Int} (before : year ≤ other) :
    dayFromYear year ≤ dayFromYear other := by
  unfold dayFromYear
  omega

/-- The days before a month, whose number counts from 1. From March on, five
months have 153 days. -/
def daysBeforeMonth (year : Int) (month : Nat) : Int :=
  if month ≤ 2 then 31 * (month - 1) else (153 * month - 457) / 5 + 59 + leapDay year

example : (List.range 13).map (fun month => daysBeforeMonth 2023 (month + 1)) =
    [0, 31, 59, 90, 120, 151, 181, 212, 243, 273, 304, 334, 365] := by decide

def daysInMonth (year : Int) (month : Nat) : Int :=
  daysBeforeMonth year (month + 1) - daysBeforeMonth year month

theorem daysInMonth_le (year : Int) {month : Nat} (isMonth : 1 ≤ month) :
    daysInMonth year month ≤ 31 := by
  have leap := leapDay_bounds year
  unfold daysInMonth daysBeforeMonth
  split_ifs <;> omega

/-! ### Dates -/

structure Date where
  year : Int
  month : Nat
  day : Nat
  isMonth : 1 ≤ month ∧ month ≤ 12
  isDay : 1 ≤ day ∧ day ≤ daysInMonth year month

/-- The days from the start of 1970. -/
def Date.toDays (date : Date) : Int :=
  dayFromYear date.year + daysBeforeMonth date.year date.month + date.day - 1

/-- The year of a day: cycles of 400, 100, 4 and 1 years from the year 1. -/
def yearOf (days : Int) : Int :=
  let inCycles := (days + 719162) % 146097
  let centuries := min 3 (inCycles / 36524)
  let inCentury := inCycles - 36524 * centuries
  1 + 400 * ((days + 719162) / 146097) + 100 * centuries + 4 * (inCentury / 1461) +
    min 3 (inCentury % 1461 / 365)

theorem dayFromYear_cycles {cycles centuries leaps rest : Int}
    (isCentury : 0 ≤ centuries ∧ centuries ≤ 3) (isLeap : 0 ≤ leaps ∧ leaps ≤ 24)
    (isRest : 0 ≤ rest ∧ rest ≤ 3) :
    dayFromYear (1 + 400 * cycles + 100 * centuries + 4 * leaps + rest) =
      146097 * cycles + 36524 * centuries + 1461 * leaps + 365 * rest - 719162 := by
  unfold dayFromYear
  omega

theorem yearOf_spec (days : Int) :
    dayFromYear (yearOf days) ≤ days ∧ days < dayFromYear (yearOf days + 1) := by
  unfold yearOf
  dsimp only
  generalize inCycles_eq : (days + 719162) % 146097 = inCycles
  generalize cycles_eq : (days + 719162) / 146097 = cycles
  generalize centuries_eq : min 3 (inCycles / 36524) = centuries
  generalize inCentury_eq : inCycles - 36524 * centuries = inCentury
  generalize leaps_eq : inCentury / 1461 = leaps
  generalize rest_eq : min 3 (inCentury % 1461 / 365) = rest
  have isCentury : 0 ≤ centuries ∧ centuries ≤ 3 := by omega
  have isLeap : 0 ≤ leaps ∧ leaps ≤ 24 := by omega
  have isRest : 0 ≤ rest ∧ rest ≤ 3 := by omega
  have starts := @dayFromYear_cycles cycles centuries leaps rest isCentury isLeap isRest
  constructor
  · omega
  · rw [dayFromYear_succ, starts]
    unfold leapDay isLeapYear
    split
    · omega
    · next notLeap =>
      simp only [Bool.and_eq_true, Bool.or_eq_true, decide_eq_true_eq, not_and, not_or] at notLeap
      omega

theorem yearOf_unique {days year : Int} (after : dayFromYear year ≤ days)
    (before : days < dayFromYear (year + 1)) : yearOf days = year := by
  obtain ⟨starts, ends⟩ := yearOf_spec days
  rcases lt_trichotomy (yearOf days) year with less | same | more
  · have later := @dayFromYear_le (yearOf days + 1) year (by omega)
    omega
  · exact same
  · have later := @dayFromYear_le (year + 1) (yearOf days) (by omega)
    omega

/-- The month of a day of a year, which counts from 0. -/
def monthOf (year dayOfYear : Int) : Nat :=
  if dayOfYear < 31 then 1
  else if dayOfYear < 59 + leapDay year then 2
  else ((5 * (dayOfYear - 59 - leapDay year) + 2) / 153 + 3).toNat

theorem monthOf_spec {year dayOfYear : Int} (starts : 0 ≤ dayOfYear)
    (ends : dayOfYear < 365 + leapDay year) :
    (1 ≤ monthOf year dayOfYear ∧ monthOf year dayOfYear ≤ 12) ∧
      daysBeforeMonth year (monthOf year dayOfYear) ≤ dayOfYear ∧
      dayOfYear < daysBeforeMonth year (monthOf year dayOfYear + 1) := by
  have leap := leapDay_bounds year
  unfold monthOf
  split
  · unfold daysBeforeMonth
    omega
  · split
    · unfold daysBeforeMonth
      omega
    · generalize month_eq : ((5 * (dayOfYear - 59 - leapDay year) + 2) / 153 + 3).toNat = month
      have bounds : 3 ≤ month ∧ month ≤ 12 := by omega
      unfold daysBeforeMonth
      rw [if_neg (by omega), if_neg (by omega)]
      omega

theorem monthOf_unique {year dayOfYear : Int} {month : Nat} (isMonth : 1 ≤ month ∧ month ≤ 12)
    (after : daysBeforeMonth year month ≤ dayOfYear)
    (before : dayOfYear < daysBeforeMonth year (month + 1)) : monthOf year dayOfYear = month := by
  have leap := leapDay_bounds year
  unfold daysBeforeMonth at after before
  unfold monthOf
  split_ifs at after before ⊢ <;> omega

theorem daysBeforeMonth_bounds {year : Int} {month : Nat} (isMonth : 1 ≤ month ∧ month ≤ 12) :
    0 ≤ daysBeforeMonth year month ∧
      daysBeforeMonth year (month + 1) ≤ 365 + leapDay year := by
  have leap := leapDay_bounds year
  unfold daysBeforeMonth
  split_ifs <;> omega

theorem dayOfYear_bounds (days : Int) :
    0 ≤ days - dayFromYear (yearOf days) ∧
      days - dayFromYear (yearOf days) < 365 + leapDay (yearOf days) := by
  have spec := yearOf_spec days
  have step := dayFromYear_succ (yearOf days)
  omega

/-- The date of a day. -/
def Date.ofDays (days : Int) : Date where
  year := yearOf days
  month := monthOf (yearOf days) (days - dayFromYear (yearOf days))
  day := (days - dayFromYear (yearOf days) - daysBeforeMonth (yearOf days)
    (monthOf (yearOf days) (days - dayFromYear (yearOf days))) + 1).toNat
  isMonth := (monthOf_spec (dayOfYear_bounds days).1 (dayOfYear_bounds days).2).1
  isDay := by
    have months := (monthOf_spec (dayOfYear_bounds days).1 (dayOfYear_bounds days).2).2
    unfold daysInMonth
    omega

@[simp]
theorem Date.toDays_ofDays (days : Int) : (Date.ofDays days).toDays = days := by
  have months := (monthOf_spec (dayOfYear_bounds days).1 (dayOfYear_bounds days).2).2
  unfold Date.ofDays Date.toDays
  dsimp only
  omega

/-- A day is in the year of its date. -/
theorem Date.year_bounds (date : Date) :
    dayFromYear date.year ≤ date.toDays ∧ date.toDays < dayFromYear (date.year + 1) := by
  have step := dayFromYear_succ date.year
  have months := @daysBeforeMonth_bounds date.year date.month date.isMonth
  obtain ⟨first, last⟩ := date.isDay
  unfold daysInMonth at last
  unfold Date.toDays
  omega

theorem Date.toDays_injective {left right : Date} (same : left.toDays = right.toDays) :
    left = right := by
  have leftYear := yearOf_unique left.year_bounds.1 left.year_bounds.2
  have rightYear := yearOf_unique right.year_bounds.1 right.year_bounds.2
  have sameYear : left.year = right.year := by
    rw [← leftYear, ← rightYear, same]
  have month : ∀ date : Date, monthOf date.year (date.toDays - dayFromYear date.year) =
      date.month := by
    intro date
    obtain ⟨first, last⟩ := date.isDay
    unfold daysInMonth at last
    apply monthOf_unique date.isMonth
    · unfold Date.toDays
      omega
    · unfold Date.toDays
      omega
  have sameMonth : left.month = right.month := by
    rw [← month left, ← month right, same, sameYear]
  have sameDay : left.day = right.day := by
    unfold Date.toDays at same
    rw [sameYear, sameMonth] at same
    omega
  cases left
  cases right
  cases sameYear
  cases sameMonth
  cases sameDay
  rfl

/-! ### Date-times -/

structure DateTime where
  date : Date
  hour : Nat
  minute : Nat
  second : Nat
  isHour : hour ≤ 23
  isMinute : minute ≤ 59
  isSecond : second ≤ 59

namespace DateTime

/-- The milliseconds from the start of 1970. -/
def toMs (time : DateTime) : Int :=
  86400000 * time.date.toDays + 3600000 * time.hour + 60000 * time.minute + 1000 * time.second

/-- The date-time of a number of milliseconds, without those within its second. -/
def ofMs (ms : Int) : DateTime where
  date := Date.ofDays (ms / 86400000)
  hour := (ms % 86400000 / 3600000).toNat
  minute := (ms % 3600000 / 60000).toNat
  second := (ms % 60000 / 1000).toNat
  isHour := by omega
  isMinute := by omega
  isSecond := by omega

@[simp]
theorem toMs_ofMs (ms : Int) : (ofMs ms).toMs = ms - ms % 1000 := by
  unfold toMs ofMs
  dsimp only
  rw [Date.toDays_ofDays]
  omega

theorem toMs_injective {left right : DateTime} (same : left.toMs = right.toMs) : left = right := by
  obtain ⟨leftDate, leftHour, leftMinute, leftSecond, leftIsHour, leftIsMinute, leftIsSecond⟩ := left
  obtain ⟨rightDate, rightHour, rightMinute, rightSecond, _, _, _⟩ := right
  unfold toMs at same
  dsimp only at same
  have sameDate : leftDate = rightDate := Date.toDays_injective (by omega)
  subst sameDate
  obtain rfl : leftHour = rightHour := by omega
  obtain rfl : leftMinute = rightMinute := by omega
  obtain rfl : leftSecond = rightSecond := by omega
  rfl

/-- What comes after the start of a year has that year, or a later one. -/
theorem year_le {time : DateTime} {year : Int}
    (after : 86400000 * dayFromYear year ≤ time.toMs) : year ≤ time.date.year := by
  by_contra before
  have later := @dayFromYear_le (time.date.year + 1) year (by omega)
  have bounds := time.date.year_bounds
  obtain ⟨date, hour, minute, second, isHour, isMinute, isSecond⟩ := time
  unfold toMs at after
  dsimp only at after bounds later
  omega

theorem toMs_lt (time : DateTime) : time.toMs < 86400000 * dayFromYear (time.date.year + 1) := by
  have bounds := time.date.year_bounds
  have isHour := time.isHour
  have isMinute := time.isMinute
  have isSecond := time.isSecond
  unfold toMs
  omega

end DateTime

end MarketMind.Calendar
