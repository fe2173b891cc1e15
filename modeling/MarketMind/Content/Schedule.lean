import Mathlib
import MarketMind.Publishing.WallClock

/-!
Owns the calendar of a content cycle: the dates on which its weeks start, and the instants at which
they begin and are cut off in Cairo.

Does not own what happens in a week. Calendar dates are texts, as the service passes them.
-/

namespace MarketMind.Content.Schedule

open Calendar (Date DateTime dayFromYear daysBeforeMonth)
open Publishing.CairoTime

/-! ### Time zones -/

def hourMs : Int := 60 * 60 * 1000

/-- Offsets of two and three hours, which change on whole hours, and not twice within two days. -/
structure CairoZone where
  offset : Int → Int
  values : ∀ ms, offset ms = 2 * hourMs ∨ offset ms = 3 * hourMs
  hourly : ∀ ms, offset (ms - ms % hourMs) = offset ms
  apart : ∀ first second, first < second → offset (first - 1) ≠ offset first →
    offset (second - 1) ≠ offset second → 48 * hourMs ≤ second - first

def CairoZone.toZone (zone : CairoZone) : Zone where
  offset := zone.offset
  bounded ms := by
    rcases zone.values ms with same | same <;> rw [same] <;> decide
  whole ms := by
    rcases zone.values ms with same | same <;> rw [same] <;> decide
  steady ms := by
    have within : ms - ms % 1000 - (ms - ms % 1000) % hourMs = ms - ms % hourMs := by
      unfold hourMs
      omega
    rw [← zone.hourly, within, zone.hourly]

/-! ### Calendar dates -/

def contentWeekCount : Nat := 12

def assertWeekNumber (weekNumber : Int) : Except String Unit :=
  if weekNumber < 1 ∨ contentWeekCount < weekNumber then
    .error "Content week must be between 1 and 12."
  else .ok ()

structure IsoFields where
  year : Nat
  month : Nat
  day : Nat

/-- The match of `^\d{4}-\d{2}-\d{2}$`. -/
def isoFields? (iso : String) : Option IsoFields :=
  match iso.toList with
  | [y1, y2, y3, y4, p1, m1, m2, p2, d1, d2] =>
      if [p1, p2] = ['-', '-'] ∧ [y1, y2, y3, y4, m1, m2, d1, d2].all Char.isDigit then
        some ⟨number [y1, y2, y3, y4], number [m1, m2], number [d1, d2]⟩
      else none
  | _ => none

/-- `toISOString().slice(0, 10)` on a day; years of more than four digits have six and a sign. -/
def utcDate (days : Int) : String :=
  let date := Date.ofDays days
  if 0 ≤ date.year ∧ date.year ≤ 9999 then
    String.ofList (fourDigits date.year.toNat ++ '-' :: (twoDigits date.month ++ '-' ::
      twoDigits date.day))
  else
    String.ofList ((if date.year < 0 then '-' else '+') :: (twoDigits (date.year.natAbs / 10000) ++
      (fourDigits (date.year.natAbs % 10000) ++ '-' :: twoDigits date.month)))

/-- `string | Date` -/
inductive DateOrText
  | text (iso : String)
  | date (ms : Int)

def toIsoDate (value : DateOrText) : Except String String :=
  let iso := match value with
    | .text iso => iso
    | .date ms => utcDate (ms / 86400000)
  if (isoFields? iso).isNone then .error ("Invalid Cairo calendar date: " ++ iso) else .ok iso

/-- The day of `new Date(iso + "T00:00:00.000Z")`; days past the end of a month are carried over. -/
def IsoFields.utcDays (fields : IsoFields) : Option Int :=
  if 1 ≤ fields.month ∧ fields.month ≤ 12 ∧ 1 ≤ fields.day ∧ fields.day ≤ 31 then
    some (dayFromYear fields.year + daysBeforeMonth fields.year fields.month + fields.day - 1)
  else none

/-- Dates reach 100000000 days to each side. -/
def addCairoCalendarDays (isoDate : DateOrText) (days : Int) : Except String String := do
  let iso ← toIsoDate isoDate
  match (isoFields? iso).bind IsoFields.utcDays with
  | none => throw "Invalid time value"
  | some start =>
      if 100000000 < |start + days| then throw "Invalid time value"
      else pure (utcDate (start + days))

/-- Week N starts 7 * (N - 1) days after week 1. -/
def weekStartDate (week1StartDate : DateOrText) (weekNumber : Int) : Except String String := do
  assertWeekNumber weekNumber
  addCairoCalendarDays week1StartDate (7 * (weekNumber - 1))

/-! ### Instants -/

/-- The date that `Intl.DateTimeFormat` prints for an instant. -/
def isoText (date : Date) : String :=
  String.ofList (Nat.toDigits 10 (printedYear date.year) ++ '-' :: (twoDigits date.month ++ '-' ::
    twoDigits date.day))

def cairoCalendarDate (zone : CairoZone) (ms : Int) : String :=
  isoText (wallTime zone.toZone ms).date

/-- Look at eight hours around the start of the day in UTC. -/
def cairoMidnight (zone : CairoZone) (isoDate : String) : Except String Int := do
  let target ← toIsoDate (.text isoDate)
  match isoFields? target with
  | none => throw ("Invalid Cairo calendar date: " ++ target)
  | some fields =>
      let candidate := dateUTC fields.year (fields.month - 1) (fields.day - 1) 20 0 0
      match (List.range 8).find? fun (hour : Nat) =>
          cairoCalendarDate zone (candidate + hour * hourMs) = target with
      | some hour => pure (candidate + hour * hourMs)
      | none => throw ("Could not resolve Cairo midnight for " ++ target ++ ".")

/-- The cutoff of a week is the start of the next one. -/
def weekCutoffDate (zone : CairoZone) (week1StartDate : DateOrText) (weekNumber : Int) :
    Except String Int := do
  assertWeekNumber weekNumber
  let nextWeekStart ←
    if weekNumber = contentWeekCount then do
      let start ← weekStartDate week1StartDate weekNumber
      addCairoCalendarDays (.text start) 7
    else weekStartDate week1StartDate (weekNumber + 1)
  cairoMidnight zone nextWeekStart

/-! ### The first instant of a day -/

/-- The Cairo date of an instant, as a number of days. -/
def localDay (zone : CairoZone) (ms : Int) : Int := (ms + zone.offset ms) / 86400000

/-- Three hours before the day starts in UTC, or two. -/
def firstInstant (zone : CairoZone) (day : Int) : Int :=
  if zone.offset (86400000 * day - 3 * hourMs) = 3 * hourMs then 86400000 * day - 3 * hourMs
  else 86400000 * day - 2 * hourMs

/-- The day has come exactly from its first instant on. A change of the offset may skip or repeat
the hour at midnight, but takes no instant back to the day before. -/
theorem firstInstant_le_iff (zone : CairoZone) (day ms : Int) :
    firstInstant zone day ≤ ms ↔ day ≤ localDay zone ms := by
  have here := zone.values ms
  have there := zone.values (86400000 * day - 3 * hourMs)
  have within : 86400000 * day - 3 * hourMs ≤ ms → ms < 86400000 * day - 2 * hourMs →
      zone.offset ms = zone.offset (86400000 * day - 3 * hourMs) := by
    intro after before
    rw [← zone.hourly ms]
    congr 1
    unfold hourMs at *
    omega
  unfold firstInstant localDay
  unfold hourMs at *
  split <;> omega

theorem localDay_firstInstant (zone : CairoZone) (day : Int) :
    localDay zone (firstInstant zone day) = day := by
  have here := (firstInstant_le_iff zone day _).mp le_rfl
  have notLater := (firstInstant_le_iff zone (day + 1) (firstInstant zone day)).not.mp (by
    unfold firstInstant hourMs
    split <;> split <;> omega)
  omega

theorem firstInstant_strictMono (zone : CairoZone) : StrictMono (firstInstant zone) := by
  intro left right less
  by_contra notLess
  have := (firstInstant_le_iff zone right (firstInstant zone left)).mp (not_lt.mp notLess)
  rw [localDay_firstInstant] at this
  omega

theorem toDays_wallTime (zone : CairoZone) (ms : Int) :
    (wallTime zone.toZone ms).date.toDays = localDay zone ms := Date.toDays_ofDays _

/-! ### Texts of dates -/

/-- The years with four digits. -/
def FourDigitYear (date : Date) : Prop := 1000 ≤ date.year ∧ date.year ≤ 9999

theorem number_twoDigits {value : Nat} (fits : value < 100) : number (twoDigits value) = value := by
  have tens := Nat.toNat_digitChar_sub_48_of_lt_ten (n := value / 10) (by omega)
  have units := Nat.toNat_digitChar_sub_48_of_lt_ten (n := value % 10) (by omega)
  have zero : '0'.toNat = 48 := rfl
  simp only [number, twoDigits, Nat.ofDigitChars, List.foldl_cons, List.foldl_nil, zero]
  omega

theorem number_fourDigits {value : Nat} (fits : value < 10000) :
    number (fourDigits value) = value := by
  have high := @number_twoDigits (value / 100) (by omega)
  have low := @number_twoDigits (value % 100) (by omega)
  simp only [number, fourDigits, twoDigits, Nat.ofDigitChars, List.cons_append, List.nil_append,
    List.foldl_cons, List.foldl_nil] at high low ⊢
  omega

theorem isDigit_digitChar {value : Nat} (fits : value < 10) :
    (Nat.digitChar value).isDigit = true := by
  interval_cases value <;> rfl

theorem day_lt (date : Date) : date.day < 100 := by
  have := date.isDay.2
  have := Calendar.daysInMonth_le date.year date.isMonth.1
  omega

variable {date : Date}

theorem isoText_eq (modern : FourDigitYear date) :
    isoText date = String.ofList (fourDigits date.year.toNat ++ '-' ::
      (twoDigits date.month ++ '-' :: twoDigits date.day)) := by
  obtain ⟨low, high⟩ := modern
  have year : printedYear date.year = date.year.toNat := by
    unfold printedYear
    rw [if_pos (by omega)]
  unfold isoText
  rw [year, (toDigits_eq_fourDigits (by omega)).mpr ⟨by omega, rfl⟩]

/-- A text with a year of four digits is that of one date. -/
theorem isoText_injective {other : Date} (modern : FourDigitYear date) (later : 0 < other.year)
    (same : isoText other = isoText date) : other = date := by
  rw [isoText_eq modern, isoText] at same
  have chars := String.ofList_injective same
  have lengths : ∀ date : Date,
      ('-' :: (twoDigits date.month ++ '-' :: twoDigits date.day)).length = 6 := fun _ => rfl
  obtain ⟨years, rest⟩ := List.append_inj' chars (by rw [lengths, lengths])
  obtain ⟨low, high⟩ := modern
  have year := ((toDigits_eq_fourDigits (by omega)).mp years).2
  simp only [List.cons.injEq, true_and] at rest
  obtain ⟨months, days⟩ := List.append_inj rest rfl
  have month := twoDigits_injective (by have := other.isMonth; omega)
    (by have := date.isMonth; omega) months
  have day := twoDigits_injective (day_lt other) (day_lt date) (List.cons.inj days).2
  have sameYear : other.year = date.year := by
    unfold printedYear at year
    split at year <;> omega
  obtain ⟨otherYear, otherMonth, otherDay, _, _⟩ := other
  obtain ⟨dateYear, dateMonth, dateDay, _, _⟩ := date
  dsimp only at sameYear month day
  subst sameYear
  subst month
  subst day
  rfl

theorem isoFields?_isoText (modern : FourDigitYear date) :
    isoFields? (isoText date) = some ⟨date.year.toNat, date.month, date.day⟩ := by
  have year := @number_fourDigits date.year.toNat (by have := modern.2; omega)
  have isMonth := date.isMonth
  have isDay := day_lt date
  have month := @number_twoDigits date.month (by omega)
  have day := number_twoDigits (day_lt date)
  have range := modern.2
  rw [isoText_eq modern]
  unfold isoFields?
  rw [String.toList_ofList]
  simp only [fourDigits, twoDigits, List.cons_append, List.nil_append] at year month day ⊢
  rw [if_pos]
  · rw [year, month, day]
  · refine ⟨trivial, ?_⟩
    simp only [List.all_cons, List.all_nil, Bool.and_true, Bool.and_eq_true]
    refine ⟨?_, ?_, ?_, ?_, ?_, ?_, ?_, ?_⟩ <;> exact isDigit_digitChar (by omega)

theorem toIsoDate_isoText (modern : FourDigitYear date) :
    toIsoDate (.text (isoText date)) = .ok (isoText date) := by
  unfold toIsoDate
  dsimp only
  rw [isoFields?_isoText modern]
  rfl

/-! ### Midnight -/

theorem candidate_eq (modern : FourDigitYear date) :
    dateUTC date.year.toNat (date.month - 1) (date.day - 1) 20 0 0 =
      86400000 * date.toDays - 4 * hourMs := by
  obtain ⟨low, high⟩ := modern
  have isMonth := date.isMonth
  have year : (date.year.toNat : Int) = date.year := by omega
  have sameYear : date.year + ((date.month : Int) - 1) / 12 = date.year := by omega
  have sameMonth : (((date.month : Int) - 1) % 12).toNat + 1 = date.month := by omega
  unfold dateUTC Date.toDays hourMs
  dsimp only
  rw [year, if_neg (by omega), sameYear, sameMonth]
  omega

/-- Near the day the printed date is that of the day exactly when the Cairo date is. -/
theorem cairoCalendarDate_eq_iff (zone : CairoZone) (modern : FourDigitYear date) {ms : Int}
    (near : date.toDays - 1 ≤ localDay zone ms) :
    cairoCalendarDate zone ms = isoText date ↔ localDay zone ms = date.toDays := by
  have day := toDays_wallTime zone ms
  constructor
  · intro same
    have later : 0 < (wallTime zone.toZone ms).date.year := by
      have start := date.year_bounds.1
      have ends := (wallTime zone.toZone ms).date.year_bounds.2
      have low := modern.1
      by_contra early
      have := @Calendar.dayFromYear_le ((wallTime zone.toZone ms).date.year + 1) 1 (by omega)
      have := @Calendar.dayFromYear_le 1000 date.year low
      have gap : dayFromYear 1 + 1 < dayFromYear 1000 := by decide
      omega
    rw [← day, isoText_injective modern later same]
  · intro same
    unfold cairoCalendarDate
    rw [Date.toDays_injective (day.trans same)]

/-- Midnight is the first instant of its date. -/
theorem cairoMidnight_eq (zone : CairoZone) (modern : FourDigitYear date) :
    cairoMidnight zone (isoText date) = .ok (firstInstant zone date.toDays) := by
  have hit : ∀ hour : Nat, hour < 4 → (cairoCalendarDate zone
      (86400000 * date.toDays - 4 * hourMs + hour * hourMs) = isoText date ↔
        firstInstant zone date.toDays ≤ 86400000 * date.toDays - 4 * hourMs + hour * hourMs) := by
    intro hour early
    have values := zone.values (86400000 * date.toDays - 4 * hourMs + hour * hourMs)
    rw [cairoCalendarDate_eq_iff zone modern, firstInstant_le_iff]
    · unfold localDay hourMs at *
      omega
    · unfold localDay hourMs at *
      omega
  have range : List.range 8 = [0, 1, 2, 3, 4, 5, 6, 7] := rfl
  have missed : ¬firstInstant zone date.toDays ≤ 86400000 * date.toDays - 4 * hourMs +
      (0 : Nat) * hourMs := by
    unfold firstInstant hourMs
    split <;> omega
  have found : (List.range 8).find? (fun (hour : Nat) => cairoCalendarDate zone
      (86400000 * date.toDays - 4 * hourMs + hour * hourMs) = isoText date) =
        some (if zone.offset (86400000 * date.toDays - 3 * hourMs) = 3 * hourMs then 1 else 2) := by
    rw [range, List.find?_cons_of_neg (by rwa [decide_eq_true_eq, hit 0 (by decide)])]
    by_cases summer : zone.offset (86400000 * date.toDays - 3 * hourMs) = 3 * hourMs
    · rw [List.find?_cons_of_pos, if_pos summer]
      rw [decide_eq_true_eq, hit 1 (by decide), firstInstant, if_pos summer]
      unfold hourMs
      omega
    · rw [List.find?_cons_of_neg, List.find?_cons_of_pos, if_neg summer]
      · rw [decide_eq_true_eq, hit 2 (by decide), firstInstant, if_neg summer]
        unfold hourMs
        omega
      · rw [decide_eq_true_eq, hit 1 (by decide), firstInstant, if_neg summer]
        unfold hourMs
        omega
  unfold cairoMidnight
  rw [toIsoDate_isoText modern]
  simp only [Except.bind, bind, isoFields?_isoText modern, candidate_eq modern, found]
  refine congrArg Except.ok ?_
  unfold firstInstant hourMs
  split <;> omega

/-! ### Weeks -/

/-- The date some days after another. -/
def dateAfter (date : Date) (days : Int) : Date := Date.ofDays (date.toDays + days)

theorem utcDate_toDays (modern : FourDigitYear date) : utcDate date.toDays = isoText date := by
  have same : Date.ofDays date.toDays = date := Date.toDays_injective (Date.toDays_ofDays _)
  unfold utcDate
  rw [same, isoText_eq modern, if_pos ⟨by have := modern.1; omega, modern.2⟩]

/-- A year has room for the twelve weeks. -/
theorem dateAfter_modern (low : 1000 ≤ date.year) (high : date.year ≤ 9998) {days : Int}
    (after : 0 ≤ days) (within : days ≤ 84) : FourDigitYear (dateAfter date days) := by
  have start := date.year_bounds.1
  have ends := date.year_bounds.2
  have lowStart := @Calendar.dayFromYear_le 1000 date.year low
  have highEnd := @Calendar.dayFromYear_le (date.year + 1) 9999 (by omega)
  have bounds := (dateAfter date days).year_bounds
  have moved : (dateAfter date days).toDays = date.toDays + days := Date.toDays_ofDays _
  have year : dayFromYear 9999 + 365 = dayFromYear 10000 := by decide
  constructor
  · by_contra early
    have := @Calendar.dayFromYear_le ((dateAfter date days).year + 1) 1000 (by omega)
    omega
  · by_contra late
    have := @Calendar.dayFromYear_le 10000 (dateAfter date days).year (by omega)
    omega

theorem toDays_bounds (modern : FourDigitYear date) : |date.toDays| ≤ 100000000 := by
  have start := date.year_bounds.1
  have ends := date.year_bounds.2
  have low := @Calendar.dayFromYear_le 1000 date.year modern.1
  have high := @Calendar.dayFromYear_le (date.year + 1) 10000 (by have := modern.2; omega)
  have first : -100000000 ≤ dayFromYear 1000 := by decide
  have last : dayFromYear 10000 ≤ 100000000 := by decide
  exact abs_le.mpr ⟨by omega, by omega⟩

theorem addCairoCalendarDays_eq {value : DateOrText} (modern : FourDigitYear date)
    (reads : toIsoDate value = .ok (isoText date)) {days : Int}
    (later : FourDigitYear (dateAfter date days)) :
    addCairoCalendarDays value days = .ok (isoText (dateAfter date days)) := by
  have isMonth := date.isMonth
  have isDay := date.isDay
  have short := Calendar.daysInMonth_le date.year date.isMonth.1
  have moved : (dateAfter date days).toDays = date.toDays + days := Date.toDays_ofDays _
  have year : (date.year.toNat : Int) = date.year := by have := modern.1; omega
  have start : IsoFields.utcDays ⟨date.year.toNat, date.month, date.day⟩ = some date.toDays := by
    unfold IsoFields.utcDays
    rw [if_pos (by dsimp only; omega), year]
    rfl
  unfold addCairoCalendarDays
  rw [reads]
  simp only [Except.bind, bind, isoFields?_isoText modern, Option.bind_some, start]
  rw [if_neg (not_lt.mpr (moved ▸ toDays_bounds later)), ← moved, utcDate_toDays later]
  rfl

/-- What the weeks of a cycle are: each runs from its begin to its cutoff, and they follow each
other. -/
structure Weeks (zone : CairoZone) (week1StartDate : DateOrText) (begins : Int → Int) : Prop where
  starts : ∀ week, 1 ≤ week → week ≤ 12 →
    (weekStartDate week1StartDate week >>= cairoMidnight zone) = .ok (begins week)
  cutoffs : ∀ week, 1 ≤ week → week ≤ 12 →
    weekCutoffDate zone week1StartDate week = .ok (begins (week + 1))
  increasing : ∀ week later, 1 ≤ week → week < later → later ≤ 13 → begins week < begins later
  one : ∀ instant, begins 1 ≤ instant → instant < begins 13 →
    ∃! week, 1 ≤ week ∧ week ≤ 12 ∧ begins week ≤ instant ∧ instant < begins (week + 1)

section Weeks

variable (zone : CairoZone) {value : DateOrText} (low : 1000 ≤ date.year) (high : date.year ≤ 9998)
  (reads : toIsoDate value = .ok (isoText date))
include low high reads

omit low high reads in
theorem assertWeekNumber_ok {week : Int} (first : 1 ≤ week) (last : week ≤ 12) :
    assertWeekNumber week = .ok () :=
  if_neg (by unfold contentWeekCount; omega)

theorem weekStartDate_eq {week : Int} (first : 1 ≤ week) (last : week ≤ 12) :
    weekStartDate value week = .ok (isoText (dateAfter date (7 * (week - 1)))) := by
  have modern : FourDigitYear date := ⟨low, by omega⟩
  unfold weekStartDate
  rw [assertWeekNumber_ok first last]
  exact addCairoCalendarDays_eq modern reads (dateAfter_modern low high (by omega) (by omega))

theorem weekCutoffDate_eq {week : Int} (first : 1 ≤ week) (last : week ≤ 12) :
    weekCutoffDate zone value week = .ok (firstInstant zone (date.toDays + 7 * week)) := by
  have next := @dateAfter_modern _ low high (7 * week) (by omega) (by omega)
  have moved : (dateAfter date (7 * week)).toDays = date.toDays + 7 * week := Date.toDays_ofDays _
  rw [← moved, ← cairoMidnight_eq zone next]
  unfold weekCutoffDate
  rw [assertWeekNumber_ok first last]
  by_cases isLast : week = contentWeekCount
  · have twelve : week = 12 := isLast
    subst twelve
    have here := @dateAfter_modern _ low high 77 (by omega) (by omega)
    have start := @weekStartDate_eq _ _ low high reads 12 (by omega) (by omega)
    have again : dateAfter (dateAfter date 77) 7 = dateAfter date 84 := by
      unfold dateAfter
      rw [Date.toDays_ofDays, add_assoc]
      rfl
    have last := @addCairoCalendarDays_eq _ _ here (toIsoDate_isoText here) 7
      (again ▸ dateAfter_modern low high (by omega) (by omega))
    rw [again] at last
    simp only [Except.bind, bind, if_pos isLast, start]
    exact congrArg (Except.bind · (cairoMidnight zone)) last
  · have start := @weekStartDate_eq _ _ low high reads (week + 1) (by omega)
      (by unfold contentWeekCount at isLast; omega)
    have same : 7 * (week + 1 - 1) = 7 * week := by omega
    rw [same] at start
    simp only [Except.bind, bind, if_neg isLast, start]

theorem weeks : Weeks zone value fun week => firstInstant zone (date.toDays + 7 * (week - 1)) where
  starts week first last := by
    have modern := @dateAfter_modern _ low high (7 * (week - 1)) (by omega) (by omega)
    rw [weekStartDate_eq low high reads first last]
    have moved : (dateAfter date (7 * (week - 1))).toDays = date.toDays + 7 * (week - 1) :=
      Date.toDays_ofDays _
    rw [← moved]
    exact cairoMidnight_eq zone modern
  cutoffs week first last := by
    rw [weekCutoffDate_eq zone low high reads first last, add_sub_cancel_right]
  increasing week later _ less _ := firstInstant_strictMono zone (by omega)
  one instant after before := by
    rw [firstInstant_le_iff] at after
    rw [← not_le, firstInstant_le_iff] at before
    refine ⟨(localDay zone instant - date.toDays) / 7 + 1, ⟨by omega, by omega, ?_, ?_⟩, ?_⟩
    · rw [firstInstant_le_iff]
      omega
    · rw [← not_le, firstInstant_le_iff]
      omega
    · rintro week ⟨-, -, begun, open_⟩
      rw [firstInstant_le_iff] at begun
      rw [← not_le, firstInstant_le_iff] at open_
      omega

end Weeks

/-- Midnight is the first instant of its Cairo date, and the weeks between midnights follow each
other without overlap or gap. -/
theorem week_boundaries (zone : CairoZone) (date : Date) (low : 1000 ≤ date.year)
    (high : date.year ≤ 9998) :
    (∃ midnight, cairoMidnight zone (isoText date) = .ok midnight ∧
      IsLeast {ms | (wallTime zone.toZone ms).date = date} midnight) ∧
    ∀ week1StartDate, toIsoDate week1StartDate = .ok (isoText date) →
      ∃ begins, Weeks zone week1StartDate begins := by
  refine ⟨⟨_, cairoMidnight_eq zone ⟨low, by omega⟩, ?_, ?_⟩, fun _ reads =>
    ⟨_, weeks zone low high reads⟩⟩
  · exact Date.toDays_injective ((toDays_wallTime zone _).trans (localDay_firstInstant zone _))
  · intro ms shown
    rw [firstInstant_le_iff, ← toDays_wallTime, shown]

/-- The clocks go forward at the midnight of April 24, 2026. -/
def springCairo : CairoZone where
  offset ms := if ms < 1776981600000 then 2 * hourMs else 3 * hourMs
  values ms := by split <;> simp
  hourly ms := by
    have same : ms - ms % hourMs < 1776981600000 ↔ ms < 1776981600000 := by
      unfold hourMs
      omega
    simp only [same]
  apart first second less changes changesAgain := by
    exfalso
    split_ifs at changes changesAgain <;> omega

theorem april_24_boundaries :
    (∃ midnight, cairoMidnight springCairo "2026-04-24" = .ok midnight ∧
      IsLeast {ms | (wallTime springCairo.toZone ms).date =
        ⟨2026, 4, 24, by decide, by decide⟩} midnight) ∧
    ∀ week1StartDate, toIsoDate week1StartDate = .ok "2026-04-24" →
      ∃ begins, Weeks springCairo week1StartDate begins := by
  have boundaries := week_boundaries springCairo ⟨2026, 4, 24, by decide, by decide⟩
    (by decide) (by decide)
  have text : isoText ⟨2026, 4, 24, by decide, by decide⟩ = "2026-04-24" := by decide +kernel
  rwa [text] at boundaries

end MarketMind.Content.Schedule
