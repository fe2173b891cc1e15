import MarketMind.Calendar.Dates
import Mathlib.Data.List.Basic

/-!
Owns the conversion of naive local times to instants and back. Instants are
milliseconds from the start of 1970.

Does not own the time zones, which the host reads from its zone database.
-/

namespace MarketMind.Publishing.CairoTime

open Calendar (Date DateTime dayFromYear daysBeforeMonth daysInMonth)

/-! ### The host -/

/-- What the clocks of a time zone are ahead of UTC at each instant. Offsets are
less than a day, and they and the instants of their changes are whole seconds. -/
structure Zone where
  offset : Int → Int
  bounded : ∀ ms, -86400000 < offset ms ∧ offset ms < 86400000
  whole : ∀ ms, offset ms % 1000 = 0
  steady : ∀ ms, offset (ms - ms % 1000) = offset ms

/-- The zone database, and whether `hour12: false` prints midnight as 24. -/
structure Host where
  zone? : String → Option Zone
  midnightAs24 : Bool

/-- The numbers that `Intl.DateTimeFormat("en-CA", …).formatToParts` prints. -/
structure Parts where
  year : Nat
  month : Nat
  day : Nat
  hour : Nat
  minute : Nat
  second : Nat

/-- Years before the year 1 are printed as those of their era. -/
def printedYear (year : Int) : Nat := if 0 < year then year.toNat else (1 - year).toNat

/-- The date-time that the clocks of a zone show. -/
def wallTime (zone : Zone) (ms : Int) : DateTime := DateTime.ofMs (ms + zone.offset ms)

def formatToParts (host : Host) (zone : Zone) (ms : Int) : Parts :=
  let wall := wallTime zone ms
  { year := printedYear wall.date.year
    month := wall.date.month
    day := wall.date.day
    hour := if host.midnightAs24 && wall.hour = 0 then 24 else wall.hour
    minute := wall.minute
    second := wall.second }

/-- `Date.UTC`, whose month counts from 0. Years from 0 to 99 are of the
twentieth century, and what exceeds a field is carried to the next. -/
def dateUTC (year month day hour minute second : Int) : Int :=
  let fullYear := if 0 ≤ year ∧ year ≤ 99 then 1900 + year else year
  let monthYear := fullYear + month / 12
  86400000 * (dayFromYear monthYear + daysBeforeMonth monthYear ((month % 12).toNat + 1) + day - 1) +
    3600000 * hour + 60000 * minute + 1000 * second

/-! ### Time zones -/

/-- `IANA_ZONE_PATTERN` -/
def isZoneName (tz : String) : Bool :=
  (tz.toList.splitOn '/').all fun part =>
    !part.isEmpty && part.all fun char => char.isAlpha || char = '_'

def assertValidIanaZone (host : Host) (tz : String) : Except String Zone :=
  if !isZoneName tz then
    .error ("PUBLISHING_INVALID_TIMEZONE: \"" ++ tz ++ "\" is not a valid IANA timezone identifier")
  else
    match host.zone? tz with
    | none => .error ("PUBLISHING_INVALID_TIMEZONE: \"" ++ tz ++
        "\" is not recognized by the system IANA tzdb")
    | some zone => .ok zone

/-! ### Local times -/

/-- The numbers of a naive local time. -/
structure Fields where
  year : Nat
  month : Nat
  day : Nat
  hour : Nat
  minute : Nat
  second : Nat

/-- The number of decimal digits. -/
def number (digits : List Char) : Nat := Nat.ofDigitChars 10 digits 0

/-- The match of `^(\d{4})-(\d{2})-(\d{2})T(\d{2}):(\d{2}):(\d{2})$`. -/
def localFields? (localIso : String) : Option Fields :=
  match localIso.toList with
  | [y1, y2, y3, y4, p1, m1, m2, p2, d1, d2, p3, h1, h2, p4, n1, n2, p5, s1, s2] =>
      if [p1, p2, p3, p4, p5] = ['-', '-', 'T', ':', ':'] ∧
          [y1, y2, y3, y4, m1, m2, d1, d2, h1, h2, n1, n2, s1, s2].all Char.isDigit then
        some {
          year := number [y1, y2, y3, y4]
          month := number [m1, m2]
          day := number [d1, d2]
          hour := number [h1, h2]
          minute := number [n1, n2]
          second := number [s1, s2] }
      else none
  | _ => none

def Fields.naiveUtcMs (fields : Fields) : Int :=
  dateUTC fields.year (fields.month - 1) fields.day fields.hour fields.minute fields.second

def getCandidateOffset (host : Host) (zone : Zone) (guessMs : Int) : Int :=
  let parts := formatToParts host zone guessMs
  guessMs - dateUTC parts.year (parts.month - 1) parts.day (parts.hour % 24 : Nat) parts.minute
    parts.second

def gapMessage (localIso tz : String) : String :=
  "PUBLISHING_INVALID_SCHEDULE: The local time \"" ++ localIso ++ "\" in zone \"" ++ tz ++
    "\" falls in a DST gap and does not exist — please choose a valid time"

def localToUtc (host : Host) (localIso tz : String) : Except String Int := do
  let zone ← assertValidIanaZone host tz
  match localFields? localIso with
  | none => throw "PUBLISHING_INVALID_SCHEDULE: localIso must be ISO-8601 without offset"
  | some fields =>
      let naiveUtcMs := fields.naiveUtcMs
      let offsetAt := getCandidateOffset host zone naiveUtcMs
      let offsetMinus := getCandidateOffset host zone (naiveUtcMs - 60 * 60 * 1000)
      let utcMs := naiveUtcMs + offsetAt
      if getCandidateOffset host zone utcMs ≠ offsetAt then
        let utcMsEarly := naiveUtcMs + offsetMinus
        if getCandidateOffset host zone utcMsEarly ≠ offsetMinus then
          throw (gapMessage localIso tz)
        else return utcMsEarly
      else return utcMs

/-- A number below 100 in two digits. -/
def twoDigits (value : Nat) : List Char := [Nat.digitChar (value / 10), Nat.digitChar (value % 10)]

/-- The parts as a naive local time, with the hour 24 as 00. -/
def Parts.text (parts : Parts) : String :=
  String.ofList (Nat.toDigits 10 parts.year ++ '-' :: (twoDigits parts.month ++ '-' ::
    (twoDigits parts.day ++ 'T' ::
      (twoDigits (if parts.hour = 24 then 0 else parts.hour) ++ ':' ::
        (twoDigits parts.minute ++ ':' :: twoDigits parts.second)))))

def utcToCairoLocalIso (host : Host) (utcMs : Int) (tz : String) : Except String String := do
  let zone ← assertValidIanaZone host tz
  return (formatToParts host zone utcMs).text

/-! ### The parts of the wall time -/

section Wall

variable (host : Host) (zone : Zone)

theorem wallTime_toMs (ms : Int) :
    (wallTime zone ms).toMs = ms + zone.offset ms - ms % 1000 := by
  have whole := zone.whole ms
  unfold wallTime
  rw [DateTime.toMs_ofMs]
  omega

/-- What is within a second does not show. -/
theorem wallTime_steady (ms : Int) : wallTime zone (ms - ms % 1000) = wallTime zone ms := by
  have whole := zone.whole ms
  apply DateTime.toMs_injective
  rw [wallTime_toMs, wallTime_toMs, zone.steady]
  omega

/-- Midnight is 0 for both readers of the parts. -/
theorem hour_formatToParts (ms : Int) :
    (formatToParts host zone ms).hour % 24 = (wallTime zone ms).hour ∧
      (if (formatToParts host zone ms).hour = 24 then 0 else (formatToParts host zone ms).hour) =
        (wallTime zone ms).hour := by
  have isHour := (wallTime zone ms).isHour
  unfold formatToParts
  dsimp only
  split
  · next midnight =>
    rw [Bool.and_eq_true, decide_eq_true_eq] at midnight
    rw [midnight.2]
    exact ⟨rfl, rfl⟩
  · constructor
    · omega
    · rw [if_neg (by omega)]

theorem getCandidateOffset_eq_dateUTC (ms : Int) :
    getCandidateOffset host zone ms =
      ms - dateUTC (printedYear (wallTime zone ms).date.year)
        ((wallTime zone ms).date.month - 1) (wallTime zone ms).date.day (wallTime zone ms).hour
        (wallTime zone ms).minute (wallTime zone ms).second := by
  unfold getCandidateOffset
  dsimp only
  rw [(hour_formatToParts host zone ms).1]
  rfl

end Wall

/-- From the year 100 on `Date.UTC` of the fields of a date-time is that of the date-time. -/
theorem dateUTC_eq {time : DateTime} (modern : 100 ≤ time.date.year) :
    dateUTC time.date.year (time.date.month - 1) time.date.day time.hour time.minute time.second =
      time.toMs := by
  have isMonth := time.date.isMonth
  have sameYear : time.date.year + ((time.date.month : Int) - 1) / 12 = time.date.year := by omega
  have sameMonth : (((time.date.month : Int) - 1) % 12).toNat + 1 = time.date.month := by omega
  unfold dateUTC DateTime.toMs Date.toDays
  dsimp only
  rw [if_neg (by omega), sameYear, sameMonth]

theorem dateUTC_whole (year month day hour minute second : Int) :
    dateUTC year month day hour minute second % 1000 = 0 := by
  unfold dateUTC
  dsimp only
  omega

/-- From the second day of the year 100 on, the sampled offset is that of the zone. -/
theorem getCandidateOffset_eq (host : Host) (zone : Zone) {ms : Int} (whole : ms % 1000 = 0)
    (modern : 86400000 * (dayFromYear 100 + 1) ≤ ms) :
    getCandidateOffset host zone ms = -zone.offset ms := by
  have bounded := zone.bounded ms
  have toMs := wallTime_toMs zone ms
  have year : 100 ≤ (wallTime zone ms).date.year := by
    apply DateTime.year_le
    omega
  have printed : (printedYear (wallTime zone ms).date.year : Int) =
      (wallTime zone ms).date.year := by
    unfold printedYear
    rw [if_pos (by omega)]
    omega
  rw [getCandidateOffset_eq_dateUTC, printed, dateUTC_eq year]
  omega

/-! ### The branches of the conversion -/

section Branches

variable {host : Host} {localIso tz : String} {zone : Zone} {fields : Fields}

/-- The instant that an offset makes of the fields. -/
def candidate (host : Host) (zone : Zone) (fields : Fields) (guessMs : Int) : Int :=
  fields.naiveUtcMs + getCandidateOffset host zone guessMs

/-- The offset sampled at `guessMs` is that of the instant which it makes. -/
def ReadsBack (host : Host) (zone : Zone) (fields : Fields) (guessMs : Int) : Prop :=
  getCandidateOffset host zone (candidate host zone fields guessMs) =
    getCandidateOffset host zone guessMs

/-- An hour before the fields read as UTC. -/
def Fields.earlierMs (fields : Fields) : Int := fields.naiveUtcMs - 60 * 60 * 1000

theorem localToUtc_ok_iff (recognised : assertValidIanaZone host tz = .ok zone)
    (parsed : localFields? localIso = some fields) {utcMs : Int} :
    localToUtc host localIso tz = .ok utcMs ↔
      (ReadsBack host zone fields fields.naiveUtcMs ∧
        utcMs = candidate host zone fields fields.naiveUtcMs) ∨
      (¬ ReadsBack host zone fields fields.naiveUtcMs ∧
        ReadsBack host zone fields fields.earlierMs ∧
        utcMs = candidate host zone fields fields.earlierMs) := by
  unfold localToUtc ReadsBack candidate Fields.earlierMs
  rw [recognised]
  dsimp only [bind, Except.bind]
  rw [parsed]
  dsimp only
  split
  · next differs =>
    split
    · next differsEarly =>
      constructor
      · intro ok
        cases ok
      · rintro (⟨same, -⟩ | ⟨-, same, -⟩)
        · exact absurd same differs
        · exact absurd same differsEarly
    · next sameEarly =>
      constructor
      · intro ok
        exact Or.inr ⟨differs, not_not.mp sameEarly, (Except.ok.inj ok).symm⟩
      · rintro (⟨same, -⟩ | ⟨-, -, rfl⟩)
        · exact absurd same differs
        · rfl
  · next same =>
    constructor
    · intro ok
      exact Or.inl ⟨not_not.mp same, (Except.ok.inj ok).symm⟩
    · rintro (⟨-, rfl⟩ | ⟨differs, -, -⟩)
      · rfl
      · exact absurd differs same

/-- A result reads back: its parts are carried to the fields read as UTC. -/
theorem reads_of_ok (recognised : assertValidIanaZone host tz = .ok zone)
    (parsed : localFields? localIso = some fields) {utcMs : Int}
    (ok : localToUtc host localIso tz = .ok utcMs) :
    getCandidateOffset host zone utcMs = utcMs - fields.naiveUtcMs := by
  rcases (localToUtc_ok_iff recognised parsed).mp ok with ⟨same, rfl⟩ | ⟨-, same, rfl⟩
  · unfold ReadsBack candidate at same
    unfold candidate
    omega
  · unfold ReadsBack candidate at same
    unfold candidate
    omega

theorem utcToCairoLocalIso_eq (recognised : assertValidIanaZone host tz = .ok zone) (utcMs : Int) :
    utcToCairoLocalIso host utcMs tz = .ok (formatToParts host zone utcMs).text := by
  unfold utcToCairoLocalIso
  rw [recognised]
  rfl

end Branches

end MarketMind.Publishing.CairoTime
