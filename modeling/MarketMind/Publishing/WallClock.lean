import MarketMind.Publishing.CairoTime
import Mathlib.Data.Int.LeastGreatest

/-!
Owns what the conversion of local times is right about: when it finds the
earliest instant at which the clocks of a zone show a local time, and when the
instant that it finds shows the local time again.

The offset of the zone is sampled at the local time read as UTC, which is away
from the instant by the offset itself.
-/

namespace MarketMind.Publishing.CairoTime

open Calendar (Date DateTime dayFromYear daysBeforeMonth daysInMonth dayFromYear_le
  daysBeforeMonth_bounds daysInMonth_le)

/-! ### Fields of date-times -/

structure Fields.IsDateTime (fields : Fields) : Prop where
  isMonth : 1 ≤ fields.month ∧ fields.month ≤ 12
  isDay : 1 ≤ fields.day ∧ fields.day ≤ daysInMonth fields.year fields.month
  isHour : fields.hour ≤ 23
  isMinute : fields.minute ≤ 59
  isSecond : fields.second ≤ 59

def Fields.dateTime (fields : Fields) (isDateTime : fields.IsDateTime) : DateTime where
  date := {
    year := fields.year
    month := fields.month
    day := fields.day
    isMonth := isDateTime.isMonth
    isDay := isDateTime.isDay }
  hour := fields.hour
  minute := fields.minute
  second := fields.second
  isHour := isDateTime.isHour
  isMinute := isDateTime.isMinute
  isSecond := isDateTime.isSecond

theorem Fields.naiveUtcMs_whole (fields : Fields) : fields.naiveUtcMs % 1000 = 0 :=
  dateUTC_whole _ _ _ _ _ _

theorem Fields.naiveUtcMs_eq {fields : Fields} (isDateTime : fields.IsDateTime)
    (modern : 100 ≤ fields.year) : fields.naiveUtcMs = (fields.dateTime isDateTime).toMs := by
  have year : (100 : Int) ≤ (fields.dateTime isDateTime).date.year := by
    show (100 : Int) ≤ fields.year
    omega
  unfold Fields.naiveUtcMs
  exact @dateUTC_eq (fields.dateTime isDateTime) year

/-- The years from 0 to 99 are carried to the twentieth century. -/
theorem Fields.naiveUtcMs_ancient {fields : Fields} (isDateTime : fields.IsDateTime)
    (ancient : fields.year ≤ 99) : 86400000 * dayFromYear 1900 ≤ fields.naiveUtcMs := by
  have isMonth := isDateTime.isMonth
  have isDay := isDateTime.isDay
  have sameYear : 1900 + (fields.year : Int) + ((fields.month : Int) - 1) / 12 =
      1900 + fields.year := by omega
  have sameMonth : (((fields.month : Int) - 1) % 12).toNat + 1 = fields.month := by omega
  have months := (@daysBeforeMonth_bounds (1900 + fields.year) fields.month isMonth).1
  have years := @dayFromYear_le 1900 (1900 + fields.year) (by omega)
  unfold Fields.naiveUtcMs dateUTC
  dsimp only
  rw [if_pos (by omega), sameYear, sameMonth]
  omega

/-! ### The earliest instant -/

section Earliest

variable {host : Host} {localIso tz : String} {zone : Zone} {fields : Fields}

/-- The earliest instant at which the clocks of the zone show the time. -/
def IsEarliest (zone : Zone) (time : DateTime) (utcMs : Int) : Prop :=
  wallTime zone utcMs = time ∧ ∀ other, wallTime zone other = time → utcMs ≤ other

theorem IsEarliest.toMs {time : DateTime} {utcMs : Int} (earliest : IsEarliest zone time utcMs) :
    utcMs + zone.offset utcMs = time.toMs := by
  have floor := earliest.2 _ ((wallTime_steady zone utcMs).trans earliest.1)
  have shown := wallTime_toMs zone utcMs
  rw [earliest.1] at shown
  omega

theorem exists_earliest {time : DateTime} {utcMs : Int} (shown : wallTime zone utcMs = time) :
    ∃ earliest, IsEarliest zone time earliest := by
  apply Int.exists_least_of_bdd
  · refine ⟨time.toMs - 86400000, fun other isShown => ?_⟩
    have toMs := wallTime_toMs zone other
    have bounded := zone.bounded other
    rw [isShown] at toMs
    omega
  · exact ⟨utcMs, shown⟩

/-- The zone has at the earliest instant the offset that is sampled at the local
time read as UTC or, if that one does not read back, an hour before it. -/
structure SamplesEarliest (host : Host) (zone : Zone) (fields : Fields) (earliest : Int) :
    Prop where
  modern : 100 ≤ fields.year
  sampled : getCandidateOffset host zone fields.naiveUtcMs = -zone.offset earliest ∨
    (¬ ReadsBack host zone fields fields.naiveUtcMs ∧
      getCandidateOffset host zone fields.earlierMs = -zone.offset earliest)

/-- The conversion finds the earliest instant that shows the local time if there
is one, and reports a gap only if there is none. -/
structure FindsEarliest (host : Host) (localIso tz : String) (zone : Zone) (time : DateTime) :
    Prop where
  finds : ∀ utcMs, wallTime zone utcMs = time →
    ∃ earliest, localToUtc host localIso tz = .ok earliest ∧ IsEarliest zone time earliest
  gap : localToUtc host localIso tz = .error (gapMessage localIso tz) →
    ∀ utcMs, wallTime zone utcMs ≠ time

theorem ok_earliest_iff (recognised : assertValidIanaZone host tz = .ok zone)
    (parsed : localFields? localIso = some fields) (isDateTime : fields.IsDateTime) {earliest : Int}
    (isEarliest : IsEarliest zone (fields.dateTime isDateTime) earliest) :
    localToUtc host localIso tz = .ok earliest ↔ SamplesEarliest host zone fields earliest := by
  have shown := isEarliest.toMs
  have bounded := zone.bounded earliest
  rw [localToUtc_ok_iff recognised parsed]
  by_cases modern : 100 ≤ fields.year
  · have naive := Fields.naiveUtcMs_eq isDateTime modern
    -- An instant that shows the time is sampled as what takes it there.
    have atEarliest : getCandidateOffset host zone earliest = -zone.offset earliest := by
      have year : (100 : Int) ≤ (fields.dateTime isDateTime).date.year := by
        show (100 : Int) ≤ fields.year
        omega
      have printed : (printedYear (fields.dateTime isDateTime).date.year : Int) =
          (fields.dateTime isDateTime).date.year := by
        unfold printedYear
        rw [if_pos (by omega)]
        omega
      rw [getCandidateOffset_eq_dateUTC, isEarliest.1, printed, dateUTC_eq year]
      omega
    have made : ∀ guessMs, earliest = candidate host zone fields guessMs ↔
        getCandidateOffset host zone guessMs = -zone.offset earliest := by
      intro guessMs
      unfold candidate
      omega
    have reads : ∀ guessMs, getCandidateOffset host zone guessMs = -zone.offset earliest →
        ReadsBack host zone fields guessMs := by
      intro guessMs same
      unfold ReadsBack
      rw [← (made guessMs).mpr same, atEarliest, same]
    constructor
    · rintro (⟨-, isCandidate⟩ | ⟨differs, -, isCandidate⟩)
      · exact ⟨modern, Or.inl ((made _).mp isCandidate)⟩
      · exact ⟨modern, Or.inr ⟨differs, (made _).mp isCandidate⟩⟩
    · rintro ⟨-, same | ⟨differs, same⟩⟩
      · exact Or.inl ⟨reads _ same, (made _).mpr same⟩
      · exact Or.inr ⟨differs, reads _ same, (made _).mpr same⟩
  · -- The candidates are of the twentieth century, and the instant is not.
    have naive := Fields.naiveUtcMs_ancient isDateTime (by omega)
    have years : dayFromYear 100 + 2 < dayFromYear 1900 := by decide
    have late : ∀ guessMs, guessMs % 1000 = 0 → fields.earlierMs ≤ guessMs →
        candidate host zone fields guessMs ≠ earliest := by
      intro guessMs whole near same
      have sampled := getCandidateOffset_eq host zone whole (by unfold Fields.earlierMs at near; omega)
      have ends := (fields.dateTime isDateTime).toMs_lt
      have year := @dayFromYear_le ((fields.dateTime isDateTime).date.year + 1) 100 (by
        show (fields.year : Int) + 1 ≤ 100
        omega)
      have near := zone.bounded guessMs
      unfold candidate at same
      omega
    have whole := fields.naiveUtcMs_whole
    constructor
    · rintro (⟨-, isCandidate⟩ | ⟨-, -, isCandidate⟩)
      · refine absurd isCandidate.symm (late _ whole ?_)
        unfold Fields.earlierMs
        omega
      · refine absurd isCandidate.symm (late _ ?_ le_rfl)
        unfold Fields.earlierMs
        omega
    · exact fun samples => absurd samples.modern modern

end Earliest

/-! ### The day before summer time -/

/-- Offsets of at most 14 hours that change by at most an hour, with more than
three hours from one change to the next. -/
structure Isolated (zone : Zone) : Prop where
  within : ∀ ms, -50400000 ≤ zone.offset ms ∧ zone.offset ms ≤ 50400000
  step : ∀ ms, zone.offset ms - zone.offset (ms - 1) ≤ 3600000 ∧
    zone.offset (ms - 1) - zone.offset ms ≤ 3600000
  apart : ∀ first second, first < second → zone.offset (first - 1) ≠ zone.offset first →
    zone.offset (second - 1) ≠ zone.offset second → 10800000 < second - first

/-- Cairo around the start of summer time in 2026, at midnight of 24 April. -/
def springCairo : Zone where
  offset ms := if ms < 1776981600000 then 7200000 else 10800000
  bounded ms := by split <;> omega
  whole ms := by split <;> omega
  steady ms := by
    by_cases before : ms < 1776981600000
    · rw [if_pos before, if_pos (by omega)]
    · rw [if_neg before, if_neg (by omega)]

def cairoHost : Host where
  zone? tz := if tz = "Africa/Cairo" then some springCairo else none
  midnightAs24 := true

theorem springCairo_isolated : Isolated springCairo := by
  unfold springCairo
  constructor
  · intro ms
    dsimp only
    split <;> omega
  · intro ms
    dsimp only
    split_ifs <;> omega
  · intro first second before firstChanges secondChanges
    dsimp only at firstChanges secondChanges
    split_ifs at firstChanges secondChanges <;> omega

private theorem cairo_recognised : assertValidIanaZone cairoHost "Africa/Cairo" = .ok springCairo := by
  rfl

/-- Half past eleven in the evening, before the clocks go forward at midnight. -/
private def springEvening : Fields := ⟨2026, 4, 23, 23, 30, 0⟩

private theorem springEvening_isDateTime : springEvening.IsDateTime :=
  ⟨by decide, by decide, by decide, by decide, by decide⟩

private def summerAfternoon : Fields := ⟨2026, 9, 1, 14, 0, 0⟩

private theorem summerAfternoon_isDateTime : summerAfternoon.IsDateTime :=
  ⟨by decide, by decide, by decide, by decide, by decide⟩

/-- A number below 10000 in four digits. -/
def fourDigits (value : Nat) : List Char := twoDigits (value / 100) ++ twoDigits (value % 100)

/-- The text of a naive local time. -/
def Fields.chars (fields : Fields) : List Char :=
  fourDigits fields.year ++ '-' :: (twoDigits fields.month ++ '-' :: (twoDigits fields.day ++ 'T' ::
    (twoDigits fields.hour ++ ':' :: (twoDigits fields.minute ++ ':' :: twoDigits fields.second))))

/-- What fits in the digits that a naive local time has for each field. -/
structure Fields.Fit (fields : Fields) : Prop where
  year : fields.year < 10000
  month : fields.month < 100
  day : fields.day < 100
  hour : fields.hour < 100
  minute : fields.minute < 100
  second : fields.second < 100

theorem digitChar_of_isDigit {char : Char} (isDigit : char.isDigit = true) :
    char.toNat - '0'.toNat < 10 ∧ Nat.digitChar (char.toNat - '0'.toNat) = char := by
  obtain ⟨above, below⟩ : 48 ≤ char.toNat ∧ char.toNat ≤ 57 := by
    unfold Char.isDigit at isDigit
    rw [Bool.and_eq_true, decide_eq_true_eq, decide_eq_true_eq] at isDigit
    exact isDigit
  have zero : '0'.toNat = 48 := rfl
  constructor
  · omega
  · apply Char.toNat_inj.mp
    rw [zero, Nat.toNat_digitChar_of_lt_ten (by omega)]
    omega

theorem twoDigits_number {tens units : Char} (isTens : tens.isDigit = true)
    (isUnits : units.isDigit = true) :
    twoDigits (number [tens, units]) = [tens, units] ∧ number [tens, units] < 100 := by
  obtain ⟨tensBelow, tensChar⟩ := digitChar_of_isDigit isTens
  obtain ⟨unitsBelow, unitsChar⟩ := digitChar_of_isDigit isUnits
  have value : number [tens, units] =
      10 * (tens.toNat - '0'.toNat) + (units.toNat - '0'.toNat) := by
    simp [number, Nat.ofDigitChars]
  have tensPart : number [tens, units] / 10 = tens.toNat - '0'.toNat := by omega
  have unitsPart : number [tens, units] % 10 = units.toNat - '0'.toNat := by omega
  unfold twoDigits
  rw [tensPart, unitsPart, tensChar, unitsChar]
  exact ⟨rfl, by omega⟩

theorem fourDigits_number {first second third fourth : Char}
    (isFirst : first.isDigit = true) (isSecond : second.isDigit = true)
    (isThird : third.isDigit = true) (isFourth : fourth.isDigit = true) :
    fourDigits (number [first, second, third, fourth]) = [first, second, third, fourth] ∧
      number [first, second, third, fourth] < 10000 := by
  obtain ⟨highChars, highBelow⟩ := twoDigits_number isFirst isSecond
  obtain ⟨lowChars, lowBelow⟩ := twoDigits_number isThird isFourth
  have value : number [first, second, third, fourth] =
      100 * number [first, second] + number [third, fourth] := by
    simp only [number, Nat.ofDigitChars, List.foldl_cons, List.foldl_nil]
    omega
  have high : number [first, second, third, fourth] / 100 = number [first, second] := by omega
  have low : number [first, second, third, fourth] % 100 = number [third, fourth] := by omega
  unfold fourDigits
  rw [high, low, highChars, lowChars]
  exact ⟨rfl, by omega⟩

/-- A local time that is read is the text of its fields. -/
theorem chars_of_localFields {localIso : String} {fields : Fields}
    (parsed : localFields? localIso = some fields) :
    localIso.toList = fields.chars ∧ fields.Fit := by
  unfold localFields? at parsed
  split at parsed
  · next y1 y2 y3 y4 p1 m1 m2 p2 d1 d2 p3 h1 h2 p4 n1 n2 p5 s1 s2 chars =>
    split at parsed
    · next matched =>
      obtain ⟨marks, digits⟩ := matched
      simp only [List.cons.injEq, and_true] at marks
      obtain ⟨rfl, rfl, rfl, rfl, rfl⟩ := marks
      simp only [List.all_cons, List.all_nil, Bool.and_true, Bool.and_eq_true] at digits
      obtain ⟨isY1, isY2, isY3, isY4, isM1, isM2, isD1, isD2, isH1, isH2, isN1, isN2, isS1, isS2⟩ :=
        digits
      obtain ⟨year, yearFits⟩ := fourDigits_number isY1 isY2 isY3 isY4
      obtain ⟨month, monthFits⟩ := twoDigits_number isM1 isM2
      obtain ⟨day, dayFits⟩ := twoDigits_number isD1 isD2
      obtain ⟨hour, hourFits⟩ := twoDigits_number isH1 isH2
      obtain ⟨minute, minuteFits⟩ := twoDigits_number isN1 isN2
      obtain ⟨second, secondFits⟩ := twoDigits_number isS1 isS2
      obtain rfl := Option.some.inj parsed
      refine ⟨?_, yearFits, monthFits, dayFits, hourFits, minuteFits, secondFits⟩
      unfold Fields.chars
      dsimp only
      rw [chars, year, month, day, hour, minute, second]
      rfl
    · cases parsed
  · cases parsed

theorem digitChar_injective {left right : Nat} (isLeft : left < 10) (isRight : right < 10)
    (same : Nat.digitChar left = Nat.digitChar right) : left = right := by
  rw [← Nat.toNat_digitChar_sub_48_of_lt_ten isLeft, same,
    Nat.toNat_digitChar_sub_48_of_lt_ten isRight]

theorem twoDigits_injective {left right : Nat} (isLeft : left < 100) (isRight : right < 100)
    (same : twoDigits left = twoDigits right) : left = right := by
  unfold twoDigits at same
  simp only [List.cons.injEq, and_true] at same
  have tens := digitChar_injective (by omega) (by omega) same.1
  have units := digitChar_injective (by omega) (by omega) same.2
  omega

/-- Four digits are those of the number without leading zeros from 1000 on. -/
theorem toDigits_eq_fourDigits {year value : Nat} (fits : value < 10000) :
    Nat.toDigits 10 year = fourDigits value ↔ 1000 ≤ value ∧ year = value := by
  have four : ∀ number, 1000 ≤ number → number < 10000 →
      Nat.toDigits 10 number = fourDigits number := by
    intro number above below
    have hundreds : number / 10 / 10 / 10 = number / 100 / 10 := by omega
    have tens : number / 10 / 10 % 10 = number / 100 % 10 := by omega
    have units : number / 10 % 10 = number % 100 / 10 := by omega
    have last : number % 10 = number % 100 % 10 := by omega
    rw [Nat.toDigits_of_base_le (by decide) (by omega),
      Nat.toDigits_of_base_le (by decide) (by omega),
      Nat.toDigits_of_base_le (by decide) (by omega), Nat.toDigits_of_lt_base (by omega), hundreds,
      tens, units, last]
    rfl
  constructor
  · intro same
    have length : (Nat.toDigits 10 year).length = 4 := by
      rw [same]
      rfl
    have notShort := (@Nat.length_toDigits_le_iff 10 year 3 (by decide) (by decide)).not.mp (by omega)
    have notLong := (@Nat.length_toDigits_le_iff 10 year 4 (by decide) (by decide)).mp (by omega)
    rw [four year (by omega) (by omega)] at same
    obtain ⟨high, low⟩ := List.append_inj same rfl
    have highSame := twoDigits_injective (by omega) (by omega) high
    have lowSame := twoDigits_injective (by omega) (by omega) low
    omega
  · rintro ⟨above, rfl⟩
    exact four year above fits

/-- The parts of an instant are the text of fields exactly when they have four
digits for the year and agree in each field. -/
theorem text_eq_iff {parts : Parts} {fields : Fields} {hour : Nat} (fits : fields.Fit)
    (isHour : (if parts.hour = 24 then 0 else parts.hour) = hour) (partsFit : parts.month < 100 ∧
      parts.day < 100 ∧ hour < 100 ∧ parts.minute < 100 ∧ parts.second < 100) :
    parts.text.toList = fields.chars ↔
      (1000 ≤ fields.year ∧ parts.year = fields.year) ∧ parts.month = fields.month ∧
        parts.day = fields.day ∧ hour = fields.hour ∧ parts.minute = fields.minute ∧
        parts.second = fields.second := by
  unfold Parts.text Fields.chars
  rw [String.toList_ofList, isHour]
  constructor
  · intro same
    obtain ⟨year, rest⟩ := List.append_inj' same rfl
    obtain ⟨month, rest⟩ := List.append_inj (List.cons.inj rest).2 rfl
    obtain ⟨day, rest⟩ := List.append_inj (List.cons.inj rest).2 rfl
    obtain ⟨hours, rest⟩ := List.append_inj (List.cons.inj rest).2 rfl
    obtain ⟨minute, rest⟩ := List.append_inj (List.cons.inj rest).2 rfl
    have second := (List.cons.inj rest).2
    exact ⟨(toDigits_eq_fourDigits fits.year).mp year,
      twoDigits_injective partsFit.1 fits.month month,
      twoDigits_injective partsFit.2.1 fits.day day,
      twoDigits_injective partsFit.2.2.1 fits.hour hours,
      twoDigits_injective partsFit.2.2.2.1 fits.minute minute,
      twoDigits_injective partsFit.2.2.2.2 fits.second second⟩
  · rintro ⟨year, month, day, hours, minute, second⟩
    rw [(toDigits_eq_fourDigits fits.year).mpr year, month, day, hours, minute, second]

/-! ### Round trips -/

section RoundTrips

variable {host : Host} {localIso tz : String} {zone : Zone} {fields : Fields}

/-- An instant that the conversion finds shows the local time that was given. -/
def RoundTrips (host : Host) (localIso tz : String) : Prop :=
  ∀ utcMs, localToUtc host localIso tz = .ok utcMs →
    utcToCairoLocalIso host utcMs tz = .ok localIso

/-- Neither of the offsets that are sampled reads back. -/
def InGap (host : Host) (zone : Zone) (fields : Fields) : Prop :=
  ¬ ReadsBack host zone fields fields.naiveUtcMs ∧ ¬ ReadsBack host zone fields fields.earlierMs

theorem parts_fit (host : Host) (zone : Zone) (utcMs : Int) :
    (formatToParts host zone utcMs).month < 100 ∧ (formatToParts host zone utcMs).day < 100 ∧
      (wallTime zone utcMs).hour < 100 ∧ (formatToParts host zone utcMs).minute < 100 ∧
      (formatToParts host zone utcMs).second < 100 := by
  have isMonth := (wallTime zone utcMs).date.isMonth
  have isDay := (wallTime zone utcMs).date.isDay
  have days := daysInMonth_le (wallTime zone utcMs).date.year isMonth.1
  have isHour := (wallTime zone utcMs).isHour
  have isMinute := (wallTime zone utcMs).isMinute
  have isSecond := (wallTime zone utcMs).isSecond
  unfold formatToParts
  dsimp only
  omega

theorem Fields.naiveUtcMs_modern (modern : 1000 ≤ fields.year) :
    86400000 * (dayFromYear 999 - 1) ≤ fields.naiveUtcMs := by
  have years := @dayFromYear_le 999 (fields.year + ((fields.month : Int) - 1) / 12) (by omega)
  have months := (@daysBeforeMonth_bounds (fields.year + ((fields.month : Int) - 1) / 12)
    ((((fields.month : Int) - 1) % 12).toNat + 1) (by omega)).1
  unfold Fields.naiveUtcMs dateUTC
  dsimp only
  rw [if_neg (by omega)]
  omega

theorem year_of_ok (recognised : assertValidIanaZone host tz = .ok zone)
    (parsed : localFields? localIso = some fields) (modern : 1000 ≤ fields.year) {utcMs : Int}
    (ok : localToUtc host localIso tz = .ok utcMs) : 100 ≤ (wallTime zone utcMs).date.year := by
  have naive := Fields.naiveUtcMs_modern modern
  have years : dayFromYear 100 + 5 < dayFromYear 999 := by decide
  have whole := fields.naiveUtcMs_whole
  have late : ∀ guessMs, guessMs % 1000 = 0 → fields.earlierMs ≤ guessMs →
      utcMs = candidate host zone fields guessMs → 100 ≤ (wallTime zone utcMs).date.year := by
    intro guessMs isWhole near isCandidate
    have sampled := getCandidateOffset_eq host zone isWhole (by unfold Fields.earlierMs at near; omega)
    have guessBounded := zone.bounded guessMs
    have bounded := zone.bounded utcMs
    have toMs := wallTime_toMs zone utcMs
    unfold candidate at isCandidate
    apply DateTime.year_le
    omega
  rcases (localToUtc_ok_iff recognised parsed).mp ok with ⟨-, isCandidate⟩ | ⟨-, -, isCandidate⟩
  · refine late _ whole ?_ isCandidate
    unfold Fields.earlierMs
    omega
  · refine late _ ?_ le_rfl isCandidate
    unfold Fields.earlierMs
    omega

/-- The text of an instant is that of fields of a date-time of the common era
exactly when the clocks show it and its year has four digits. -/
theorem shows_iff (fits : fields.Fit) {utcMs : Int}
    (year : 100 ≤ (wallTime zone utcMs).date.year) :
    (formatToParts host zone utcMs).text.toList = fields.chars ↔
      1000 ≤ fields.year ∧ ∃ isDateTime : fields.IsDateTime,
        wallTime zone utcMs = fields.dateTime isDateTime := by
  have isMonth := (wallTime zone utcMs).date.isMonth
  have isDay := (wallTime zone utcMs).date.isDay
  have isHour := (wallTime zone utcMs).isHour
  have isMinute := (wallTime zone utcMs).isMinute
  have isSecond := (wallTime zone utcMs).isSecond
  have printed : ((formatToParts host zone utcMs).year : Int) = (wallTime zone utcMs).date.year := by
    show (printedYear (wallTime zone utcMs).date.year : Int) = _
    unfold printedYear
    rw [if_pos (by omega)]
    omega
  rw [text_eq_iff fits (hour_formatToParts host zone utcMs).2 (parts_fit host zone utcMs)]
  constructor
  · rintro ⟨⟨modern, sameYear⟩, month, day, hour, minute, second⟩
    have sameYear : (wallTime zone utcMs).date.year = fields.year := by omega
    have month : (wallTime zone utcMs).date.month = fields.month := month
    have day : (wallTime zone utcMs).date.day = fields.day := day
    have minute : (wallTime zone utcMs).minute = fields.minute := minute
    have second : (wallTime zone utcMs).second = fields.second := second
    rw [month] at isMonth
    rw [sameYear, month, day] at isDay
    refine ⟨modern, ⟨isMonth, isDay, by omega, by omega, by omega⟩, ?_⟩
    apply DateTime.toMs_injective
    unfold DateTime.toMs Date.toDays Fields.dateTime
    dsimp only
    rw [sameYear, month, day, hour, minute, second]
  · rintro ⟨modern, isDateTime, shown⟩
    have sameYear : (wallTime zone utcMs).date.year = fields.year := by
      rw [shown]
      rfl
    refine ⟨⟨modern, by omega⟩, ?_⟩
    unfold formatToParts
    dsimp only
    rw [shown]
    exact ⟨rfl, rfl, rfl, rfl, rfl⟩

/-- A local time goes round exactly when it is that of a date-time whose year is
1000 or later, or when the conversion reports a gap. -/
theorem roundTrips_iff (recognised : assertValidIanaZone host tz = .ok zone)
    (parsed : localFields? localIso = some fields) :
    RoundTrips host localIso tz ↔
      (fields.IsDateTime ∧ 1000 ≤ fields.year) ∨ InGap host zone fields := by
  obtain ⟨chars, fits⟩ := chars_of_localFields parsed
  have back : ∀ utcMs, utcToCairoLocalIso host utcMs tz = .ok localIso ↔
      (formatToParts host zone utcMs).text.toList = fields.chars := by
    intro utcMs
    rw [utcToCairoLocalIso_eq recognised, Except.ok.injEq, ← String.toList_inj, chars]
  constructor
  · intro roundTrips
    by_cases isGap : InGap host zone fields
    · exact Or.inr isGap
    · left
      have found : ∃ utcMs, localToUtc host localIso tz = .ok utcMs := by
        unfold InGap at isGap
        by_cases reads : ReadsBack host zone fields fields.naiveUtcMs
        · exact ⟨_, (localToUtc_ok_iff recognised parsed).mpr (Or.inl ⟨reads, rfl⟩)⟩
        · have readsEarly : ReadsBack host zone fields fields.earlierMs :=
            not_not.mp fun differs => isGap ⟨reads, differs⟩
          exact ⟨_, (localToUtc_ok_iff recognised parsed).mpr (Or.inr ⟨reads, readsEarly, rfl⟩)⟩
      obtain ⟨utcMs, ok⟩ := found
      have shown := (back utcMs).mp (roundTrips utcMs ok)
      have agrees := (text_eq_iff fits (hour_formatToParts host zone utcMs).2
        (parts_fit host zone utcMs)).mp shown
      have year := year_of_ok recognised parsed agrees.1.1 ok
      obtain ⟨modern, isDateTime, -⟩ := (shows_iff fits year).mp shown
      exact ⟨isDateTime, modern⟩
  · rintro (⟨isDateTime, modern⟩ | ⟨differs, differsEarly⟩) utcMs ok
    · have year := year_of_ok recognised parsed modern ok
      apply (back utcMs).mpr
      apply (shows_iff fits year).mpr
      refine ⟨modern, isDateTime, ?_⟩
      have reads := reads_of_ok recognised parsed ok
      have printed : (printedYear (wallTime zone utcMs).date.year : Int) =
          (wallTime zone utcMs).date.year := by
        unfold printedYear
        rw [if_pos (by omega)]
        omega
      rw [getCandidateOffset_eq_dateUTC, printed, dateUTC_eq year,
        Fields.naiveUtcMs_eq isDateTime (by omega)] at reads
      apply DateTime.toMs_injective
      omega
    · rcases (localToUtc_ok_iff recognised parsed).mp ok with ⟨reads, -⟩ | ⟨-, reads, -⟩
      · exact absurd reads differs
      · exact absurd reads differsEarly

end RoundTrips

/-! ### A day that February does not have -/

/-- The thirtieth of February is carried to the second of March. -/
theorem february_thirtieth_is_moved :
    ∃ utcMs, localToUtc cairoHost "2026-02-30T10:00:00" "Africa/Cairo" = .ok utcMs ∧
      utcToCairoLocalIso cairoHost utcMs "Africa/Cairo" = .ok "2026-03-02T10:00:00" ∧
      ¬ RoundTrips cairoHost "2026-02-30T10:00:00" "Africa/Cairo" := by
  have parsed : localFields? "2026-02-30T10:00:00" = some ⟨2026, 2, 30, 10, 0, 0⟩ := by rfl
  have found : localToUtc cairoHost "2026-02-30T10:00:00" "Africa/Cairo" = .ok 1772438400000 := by
    refine (localToUtc_ok_iff cairo_recognised parsed).mpr (Or.inl ⟨?_, ?_⟩)
    · unfold ReadsBack
      decide +kernel
    · decide +kernel
  have shown : utcToCairoLocalIso cairoHost 1772438400000 "Africa/Cairo" =
      .ok "2026-03-02T10:00:00" := by
    rw [utcToCairoLocalIso_eq cairo_recognised, Except.ok.injEq]
    decide +kernel
  refine ⟨_, found, shown, fun roundTrips => ?_⟩
  have same := shown.symm.trans (roundTrips _ found)
  exact absurd (Except.ok.inj same) (by decide)

theorem summer_afternoon_round_trips :
    RoundTrips cairoHost "2026-09-01T14:00:00" "Africa/Cairo" := by
  apply (roundTrips_iff cairo_recognised (by rfl)).mpr
  exact Or.inl ⟨summerAfternoon_isDateTime, by decide⟩

end MarketMind.Publishing.CairoTime
