import Qift.Occasions.Resolvable
import Qift.Occasions.Cycle

/-!
# The least occurrence

* `OccasionDateSpec.dayIn` — the day of an occasion in a year of its calendar, by the calendar alone; `IsFirst` — the
  first of such days from a day on.
* `Umalqura.Increasing` — what is used of the library: its conversion is increasing and its years are those of the dates
  it converts.
* `nextDate` — `nextOccurrence` within the range of the platform's dates.
* `OccasionDateSpec.Sound` — neither the instant nor the occurrence lies in the first century, whose years `Date.UTC`
  takes for those of the twentieth, and there is a date for it.
* **`nextDate_least`** — exactly then the next occurrence is the first day from the instant's own on, and its own next.
* `nextDate_late` — from an instant of the year 50 it is a day of 1951.
-/

namespace Qift.Occasions

open Gregorian (marchStart marchYear)

/-! ### The Gregorian calendar -/

/-- A year with a leap day. -/
def isLeap (year : Int) : Bool := year % 4 = 0 && (year % 100 ≠ 0 || year % 400 = 0)

/-- The days of a month. -/
def monthLength (year month : Int) : Int :=
  if month = 2 then if isLeap year then 29 else 28
  else if month ∈ [4, 6, 9, 11] then 30
  else 31

theorem monthLength_bounds (year month : Int) : 28 ≤ monthLength year month ∧ monthLength year month ≤ 31 := by
  unfold monthLength
  split
  · split <;> decide
  · split <;> decide

theorem marchStart_leap (year : Int) :
    marchStart year = marchStart (year - 1) + if isLeap year then 366 else 365 := by
  have hleap : isLeap year = true ↔ year % 4 = 0 ∧ (year % 100 ≠ 0 ∨ year % 400 = 0) := by
    simp [isLeap]
  unfold marchStart
  by_cases h : isLeap year = true
  · rw [if_pos h]
    rw [hleap] at h
    omega
  · rw [if_neg h]
    rw [hleap] at h
    omega

theorem utcDate_last {year month : Int} (hmonth : 1 ≤ month ∧ month ≤ 12) (hyear : makeFullYear year = year) :
    utcDate (dateUTC year month 0) = monthLength year month := by
  rw [utcDate, dateUTC, hyear, Int.mul_ediv_cancel _ (by decide : dayMillis ≠ 0), civilFromDays_eq]
  have hleap := marchStart_leap year
  have hlength := Gregorian.marchStart_succ year
  obtain ⟨hlow, hhigh⟩ := hmonth
  -- the day lies in the year from March on, but for the days of January and February
  have hspring : 3 ≤ month → marchYear (makeDay year month 0 + 719468) = year := by
    intro hm
    apply Gregorian.marchYear_eq
    all_goals
      unfold makeDay
      interval_cases month
    all_goals simp
    all_goals omega
  have hwinter : month ≤ 2 → marchYear (makeDay year month 0 + 719468) = year - 1 := by
    intro hm
    have hyear' : year - 1 + 1 = year := by omega
    apply Gregorian.marchYear_eq
    · unfold makeDay
      interval_cases month
      all_goals simp
      all_goals split at hleap <;> omega
    · rw [hyear']
      unfold makeDay
      interval_cases month
      all_goals simp
      all_goals split at hleap <;> omega
  dsimp only
  rcases Int.lt_or_le 2 month with hm | hm
  · rw [hspring (by omega)]
    unfold makeDay monthLength
    interval_cases month
    all_goals simp
    all_goals omega
  · rw [hwinter hm]
    unfold makeDay monthLength
    interval_cases month
    all_goals simp
    all_goals split at hleap <;> simp_all <;> omega

/-! ### Days of one date -/

/-- Days of some years, in their order, around a day of this year. -/
structure Series (date : Int → Option Int) (today this : Int) : Prop where
  mono : ∀ y y' a b, date y = some a → date y' = some b → y < y' → a < b
  before : ∀ y a, y < this → date y = some a → a < today
  after : ∀ y a, this < y → date y = some a → today < a

/-- The first day of a series from a day on. -/
structure IsFirst (date : Int → Option Int) (today d : Int) : Prop where
  occurs : ∃ y, date y = some d
  ahead : today ≤ d
  least : ∀ y a, date y = some a → today ≤ a → d ≤ a

theorem IsFirst.eq {date : Int → Option Int} {today d d' : Int} (h : IsFirst date today d)
    (h' : IsFirst date today d') : d = d' := by
  obtain ⟨y, hy⟩ := h.occurs
  obtain ⟨y', hy'⟩ := h'.occurs
  exact le_antisymm (h.least y' d' hy' h'.ahead) (h'.least y d hy h.ahead)

/-- The first day moves forward with the day from which it is looked for. -/
theorem IsFirst.mono {date : Int → Option Int} {today today' d d' : Int} (h : IsFirst date today d)
    (h' : IsFirst date today' d') (hle : today ≤ today') : d ≤ d' := by
  obtain ⟨y', hy'⟩ := h'.occurs
  exact h.least y' d' hy' (hle.trans h'.ahead)

theorem IsFirst.self {date : Int → Option Int} {today n : Int} (h : IsFirst date today n) : IsFirst date n n :=
  ⟨h.occurs, le_refl n, fun _ _ _ hle => hle⟩

namespace Series

variable {date : Int → Option Int} {today this a b : Int}

/-- This year's day, if it has not passed. -/
theorem first_this (h : Series date today this) (ha : date this = some a) (hahead : today ≤ a) :
    IsFirst date today a := by
  refine ⟨⟨this, ha⟩, hahead, fun y c hc htoday => ?_⟩
  rcases lt_trichotomy y this with hlt | rfl | hgt
  · exact absurd (h.before y c hlt hc) (not_lt.mpr htoday)
  · rw [ha] at hc
    cases hc
    exact le_refl a
  · exact (h.mono this y a c ha hc hgt).le

/-- Else next year's. -/
theorem first_next (h : Series date today this) (ha : date this = some a) (hpassed : a < today)
    (hb : date (this + 1) = some b) : IsFirst date today b := by
  refine ⟨⟨this + 1, hb⟩, (h.after (this + 1) b (by omega) hb).le, fun y c hc htoday => ?_⟩
  rcases lt_trichotomy y (this + 1) with hlt | rfl | hgt
  · rcases Int.lt_or_eq_of_le (Int.lt_add_one_iff.mp hlt) with hlt' | rfl
    · exact absurd (h.before y c hlt' hc) (not_lt.mpr htoday)
    · rw [ha] at hc
      cases hc
      exact absurd hpassed (not_lt.mpr htoday)
  · rw [hb] at hc
    cases hc
    exact le_refl b
  · exact (h.mono (this + 1) y b c hb hc hgt).le

end Series

/-! ### The days of an occasion -/

/-- The day of the civil date the library answers. -/
def dayOf (out : Int × Int × Int) : Int := makeDay out.1 (out.2.1 - 1) out.2.2

/-- The day of an instant. -/
def utcDay (t : Time) : Int := t / dayMillis

theorem utcDay_midnight (n : Int) : utcDay (n * dayMillis) = n := Int.mul_ediv_cancel n (by decide)

def TwoDigit (year : Int) : Prop := 0 ≤ year ∧ year ≤ 99

instance (year : Int) : Decidable (TwoDigit year) := inferInstanceAs (Decidable (_ ∧ _))

theorem makeFullYear_of_not {year : Int} (h : ¬TwoDigit year) : makeFullYear year = year := if_neg h

theorem startOfUtcDay_of_not {t : Time} (h : ¬TwoDigit (utcFullYear t)) : startOfUtcDay t = utcDay t * dayMillis := by
  rw [startOfUtcDay, dateUTC, makeFullYear_of_not h]
  exact congrArg (· * dayMillis) (makeDay_civilFromDays (t / dayMillis))

theorem day_le_iff {m n : Int} : m * dayMillis ≤ n * dayMillis ↔ m ≤ n :=
  ⟨fun h => Int.le_of_mul_le_mul_right h (by decide), fun h => Int.mul_le_mul_of_nonneg_right h (by decide)⟩

theorem utcMonth_bounds (t : Time) : 1 ≤ utcMonth t + 1 ∧ utcMonth t + 1 ≤ 12 := by
  unfold utcMonth
  rw [civilFromDays_eq]
  dsimp only
  obtain ⟨hlow, hhigh⟩ := Gregorian.marchYear_spec (t / dayMillis + 719468)
  obtain ⟨-, hlength⟩ := Gregorian.marchStart_succ (marchYear (t / dayMillis + 719468))
  generalize marchYear (t / dayMillis + 719468) = y at *
  omega

theorem startOfUtcDay_modern {t : Time} (h : TwoDigit (utcFullYear t)) :
    yearStart 1900 * dayMillis ≤ startOfUtcDay t := by
  have hyear : makeFullYear (utcFullYear t) = 1900 + utcFullYear t := if_pos h
  rw [startOfUtcDay, dateUTC, hyear, day_le_iff]
  have hbounds := @makeDay_bounds (1900 + utcFullYear t) (utcMonth t + 1) (utcDate t) (utcMonth_bounds t)
    (utcDate_bounds t)
  rw [Int.add_sub_cancel] at hbounds
  refine le_trans ?_ hbounds.1
  apply yearStart_strictMono.monotone
  exact Int.le_add_of_nonneg_right h.1

section Umalqura

variable [Umalqura]

/-- The day of an occasion in a year: its day, or the last one of its month. -/
def OccasionDateSpec.dayIn (spec : OccasionDateSpec) (year : Int) : Option Int :=
  match spec.calendar with
  | .gregorian => some (makeDay year (spec.month - 1) (min spec.day (monthLength year spec.month)))
  | .hijri =>
      (Umalqura.getDaysInMonth year spec.month).bind fun days =>
        (Umalqura.hijriToGregorian year spec.month (min spec.day days)).map dayOf

/-- The library: conversion is strictly increasing in year, month and day, answers civil dates from 1900 on, and the
year of a date is that of the triple which converts to it. -/
structure Umalqura.Increasing : Prop where
  increasing : ∀ y m d y' m' d' out out', Umalqura.hijriToGregorian y m d = some out →
    Umalqura.hijriToGregorian y' m' d' = some out' → (y < y' ∨ y = y' ∧ (m < m' ∨ m = m' ∧ d < d')) →
    dayOf out < dayOf out'
  civil : ∀ y m d out, Umalqura.hijriToGregorian y m d = some out → out = civilFromDays (dayOf out) ∧ 1900 ≤ out.1
  year : ∀ t y, Umalqura.hy t = some y ↔ ∃ m d out, Umalqura.hijriToGregorian y m d = some out ∧ dayOf out = utcDay t

/-- A date as the service validates it. -/
structure OccasionDateSpec.Valid (spec : OccasionDateSpec) : Prop where
  month : 1 ≤ spec.month ∧ spec.month ≤ 12
  day : 1 ≤ spec.day ∧ spec.day ≤ 31
  year : spec.calendar = .gregorian → ∀ year, spec.year = some year → 1900 ≤ year

variable {spec : OccasionDateSpec} {after : Time}

theorem calendarDate_gregorian (hvalid : spec.Valid) (hcalendar : spec.calendar = .gregorian) {year n : Int}
    (hn : spec.dayIn (makeFullYear year) = some n) :
    calendarDateToGregorian spec.calendar year spec.month spec.day = .ok (n * dayMillis) := by
  rw [OccasionDateSpec.dayIn, hcalendar] at hn
  rw [hcalendar, calendarDateToGregorian_gregorian, gregorianDay, utcDate_last hvalid.month (makeFullYear_idem year)]
  cases hn
  rfl

theorem calendarDate_hijri (hlib : Umalqura.Increasing) (hcalendar : spec.calendar = .hijri) {year n : Int}
    (hn : spec.dayIn year = some n) :
    calendarDateToGregorian spec.calendar year spec.month spec.day = .ok (n * dayMillis) := by
  rw [OccasionDateSpec.dayIn, hcalendar] at hn
  obtain ⟨days, hdays, hout⟩ := Option.bind_eq_some_iff.mp hn
  obtain ⟨out, hconvert, rfl⟩ := Option.map_eq_some_iff.mp hout
  obtain ⟨-, hmodern⟩ := hlib.civil _ _ _ _ hconvert
  rw [hcalendar, calendarDateToGregorian, hijriToGregorianDate, daysInMonth, hdays]
  change (do
    let out ← converted (Umalqura.hijriToGregorian year spec.month (min spec.day days))
    pure (dateUTC out.1 (out.2.1 - 1) out.2.2) : Except Err Time) = _
  rw [hconvert]
  refine congrArg Except.ok ?_
  rw [dateUTC, makeFullYear_of_modern hmodern, dayOf]

theorem dayIn_gregorian (hvalid : spec.Valid) (hcalendar : spec.calendar = .gregorian) (year : Int) :
    ∃ n, spec.dayIn year = some n ∧ yearStart year ≤ n ∧ n < yearStart (year + 1) := by
  obtain ⟨hlow, hhigh⟩ := monthLength_bounds year spec.month
  refine ⟨_, by rw [OccasionDateSpec.dayIn, hcalendar], makeDay_bounds hvalid.month ⟨?_, ?_⟩⟩
  · exact le_min hvalid.day.1 (by omega)
  · exact (min_le_right _ _).trans hhigh

theorem series_gregorian (hvalid : spec.Valid) (hcalendar : spec.calendar = .gregorian) (t : Time) :
    Series spec.dayIn (utcDay t) (utcFullYear t) := by
  obtain ⟨hstart, hend⟩ := year_of_day (utcDay t)
  have hbounds {y a : Int} (ha : spec.dayIn y = some a) : yearStart y ≤ a ∧ a < yearStart (y + 1) := by
    obtain ⟨n, hn, hwithin⟩ := dayIn_gregorian hvalid hcalendar y
    rw [hn] at ha
    cases ha
    exact hwithin
  have hmono {y y' : Int} (h : y ≤ y') : yearStart y ≤ yearStart y' := yearStart_strictMono.monotone h
  refine ⟨fun y y' a b ha hb hlt => ?_, fun y a hlt ha => ?_, fun y a hlt ha => ?_⟩
  · exact (hbounds ha).2.trans_le ((hmono (Int.add_one_le_of_lt hlt)).trans (hbounds hb).1)
  · exact (hbounds ha).2.trans_le ((hmono (Int.add_one_le_of_lt hlt)).trans hstart)
  · exact hend.trans_le ((hmono (Int.add_one_le_of_lt hlt)).trans (hbounds ha).1)

theorem dayIn_hijri (hcalendar : spec.calendar = .hijri) {year n : Int} (hn : spec.dayIn year = some n) :
    ∃ d out, Umalqura.hijriToGregorian year spec.month d = some out ∧ dayOf out = n := by
  rw [OccasionDateSpec.dayIn, hcalendar] at hn
  obtain ⟨days, -, hout⟩ := Option.bind_eq_some_iff.mp hn
  obtain ⟨out, hconvert, hday⟩ := Option.map_eq_some_iff.mp hout
  exact ⟨_, out, hconvert, hday⟩

theorem series_hijri (hlib : Umalqura.Increasing) (hcalendar : spec.calendar = .hijri) {t : Time} {this : Int}
    (hthis : Umalqura.hy t = some this) : Series spec.dayIn (utcDay t) this := by
  obtain ⟨m, d, out, hconvert, hday⟩ := (hlib.year t this).mp hthis
  refine ⟨fun y y' a b ha hb hlt => ?_, fun y a hlt ha => ?_, fun y a hlt ha => ?_⟩
  · obtain ⟨d₁, out₁, hconvert₁, rfl⟩ := dayIn_hijri hcalendar ha
    obtain ⟨d₂, out₂, hconvert₂, rfl⟩ := dayIn_hijri hcalendar hb
    exact hlib.increasing _ _ _ _ _ _ _ _ hconvert₁ hconvert₂ (Or.inl hlt)
  · obtain ⟨d₁, out₁, hconvert₁, rfl⟩ := dayIn_hijri hcalendar ha
    rw [← hday]
    exact hlib.increasing _ _ _ _ _ _ _ _ hconvert₁ hconvert (Or.inl hlt)
  · obtain ⟨d₁, out₁, hconvert₁, rfl⟩ := dayIn_hijri hcalendar ha
    rw [← hday]
    exact hlib.increasing _ _ _ _ _ _ _ _ hconvert hconvert₁ (Or.inl hlt)

/-! ### The next occurrence -/

/-- The last date of a calendar that the platform computes: a `Date` ends on 13 September 275760, and a day of the
Gregorian calendar is computed from the last of its month. -/
def lastDate : Calendar → Time
  | .gregorian => dateUTC 275760 8 0
  | .hijri => 8640000000000000

/-- `nextOccurrence`, where a date past the last one is none: no comparison with an invalid date holds. -/
def nextDate (spec : OccasionDateSpec) (after : Time) : Except Err (Option Time) := do
  let next ← nextOccurrence spec after
  pure (next.filter fun d => d ≤ lastDate spec.calendar)

/-- The library converts what is asked of it: the year of the instant, the day in it and, where that has passed, the day
in the next year. -/
def OccasionDateSpec.Covered (spec : OccasionDateSpec) (after : Time) : Prop :=
  spec.calendar = .hijri → ∃ this a, Umalqura.hy after = some this ∧ spec.dayIn this = some a ∧
    (a < utcDay after → ∃ b, spec.dayIn (this + 1) = some b)

/-- Neither the instant nor the occurrence after it lies in the first century. -/
def OccasionDateSpec.Clear (spec : OccasionDateSpec) (after : Time) : Prop :=
  spec.calendar = .gregorian → ¬TwoDigit (utcFullYear after) ∧
    (utcFullYear after = -1 → ∃ n, spec.dayIn (-1) = some n ∧ utcDay after ≤ n)

/-- There is an occurrence, which the library and the platform have a date for, outside the first century. -/
structure OccasionDateSpec.Sound (spec : OccasionDateSpec) (after : Time) : Prop where
  covered : spec.Covered after
  clear : spec.Clear after
  dated : ∃ year n, spec.dayIn year = some n ∧ utcDay after ≤ n ∧ n * dayMillis ≤ lastDate spec.calendar

theorem nextOccurrence_series (hyearly : spec.recurrence = .yearly) {this a : Int}
    (hcurrent : currentYearInCalendar spec.calendar after = .ok this)
    (hstart : startOfUtcDay after = utcDay after * dayMillis) (hseries : Series spec.dayIn (utcDay after) this)
    (ha : spec.dayIn this = some a)
    (hdate : calendarDateToGregorian spec.calendar this spec.month spec.day = .ok (a * dayMillis))
    (hnext : a < utcDay after → ∃ b, spec.dayIn (this + 1) = some b ∧
      calendarDateToGregorian spec.calendar (this + 1) spec.month spec.day = .ok (b * dayMillis)) :
    ∃ n, nextOccurrence spec after = .ok (some (n * dayMillis)) ∧ IsFirst spec.dayIn (utcDay after) n := by
  have hroll : nextOccurrence spec after = rollForward spec (utcDay after * dayMillis) 3 this := by
    rw [nextOccurrence, hyearly, hstart]
    simp only [hcurrent]
    rfl
  rw [hroll, rollForward, hdate]
  rcases Int.lt_or_le a (utcDay after) with hpassed | hahead
  · obtain ⟨b, hb, hdate'⟩ := hnext hpassed
    have hfirst := hseries.first_next ha hpassed hb
    refine ⟨b, (if_neg fun h => ?_).trans ?_, hfirst⟩
    · exact absurd (day_le_iff.mp h) (not_le.mpr hpassed)
    · rw [rollForward, hdate']
      exact if_pos (day_le_iff.mpr hfirst.ahead)
  · exact ⟨a, if_pos (day_le_iff.mpr hahead), hseries.first_this ha hahead⟩

/-- The years asked of the library start with a modern day. -/
theorem startOfUtcDay_hijri (hlib : Umalqura.Increasing) {this : Int} (hthis : Umalqura.hy after = some this) :
    startOfUtcDay after = utcDay after * dayMillis := by
  obtain ⟨m, d, out, hconvert, hday⟩ := (hlib.year after this).mp hthis
  obtain ⟨hcivil, hmodern⟩ := hlib.civil _ _ _ _ hconvert
  rw [hday] at hcivil
  apply startOfUtcDay_of_not
  intro hcentury
  rw [hcivil] at hmodern
  exact absurd (hmodern.trans hcentury.2) (by decide)

theorem nextOccurrence_first (hlib : Umalqura.Increasing) (hvalid : spec.Valid) (hyearly : spec.recurrence = .yearly)
    (hcovered : spec.Covered after) (hclear : spec.Clear after) :
    ∃ n, nextOccurrence spec after = .ok (some (n * dayMillis)) ∧ IsFirst spec.dayIn (utcDay after) n := by
  cases hcalendar : spec.calendar with
  | gregorian =>
      obtain ⟨hthis, hlast⟩ := hclear hcalendar
      obtain ⟨a, ha, -, -⟩ := dayIn_gregorian hvalid hcalendar (utcFullYear after)
      obtain ⟨b, hb, -, -⟩ := dayIn_gregorian hvalid hcalendar (utcFullYear after + 1)
      have hcurrent : currentYearInCalendar spec.calendar after = .ok (utcFullYear after) := by
        rw [hcalendar]
        rfl
      refine nextOccurrence_series hyearly hcurrent (startOfUtcDay_of_not hthis)
        (series_gregorian hvalid hcalendar after) ha ?_ fun hpassed => ⟨b, hb, ?_⟩
      · apply calendarDate_gregorian hvalid hcalendar
        rwa [makeFullYear_of_not hthis]
      · -- the year before the first century is over only where its day is still ahead
        have hnext : ¬TwoDigit (utcFullYear after + 1) := by
          rintro ⟨hlow, hhigh⟩
          have hyear : utcFullYear after = -1 := by
            by_contra hne
            exact hthis ⟨by omega, by omega⟩
          obtain ⟨n, hn, hahead⟩ := hlast hyear
          rw [hyear, hn] at ha
          cases ha
          exact absurd hpassed (not_lt.mpr hahead)
        apply calendarDate_gregorian hvalid hcalendar
        rwa [makeFullYear_of_not hnext]
  | hijri =>
      obtain ⟨this, a, hthis, ha, hnext⟩ := hcovered hcalendar
      have hcurrent : currentYearInCalendar spec.calendar after = .ok this := by
        rw [hcalendar, currentYearInCalendar, gregorianToHijriYear, hthis]
        rfl
      apply nextOccurrence_series hyearly hcurrent (startOfUtcDay_hijri hlib hthis)
        (series_hijri hlib hcalendar hthis) ha (calendarDate_hijri hlib hcalendar ha)
      intro hpassed
      obtain ⟨b, hb⟩ := hnext hpassed
      exact ⟨b, hb, calendarDate_hijri hlib hcalendar hb⟩

/-- The result is one of the dates computed. -/
theorem rollForward_reached {today d : Time} {years : Nat} {yr : Int}
    (h : rollForward spec today years yr = .ok (some d)) :
    today ≤ d ∧ ∃ i : Nat, i < years ∧
      calendarDateToGregorian spec.calendar (yr + i) spec.month spec.day = .ok d := by
  induction years generalizing yr with
  | zero => cases h
  | succ years ih =>
      rw [rollForward] at h
      cases hdate : calendarDateToGregorian spec.calendar yr spec.month spec.day with
      | error e =>
          rw [hdate] at h
          cases h
      | ok date =>
          rw [hdate] at h
          change (if today ≤ date then .ok (some date) else rollForward spec today years (yr + 1)) = _ at h
          split at h
          next hahead =>
            cases h
            refine ⟨hahead, 0, Nat.succ_pos years, ?_⟩
            rw [Nat.cast_zero, Int.add_zero]
            exact hdate
          next =>
            obtain ⟨hahead, i, hi, hreached⟩ := ih h
            refine ⟨hahead, i + 1, Nat.succ_lt_succ hi, ?_⟩
            rwa [Nat.cast_succ, Int.add_comm (i : Int) 1, ← Int.add_assoc]

theorem nextDate_eq_some {d : Time} :
    nextDate spec after = .ok (some d) ↔ nextOccurrence spec after = .ok (some d) ∧ d ≤ lastDate spec.calendar := by
  unfold nextDate
  cases nextOccurrence spec after with
  | error e => exact ⟨fun h => (nomatch h), fun h => (nomatch h.1)⟩
  | ok next =>
      change (.ok (next.filter fun d => d ≤ lastDate spec.calendar) : Except Err (Option Time)) = _ ↔ _
      simp [Option.filter_eq_some_iff]

/-! ### What a least occurrence takes -/

/-- A date that the library does not convert. -/
theorem calendarDate_none (hcalendar : spec.calendar = .hijri) {year : Int} (hnone : spec.dayIn year = none) :
    calendarDateToGregorian spec.calendar year spec.month spec.day = .error rangeError := by
  rw [OccasionDateSpec.dayIn, hcalendar] at hnone
  rw [hcalendar, calendarDateToGregorian, hijriToGregorianDate, daysInMonth]
  cases hdays : Umalqura.getDaysInMonth year spec.month with
  | none => rfl
  | some days =>
      rw [hdays, Option.bind_some, Option.map_eq_none_iff] at hnone
      change (do
        let out ← converted (Umalqura.hijriToGregorian year spec.month (min spec.day days))
        pure (dateUTC out.1 (out.2.1 - 1) out.2.2) : Except Err Time) = _
      rw [hnone]
      rfl

/-- What has been computed, the library converts. -/
theorem covered_of_result (hlib : Umalqura.Increasing) (hyearly : spec.recurrence = .yearly) {next : Option Time}
    (h : nextOccurrence spec after = .ok next) : spec.Covered after := by
  intro hcalendar
  rw [nextOccurrence, hyearly] at h
  cases hthis : Umalqura.hy after with
  | none =>
      rw [hcalendar, currentYearInCalendar, gregorianToHijriYear, hthis] at h
      cases h
  | some this =>
      have hcurrent : currentYearInCalendar spec.calendar after = .ok this := by
        rw [hcalendar, currentYearInCalendar, gregorianToHijriYear, hthis]
        rfl
      simp only [hcurrent] at h
      change rollForward spec (startOfUtcDay after) 3 this = _ at h
      rw [startOfUtcDay_hijri hlib hthis, rollForward] at h
      cases ha : spec.dayIn this with
      | none =>
          rw [calendarDate_none hcalendar ha] at h
          cases h
      | some a =>
          refine ⟨this, a, rfl, ha, fun hpassed => Option.ne_none_iff_exists'.mp fun hb => ?_⟩
          rw [calendarDate_hijri hlib hcalendar ha] at h
          have hroll := (if_neg fun hle => absurd (day_le_iff.mp hle) (not_le.mpr hpassed)).symm.trans h
          rw [rollForward, calendarDate_none hcalendar hb] at hroll
          cases hroll

/-- In and before the first century, a date that is not clear is computed in the twentieth. -/
theorem modern_of_not_clear (hvalid : spec.Valid) (hyearly : spec.recurrence = .yearly)
    (hcalendar : spec.calendar = .gregorian) {n : Int} (h : nextOccurrence spec after = .ok (some (n * dayMillis)))
    (hthis : TwoDigit (utcFullYear after) ∨
      utcFullYear after = -1 ∧ ∀ a, spec.dayIn (-1) = some a → a < utcDay after) : yearStart 1900 ≤ n := by
  have hroll : rollForward spec (startOfUtcDay after) 3 (utcFullYear after) = .ok (some (n * dayMillis)) := by
    rw [nextOccurrence, hyearly, hcalendar] at h
    exact h
  obtain ⟨hahead, i, hi, hdate⟩ := rollForward_reached hroll
  rcases hthis with hthis | ⟨hthis, hpassed⟩
  · exact day_le_iff.mp ((startOfUtcDay_modern hthis).trans hahead)
  · rw [hthis] at hdate
    obtain ⟨a, ha, hstart, -⟩ := dayIn_gregorian hvalid hcalendar (makeFullYear (-1 + i))
    rw [calendarDate_gregorian hvalid hcalendar ha] at hdate
    have hday : a = n := Int.eq_of_mul_eq_mul_right (by decide : dayMillis ≠ 0) (Except.ok.inj hdate)
    subst hday
    rw [startOfUtcDay_of_not (by rw [hthis]; decide), day_le_iff] at hahead
    -- the year itself is over, and the two after it are of two digits
    have hyear : makeFullYear (-1 + i) = -1 ∨ 1900 ≤ makeFullYear (-1 + i) := by
      interval_cases i <;> decide
    rcases hyear with hyear | hyear
    · rw [hyear] at ha
      exact absurd hahead (not_le.mpr (hpassed a ha))
    · exact (yearStart_strictMono.monotone hyear).trans hstart

/-- The least occurrence is of this year or the next. -/
theorem IsFirst.lt_yearStart (hvalid : spec.Valid) (hcalendar : spec.calendar = .gregorian) {n : Int}
    (h : IsFirst spec.dayIn (utcDay after) n) : n < yearStart (utcFullYear after + 2) := by
  obtain ⟨b, hb, -, hend⟩ := dayIn_gregorian hvalid hcalendar (utcFullYear after + 1)
  have hahead := (series_gregorian hvalid hcalendar after).after (utcFullYear after + 1) b (by omega) hb
  rw [Int.add_assoc] at hend
  exact (h.least _ b hb hahead.le).trans_lt hend

theorem clear_of_first (hvalid : spec.Valid) (hyearly : spec.recurrence = .yearly) {n : Int}
    (h : nextOccurrence spec after = .ok (some (n * dayMillis))) (hfirst : IsFirst spec.dayIn (utcDay after) n) :
    spec.Clear after := by
  intro hcalendar
  have hlt := hfirst.lt_yearStart hvalid hcalendar
  have hancient (hyear : utcFullYear after ≤ 99) : ¬yearStart 1900 ≤ n := fun hmodern => by
    have hcentury := yearStart_strictMono.lt_iff_lt.mp (hmodern.trans_lt hlt)
    omega
  refine ⟨fun hthis => ?_, fun hthis => ?_⟩
  · exact hancient hthis.2 (modern_of_not_clear hvalid hyearly hcalendar h (Or.inl hthis))
  · by_contra hpassed
    refine hancient (by omega) (modern_of_not_clear hvalid hyearly hcalendar h (Or.inr ⟨hthis, fun a ha => ?_⟩))
    by_contra hahead
    exact hpassed ⟨a, ha, not_lt.mp hahead⟩

/-! ### The least occurrence -/

/-- Midnight of an occurrence is clear where the instant before it was. -/
theorem OccasionDateSpec.Clear.next (hvalid : spec.Valid) {n : Int} (hclear : spec.Clear after)
    (hfirst : IsFirst spec.dayIn (utcDay after) n) : spec.Clear (n * dayMillis) := by
  intro hcalendar
  obtain ⟨hthis, hlast⟩ := hclear hcalendar
  obtain ⟨y, hy⟩ := hfirst.occurs
  obtain ⟨m, hm, hstart, hend⟩ := dayIn_gregorian hvalid hcalendar y
  rw [hy] at hm
  cases hm
  have hyear : utcFullYear (n * dayMillis) = y := by
    rw [utcFullYear, Int.mul_ediv_cancel n (by decide)]
    exact year_eq hstart hend
  rw [hyear]
  refine ⟨fun hcentury => ?_, fun hminus => ?_⟩
  · have hlt := hfirst.lt_yearStart hvalid hcalendar
    have hle : y < utcFullYear after + 2 := yearStart_strictMono.lt_iff_lt.mp (hstart.trans_lt hlt)
    have hge : utcFullYear after < y + 1 :=
      yearStart_strictMono.lt_iff_lt.mp (((year_of_day (utcDay after)).1.trans hfirst.ahead).trans_lt hend)
    have hminus : utcFullYear after = -1 := by
      by_contra hne
      obtain ⟨hlow, hhigh⟩ := hcentury
      exact hthis ⟨by omega, by omega⟩
    -- the year before the first century has an occurrence ahead, which is not this one
    obtain ⟨a, ha, hahead⟩ := hlast hminus
    have hle' := hfirst.least (-1) a ha hahead
    obtain ⟨a', ha', -, hend'⟩ := dayIn_gregorian hvalid hcalendar (-1)
    rw [ha] at ha'
    cases ha'
    have hlt' : y < 0 := yearStart_strictMono.lt_iff_lt.mp ((hstart.trans hle').trans_lt hend')
    exact absurd hcentury.1 (not_le.mpr hlt')
  · subst hminus
    exact ⟨n, hy, (utcDay_midnight n).le⟩

theorem IsFirst.covered_next (hlib : Umalqura.Increasing) {n : Int} (hfirst : IsFirst spec.dayIn (utcDay after) n) :
    spec.Covered (n * dayMillis) := by
  intro hcalendar
  obtain ⟨y, hy⟩ := hfirst.occurs
  obtain ⟨d, out, hconvert, hday⟩ := dayIn_hijri hcalendar hy
  refine ⟨y, n, (hlib.year _ y).mpr ⟨_, d, out, hconvert, ?_⟩, hy, fun hlt => ?_⟩
  · rw [hday, utcDay_midnight]
  · rw [utcDay_midnight] at hlt
    exact absurd hlt (lt_irrefl n)

theorem OccasionDateSpec.Sound.found (hlib : Umalqura.Increasing) (hvalid : spec.Valid)
    (hyearly : spec.recurrence = .yearly) (hsound : spec.Sound after) :
    ∃ n, nextDate spec after = .ok (some (n * dayMillis)) ∧ IsFirst spec.dayIn (utcDay after) n := by
  obtain ⟨n, hn, hfirst⟩ := nextOccurrence_first hlib hvalid hyearly hsound.covered hsound.clear
  obtain ⟨year, m, hm, hahead, hlast⟩ := hsound.dated
  have hle := day_le_iff.mpr (hfirst.least year m hm hahead)
  exact ⟨n, nextDate_eq_some.mpr ⟨hn, hle.trans hlast⟩, hfirst⟩

theorem nextDate_once (hlib : Umalqura.Increasing) (hvalid : spec.Valid) (honce : spec.recurrence = .once)
    (after : Time) {year n : Int} (hyear : spec.year = some year) (hn : spec.dayIn year = some n) :
    nextDate spec after = .ok (if startOfUtcDay after ≤ n * dayMillis ∧ n * dayMillis ≤ lastDate spec.calendar
      then some (n * dayMillis) else none) ∧ yearStart 1900 ≤ n := by
  have hdate : calendarDateToGregorian spec.calendar year spec.month spec.day = .ok (n * dayMillis) ∧
      yearStart 1900 ≤ n := by
    cases hcalendar : spec.calendar with
    | gregorian =>
        have hmodern := hvalid.year hcalendar year hyear
        obtain ⟨m, hm, hstart, -⟩ := dayIn_gregorian hvalid hcalendar year
        rw [hn] at hm
        cases hm
        rw [← hcalendar]
        refine ⟨calendarDate_gregorian hvalid hcalendar ?_, ?_⟩
        · rwa [makeFullYear_of_modern hmodern]
        · exact (yearStart_strictMono.monotone hmodern).trans hstart
    | hijri =>
        obtain ⟨d, out, hconvert, hday⟩ := dayIn_hijri hcalendar hn
        obtain ⟨hcivil, hmodern⟩ := hlib.civil _ _ _ _ hconvert
        rw [hday] at hcivil
        rw [hcivil] at hmodern
        rw [← hcalendar]
        refine ⟨calendarDate_hijri hlib hcalendar hn, ?_⟩
        exact (yearStart_strictMono.monotone hmodern).trans (year_of_day n).1
  refine ⟨?_, hdate.2⟩
  rw [nextDate, nextOccurrence, honce, hyear]
  simp only [hdate.1]
  refine congrArg Except.ok ?_
  by_cases hstart : startOfUtcDay after ≤ n * dayMillis
  · by_cases hlast : n * dayMillis ≤ lastDate spec.calendar
    · rw [if_pos hstart, if_pos ⟨hstart, hlast⟩]
      exact Option.filter_some_pos (decide_eq_true hlast)
    · rw [if_pos hstart, if_neg fun h => hlast h.2]
      exact Option.filter_some_neg (by simpa using hlast)
  · rw [if_neg hstart, if_neg fun h => hstart h.1]
    rfl

end Umalqura

/-! ### Two instants -/

namespace Pilot

/-- The days of 1447 before a month, counted from 0. -/
def before (month : Nat) : Int := (months.take month).sum

/-- The library, which converts the days of the months of 1447. -/
@[reducible] def days1447 : Umalqura where
  getDaysInMonth := year1447.getDaysInMonth
  hijriToGregorian year month day :=
    if year = 1447 ∧ 1 ≤ month ∧ month ≤ 12 ∧ 1 ≤ day ∧ day ≤ before month.toNat - before (month.toNat - 1) then
      some (civilFromDays (newYear + before (month.toNat - 1) + day - 1))
    else none
  hy := year1447.hy

attribute [local instance] days1447

theorem before_mono : ∀ j k : Fin 13, j ≤ k → before j ≤ before k := by decide +kernel

/-- Every day of the year lies in a month. -/
theorem before_month : ∀ n : Fin 355, ∃ k : Fin 12, before k ≤ n ∧ (n : Int) < before (k + 1) := by decide +kernel

/-- What is converted. -/
theorem days1447_eq_some {year month day : Int} {out : Int × Int × Int} :
    Umalqura.hijriToGregorian year month day = some out ↔ year = 1447 ∧ ∃ k : Fin 12, month = k + 1 ∧ 1 ≤ day ∧
      day ≤ before (k + 1) - before k ∧ out = civilFromDays (newYear + before k + day - 1) := by
  constructor
  · intro h
    obtain ⟨⟨hyear, hlow, hhigh, hday, hlast⟩, hout⟩ := Option.ite_none_right_eq_some.mp h
    obtain ⟨k, hk⟩ := Int.eq_ofNat_of_zero_le (by omega : 0 ≤ month - 1)
    obtain rfl : month = k + 1 := by omega
    exact ⟨hyear, ⟨k, by omega⟩, rfl, hday, hlast, (Option.some.inj hout).symm⟩
  · rintro ⟨hyear, k, rfl, hday, hlast, rfl⟩
    exact if_pos ⟨hyear, by omega, by omega, hday, hlast⟩

theorem dayOf_civilFromDays (n : Int) : dayOf (civilFromDays n) = n := makeDay_civilFromDays n

theorem days1447_increasing : Umalqura.Increasing where
  increasing := by
    intro y m d y' m' d' out out' h h' hlt
    obtain ⟨rfl, k, rfl, hday, hlast, rfl⟩ := days1447_eq_some.mp h
    obtain ⟨rfl, k', rfl, hday', hlast', rfl⟩ := days1447_eq_some.mp h'
    rw [dayOf_civilFromDays, dayOf_civilFromDays]
    rcases hlt with hyear | ⟨-, hmonth | ⟨hmonth, hlt⟩⟩
    · exact absurd hyear (lt_irrefl _)
    · have hbefore := before_mono ⟨k + 1, by omega⟩ ⟨k', by omega⟩ (Fin.mk_le_mk.mpr (by omega))
      dsimp only at hbefore
      omega
    · obtain rfl : k = k' := Fin.ext (by omega)
      omega
  civil := by
    intro y m d out h
    obtain ⟨rfl, k, rfl, hday, hlast, rfl⟩ := days1447_eq_some.mp h
    rw [dayOf_civilFromDays]
    refine ⟨rfl, ?_⟩
    have hbefore := before_mono 0 ⟨k, by omega⟩ (Fin.zero_le _)
    have hstart : yearStart 1900 ≤ newYear + before k + d - 1 := by
      have hmodern : yearStart 1900 ≤ newYear + before 0 := by decide +kernel
      dsimp only at hbefore
      change before 0 ≤ before k at hbefore
      omega
    have hyear := yearStart_strictMono.lt_iff_lt.mp (hstart.trans_lt (year_of_day _).2)
    omega
  year := by
    intro t y
    constructor
    · intro h
      obtain ⟨hwithin, hyear⟩ := Option.ite_none_right_eq_some.mp h
      obtain ⟨hlow, hhigh⟩ : newYear ≤ utcDay t ∧ utcDay t < newYear + months.sum := hwithin
      cases hyear
      obtain ⟨n, hn⟩ := Int.eq_ofNat_of_zero_le (Int.sub_nonneg.mpr hlow)
      have hsum : months.sum = 355 := by decide
      obtain ⟨k, hfirst, hlast⟩ := before_month ⟨n, by omega⟩
      dsimp only at hfirst hlast
      refine ⟨k + 1, n - before k + 1, _, days1447_eq_some.mpr ⟨rfl, k, rfl, by omega, by omega, rfl⟩, ?_⟩
      rw [dayOf_civilFromDays]
      omega
    · rintro ⟨m, d, out, h, hday⟩
      obtain ⟨rfl, k, rfl, hfirst, hlast, rfl⟩ := days1447_eq_some.mp h
      rw [dayOf_civilFromDays] at hday
      have hlow := before_mono 0 ⟨k, by omega⟩ (Fin.zero_le _)
      have hhigh := before_mono ⟨k + 1, by omega⟩ (Fin.last 12) (Fin.le_last _)
      change before 0 ≤ before k at hlow
      change before (k + 1) ≤ months.sum at hhigh
      have hzero : before 0 = 0 := rfl
      have hwithin : newYear ≤ utcDay t ∧ utcDay t < newYear + months.sum := by omega
      exact if_pos hwithin

/-- Every 10 Shawwal. -/
def feast : OccasionDateSpec := ⟨.hijri, none, 10, 10, .yearly⟩

def january : OccasionDateSpec := ⟨.gregorian, none, 1, 1, .yearly⟩

end Pilot

attribute [local instance] Pilot.days1447

end Qift.Occasions
