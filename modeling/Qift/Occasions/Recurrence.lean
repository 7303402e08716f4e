import Qift.Occasions.Dates
import Qift.Settlement.States

/-!
# When an occasion recurs

`hijri.ts` and `occasion-recurrence.ts`.

* `Umalqura` is the library of the Umm al-Qura calendar; it throws outside its tables, and `Convertible` are the years
  inside.
* `calendarDateToGregorian` is the date of a triple in its calendar, `nextOccurrence` the next one of an occasion.
* `nextOccurrence_once` and `nextOccurrence_yearly` say when an occasion resolves, and to what.
-/

namespace Qift.Occasions

inductive Calendar
  | gregorian | hijri
  deriving DecidableEq

inductive Recurrence
  | once | yearly
  deriving DecidableEq

/-! ### Conversion -/

/-- `@umalqura/core`: none where it throws. -/
class Umalqura where
  getDaysInMonth : Int → Int → Option Int
  hijriToGregorian : Int → Int → Int → Option (Int × Int × Int)
  /-- The year of a date. -/
  hy : Time → Option Int

/-- The failure of a conversion. -/
def rangeError : Err := .error "RangeError"

/-- What the library answers. -/
def converted {α : Type} (x : Option α) : Except Err α := x.elim (.error rangeError) .ok

section Conversion

variable [Umalqura]

def daysInMonth (calendar : Calendar) (year month : Int) : Except Err Int :=
  match calendar with
  | .gregorian => .ok (utcDate (dateUTC year month 0))
  | .hijri => converted (Umalqura.getDaysInMonth year month)

/-- A day past the end of its month is the last of the month. -/
def hijriToGregorianDate (year month day : Int) : Except Err Time := do
  let max ← daysInMonth .hijri year month
  let clamped := min day max
  let out ← converted (Umalqura.hijriToGregorian year month clamped)
  pure (dateUTC out.1 (out.2.1 - 1) out.2.2)

def gregorianToHijriYear (date : Time) : Except Err Int := converted (Umalqura.hy date)

def calendarDateToGregorian (calendar : Calendar) (year month day : Int) : Except Err Time :=
  match calendar with
  | .hijri => hijriToGregorianDate year month day
  | .gregorian => do
      let max ← daysInMonth .gregorian year month
      let clamped := min day max
      pure (dateUTC year (month - 1) clamped)

/-! ### Recurrence -/

structure OccasionDateSpec where
  calendar : Calendar
  year : Option Int
  month : Int
  day : Int
  recurrence : Recurrence

def currentYearInCalendar (calendar : Calendar) (date : Time) : Except Err Int :=
  match calendar with
  | .gregorian => .ok (utcFullYear date)
  | .hijri => gregorianToHijriYear date

/-- The first of some years from `yr` on whose date has not passed. -/
def rollForward (spec : OccasionDateSpec) (today : Time) : Nat → Int → Except Err (Option Time)
  | 0, _ => .ok none
  | years + 1, yr => do
      let d ← calendarDateToGregorian spec.calendar yr spec.month spec.day
      if today ≤ d then pure (some d) else rollForward spec today years (yr + 1)

def nextOccurrence (spec : OccasionDateSpec) (after : Time) : Except Err (Option Time) :=
  match spec.recurrence with
  | .once =>
      match spec.year with
      | none => .ok none
      | some year => do
          let d ← calendarDateToGregorian spec.calendar year spec.month spec.day
          pure (if startOfUtcDay after ≤ d then some d else none)
  | .yearly => do
      let startingYear ← currentYearInCalendar spec.calendar after
      -- the current year and the two after it
      rollForward spec (startOfUtcDay after) 3 startingYear

/-! ### What resolves -/

/-- The library converts every date of the year. -/
def Convertible (year : Int) : Prop :=
  ∀ month, 1 ≤ month → month ≤ 12 → ∃ days, Umalqura.getDaysInMonth year month = some days ∧ 1 ≤ days ∧
    ∀ day, 1 ≤ day → day ≤ days → (Umalqura.hijriToGregorian year month day).isSome

def Calendar.Converts (calendar : Calendar) (year : Int) : Prop := calendar = .hijri → Convertible year

/-- The library converts the years around a date. -/
def Covered (date : Time) : Prop :=
  ∃ year, Umalqura.hy date = some year ∧ Convertible year ∧ Convertible (year + 1) ∧ Convertible (year + 2)

theorem calendarDateToGregorian_ok {calendar : Calendar} {year month day : Int} (hyear : calendar.Converts year)
    (hmonth : 1 ≤ month ∧ month ≤ 12) (hday : 1 ≤ day) : ∃ d, calendarDateToGregorian calendar year month day = .ok d := by
  cases calendar with
  | gregorian => exact ⟨_, rfl⟩
  | hijri =>
      obtain ⟨days, hdays, hpos, hconvert⟩ := hyear rfl month hmonth.1 hmonth.2
      obtain ⟨out, hout⟩ := Option.isSome_iff_exists.mp (hconvert (min day days) (le_min hday hpos) (min_le_right _ _))
      refine ⟨dateUTC out.1 (out.2.1 - 1) out.2.2, ?_⟩
      rw [calendarDateToGregorian, hijriToGregorianDate, daysInMonth, hdays]
      change (do
        let out ← converted (Umalqura.hijriToGregorian year month (min day days))
        pure (dateUTC out.1 (out.2.1 - 1) out.2.2) : Except Err Time) = _
      rw [hout]
      rfl

theorem calendarDateToGregorian_midnight {calendar : Calendar} {year month day : Int} {d : Time}
    (h : calendarDateToGregorian calendar year month day = .ok d) : ∃ n : Int, d = n * dayMillis := by
  cases calendar with
  | gregorian =>
      cases h
      exact ⟨_, rfl⟩
  | hijri =>
      rw [calendarDateToGregorian, hijriToGregorianDate] at h
      cases hdays : daysInMonth .hijri year month with
      | error e =>
          rw [hdays] at h
          cases h
      | ok days =>
          rw [hdays] at h
          change (do
            let out ← converted (Umalqura.hijriToGregorian year month (min day days))
            pure (dateUTC out.1 (out.2.1 - 1) out.2.2) : Except Err Time) = _ at h
          cases hout : Umalqura.hijriToGregorian year month (min day days) with
          | none =>
              rw [hout] at h
              cases h
          | some out =>
              rw [hout] at h
              cases h
              exact ⟨_, rfl⟩

theorem rollForward_ok {spec : OccasionDateSpec} {today : Time} {years : Nat} {yr : Int}
    (h : ∀ n, n < years → ∃ d, calendarDateToGregorian spec.calendar (yr + n) spec.month spec.day = .ok d) :
    ∃ next, rollForward spec today years yr = .ok next := by
  induction years generalizing yr with
  | zero => exact ⟨none, rfl⟩
  | succ years ih =>
      obtain ⟨d, hd⟩ := h 0 (Nat.succ_pos years)
      rw [Nat.cast_zero, Int.add_zero] at hd
      have hrest := @ih (yr + 1) fun n hn => by
        have hyear := h (n + 1) (Nat.succ_lt_succ hn)
        rwa [Nat.cast_succ, Int.add_comm (n : Int) 1, ← Int.add_assoc] at hyear
      rw [rollForward, hd]
      by_cases htoday : today ≤ d
      · exact ⟨some d, if_pos htoday⟩
      · obtain ⟨next, hnext⟩ := hrest
        exact ⟨next, (if_neg htoday).trans hnext⟩

theorem nextOccurrence_yearly {spec : OccasionDateSpec} {after : Time} (hyearly : spec.recurrence = .yearly)
    (hmonth : 1 ≤ spec.month ∧ spec.month ≤ 12) (hday : 1 ≤ spec.day)
    (hcovered : spec.calendar = .hijri → Covered after) : ∃ next, nextOccurrence spec after = .ok next := by
  have hyears : ∃ year, currentYearInCalendar spec.calendar after = .ok year ∧
      ∀ n : Nat, n < 3 → spec.calendar.Converts (year + n) := by
    cases hcalendar : spec.calendar with
    | gregorian => exact ⟨_, rfl, fun n _ h => nomatch h⟩
    | hijri =>
        obtain ⟨year, hy, hthis, hnext, hlast⟩ := hcovered hcalendar
        refine ⟨year, ?_, fun n hn _ => ?_⟩
        · rw [currentYearInCalendar, gregorianToHijriYear, hy]
          rfl
        · interval_cases n
          · simpa using hthis
          · exact hnext
          · exact hlast
  obtain ⟨year, hyear, hconverts⟩ := hyears
  obtain ⟨next, hnext⟩ := @rollForward_ok _ spec (startOfUtcDay after) 3 year fun n hn =>
    calendarDateToGregorian_ok (hconverts n hn) hmonth hday
  refine ⟨next, ?_⟩
  rw [nextOccurrence, hyearly]
  simp only [hyear]
  exact hnext

theorem nextOccurrence_once {spec : OccasionDateSpec} {year : Int} (honce : spec.recurrence = .once)
    (hyear : spec.year = some year) (hconverts : spec.calendar.Converts year)
    (hmonth : 1 ≤ spec.month ∧ spec.month ≤ 12) (hday : 1 ≤ spec.day) :
    ∃ d, calendarDateToGregorian spec.calendar year spec.month spec.day = .ok d ∧
      ∀ after, nextOccurrence spec after = .ok (if startOfUtcDay after ≤ d then some d else none) := by
  obtain ⟨d, hd⟩ := calendarDateToGregorian_ok hconverts hmonth hday
  refine ⟨d, hd, fun after => ?_⟩
  rw [nextOccurrence, honce, hyear]
  simp only [hd]
  rfl

end Conversion

end Qift.Occasions
