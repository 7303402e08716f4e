import Qift.Lib.Gregorian
import Qift.Runtime

/-!
# Dates of the platform

`Date.UTC` and the fields of a date, over `civilFromDays`.

* `makeDay`, `dateUTC`, `utcMonth`, `utcDate` and `startOfUtcDay`.
* `makeDay_civilFromDays` — a day is made of its date; `year_of_day` and `year_eq` — it lies in its year and no other.
* `startOfUtcDay_eq` — from 1970 on, the start of a day is its midnight.
-/

namespace Qift.Occasions

open Gregorian (marchStart marchYear)

/-! ### The platform's dates -/

/-- `Date.getUTCMonth`: January is 0. -/
def utcMonth (t : Time) : Int := (civilFromDays (t / dayMillis)).2.1 - 1

/-- `Date.getUTCDate`. -/
def utcDate (t : Time) : Int := (civilFromDays (t / dayMillis)).2.2

/-- `MakeDay`: the day number of a date whose month, counted from 0, and day may run over. -/
def makeDay (year month day : Int) : Int :=
  let m := month % 12
  let y := year + month / 12
  marchStart (if m ≤ 1 then y - 1 else y) + (153 * ((m + 10) % 12) + 2) / 5 + day - 1 - 719468

/-- `MakeFullYear`: a year of two digits is one of the twentieth century. -/
def makeFullYear (year : Int) : Int := if 0 ≤ year ∧ year ≤ 99 then 1900 + year else year

/-- `Date.UTC`. -/
def dateUTC (year month day : Int) : Time := makeDay (makeFullYear year) month day * dayMillis

def startOfUtcDay (date : Time) : Time := dateUTC (utcFullYear date) (utcMonth date) (utcDate date)

/-- The first day of a year. -/
def yearStart (year : Int) : Int := makeDay year 0 1

theorem yearStart_eq (year : Int) : yearStart year = marchStart (year - 1) + 306 - 719468 := by
  simp [yearStart, makeDay]

theorem civilFromDays_eq (n : Int) : civilFromDays n =
    (let y := marchYear (n + 719468)
     let dayOfYear := n + 719468 - marchStart y
     let shiftedMonth := (5 * dayOfYear + 2) / 153
     let month := if shiftedMonth < 10 then shiftedMonth + 3 else shiftedMonth - 9
     (y + (if month ≤ 2 then 1 else 0), month, dayOfYear - (153 * shiftedMonth + 2) / 5 + 1)) := by
  have hyear := Gregorian.yearOfEra_spec (Int.emod_nonneg (n + 719468) (by decide))
    (Int.emod_lt_of_pos (n + 719468) (by decide : (0 : Int) < 146097))
  have hday : n + 719468 - marchStart (marchYear (n + 719468)) = (n + 719468) % 146097 -
      (365 * Gregorian.yearOfEra ((n + 719468) % 146097) + Gregorian.yearOfEra ((n + 719468) % 146097) / 4 -
        Gregorian.yearOfEra ((n + 719468) % 146097) / 100) := by
    have hlow : 0 ≤ Gregorian.yearOfEra ((n + 719468) % 146097) := Gregorian.yearOfEra_mono (Int.emod_nonneg _ (by decide))
    have hhigh : Gregorian.yearOfEra ((n + 719468) % 146097) ≤ 399 :=
      Gregorian.yearOfEra_mono (b := 146096) (by omega)
    unfold marchYear marchStart
    omega
  simp only [hday]
  rfl

theorem makeDay_civilFromDays (n : Int) :
    makeDay (civilFromDays n).1 ((civilFromDays n).2.1 - 1) (civilFromDays n).2.2 = n := by
  obtain ⟨hlow, hhigh⟩ := Gregorian.marchYear_spec (n + 719468)
  obtain ⟨-, hlength⟩ := Gregorian.marchStart_succ (marchYear (n + 719468))
  rw [civilFromDays_eq]
  dsimp only
  generalize hy : marchYear (n + 719468) = y at *
  generalize hd : n + 719468 - marchStart y = d
  generalize hm : (5 * d + 2) / 153 = m
  have hm0 : 0 ≤ m ∧ m ≤ 11 := by omega
  unfold makeDay
  dsimp only
  by_cases hspring : m < 10
  · have hmod : (m + 3 - 1) % 12 = m + 2 := by omega
    have hdiv : (m + 3 - 1) / 12 = 0 := by omega
    have hshift : (m + 2 + 10) % 12 = m := by omega
    rw [if_pos hspring, if_neg (by omega), hmod, hdiv, hshift, if_neg (by omega)]
    simp only [Int.add_zero]
    omega
  · have hmod : (m - 9 - 1) % 12 = m - 10 := by omega
    have hdiv : (m - 9 - 1) / 12 = 0 := by omega
    have hshift : (m - 10 + 10) % 12 = m := by omega
    rw [if_neg hspring, if_pos (by omega), hmod, hdiv, hshift, if_pos (by omega)]
    simp only [Int.add_zero, Int.add_sub_cancel]
    omega

theorem year_of_day (n : Int) :
    yearStart (civilFromDays n).1 ≤ n ∧ n < yearStart ((civilFromDays n).1 + 1) := by
  obtain ⟨hlow, hhigh⟩ := Gregorian.marchYear_spec (n + 719468)
  obtain ⟨-, hlength⟩ := Gregorian.marchStart_succ (marchYear (n + 719468))
  have hbefore := Gregorian.marchStart_succ (marchYear (n + 719468) - 1)
  rw [civilFromDays_eq, yearStart_eq, yearStart_eq]
  dsimp only
  generalize marchYear (n + 719468) = y at *
  rw [Int.sub_add_cancel] at hbefore
  by_cases hspring : (5 * (n + 719468 - marchStart y) + 2) / 153 < 10
  · rw [if_pos hspring, if_neg (by omega), Int.add_zero, Int.add_sub_cancel]
    omega
  · rw [if_neg hspring, if_pos (by omega), Int.add_sub_cancel, Int.add_sub_cancel]
    omega

theorem year_eq {n year : Int} (hlow : yearStart year ≤ n) (hhigh : n < yearStart (year + 1)) :
    (civilFromDays n).1 = year := by
  obtain ⟨hlow', hhigh'⟩ := year_of_day n
  rw [yearStart_eq] at *
  have hle : year - 1 < (civilFromDays n).1 + 1 - 1 := Gregorian.marchStart_lt_marchStart.mp (by omega)
  have hge : (civilFromDays n).1 - 1 < year + 1 - 1 := Gregorian.marchStart_lt_marchStart.mp (by omega)
  omega

theorem modern_year {t : Time} (ht : 0 ≤ t) : 1970 ≤ (civilFromDays (t / dayMillis)).1 := by
  obtain ⟨-, hyear⟩ := year_of_day (t / dayMillis)
  have hday : (0 : Int) ≤ t / dayMillis := Int.ediv_nonneg ht (by decide)
  rw [yearStart_eq] at hyear
  have hepoch : marchStart 1969 = 719162 := by decide
  have hlt : 1969 < (civilFromDays (t / dayMillis)).1 + 1 - 1 :=
    Gregorian.marchStart_lt_marchStart.mp (by omega)
  omega

theorem startOfUtcDay_eq {t : Time} (ht : 0 ≤ t) : startOfUtcDay t = t / dayMillis * dayMillis := by
  have hmodern := modern_year ht
  rw [startOfUtcDay, dateUTC, makeFullYear, if_neg (by rw [utcFullYear]; omega)]
  exact congrArg (· * dayMillis) (makeDay_civilFromDays (t / dayMillis))

/-- A midnight is not before the day of an instant that is before the next. -/
theorem startOfUtcDay_le_of_lt {t d : Time} (ht : 0 ≤ t) (hd : ∃ n : Int, d = n * dayMillis) (hlt : t < d + dayMillis) :
    startOfUtcDay t ≤ d := by
  obtain ⟨n, rfl⟩ := hd
  rw [startOfUtcDay_eq ht]
  have hday : t / dayMillis ≤ n := by
    have hdiv : t / dayMillis < n + 1 := Int.ediv_lt_of_lt_mul (by decide) (by rw [Int.add_mul, Int.one_mul]; exact hlt)
    exact Int.lt_add_one_iff.mp hdiv
  exact Int.mul_le_mul_of_nonneg_right hday (by decide)

end Qift.Occasions
