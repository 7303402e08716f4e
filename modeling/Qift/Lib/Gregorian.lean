import Mathlib.Order.Monotone.Basic
import Mathlib.Tactic.IntervalCases

/-!
# Days and years of the Gregorian calendar

The proleptic calendar with its year from March on, so that the leap day is the last of the year.

* `marchStart y` is the day on which year `y` starts, counted from 1 March of year 0.
* `marchYear n` is the year of a day in closed form, from the four hundred years of an era;
  `marchStart_le` and `lt_marchStart` place the day in its year, `marchYear_eq` says that no other year has it.
-/

namespace Gregorian

/-- The first day of a year that starts in March. -/
def marchStart (y : Int) : Int := 365 * y + y / 4 - y / 100 + y / 400

/-- A year has 365 or 366 days. -/
theorem marchStart_succ (y : Int) :
    marchStart y + 365 ≤ marchStart (y + 1) ∧ marchStart (y + 1) ≤ marchStart y + 366 := by
  unfold marchStart
  omega

theorem marchStart_lt_marchStart {x y : Int} : marchStart x < marchStart y ↔ x < y := by
  have hmono : StrictMono marchStart := by
    refine strictMono_int_of_lt_succ fun y => ?_
    obtain ⟨hyear, -⟩ := marchStart_succ y
    omega
  exact hmono.lt_iff_lt

/-- Eras repeat. -/
theorem marchStart_add_era (y era : Int) : marchStart (y + 400 * era) = marchStart y + 146097 * era := by
  unfold marchStart
  omega

/-! ### The year of a day -/

/-- The year of a day of an era. -/
def yearOfEra (doe : Int) : Int := (doe - doe / 1460 + doe / 36524 - doe / 146096) / 365

theorem yearOfEra_mono {a b : Int} (hab : a ≤ b) : yearOfEra a ≤ yearOfEra b := by
  have hcenturies (x : Int) : x / 146096 = x / 36524 / 4 := by
    rw [Int.ediv_ediv_of_nonneg (by decide)]
    rfl
  have hquarters : a / 36524 - a / 36524 / 4 ≤ b / 36524 - b / 36524 / 4 := by
    have hle : a / 36524 ≤ b / 36524 := Int.ediv_le_ediv (by decide) hab
    omega
  have hleaps : a - a / 1460 ≤ b - b / 1460 := by omega
  unfold yearOfEra
  rw [hcenturies, hcenturies]
  exact Int.ediv_le_ediv (by decide) (by omega)

/-- The first and the last day of every year of an era. -/
theorem yearOfEra_bounds : ∀ y : Fin 400, yearOfEra (marchStart (y.val : Int)) = y.val ∧
    yearOfEra (marchStart ((y.val : Int) + 1) - 1) = y.val := by
  decide +kernel

theorem yearOfEra_spec {doe : Int} (hfirst : 0 ≤ doe) (hlast : doe < 146097) :
    marchStart (yearOfEra doe) ≤ doe ∧ doe < marchStart (yearOfEra doe + 1) := by
  have hlow : 0 ≤ yearOfEra doe := yearOfEra_mono hfirst
  have hhigh : yearOfEra doe ≤ 399 := yearOfEra_mono (b := 146096) (by omega)
  obtain ⟨y, hy⟩ := Int.eq_ofNat_of_zero_le hlow
  have hlt : y < 400 := by omega
  rw [hy]
  constructor
  · -- a day before the year is of an earlier one
    by_contra hbefore
    have hpos : 0 < y := by
      rcases Nat.eq_zero_or_pos y with rfl | hpos
      · exact absurd hfirst (by simpa [marchStart] using hbefore)
      · exact hpos
    obtain ⟨-, hend⟩ := yearOfEra_bounds ⟨y - 1, by omega⟩
    have hpred : ((y - 1 : Nat) : Int) + 1 = y := by omega
    simp only [hpred] at hend
    have hle : yearOfEra doe ≤ yearOfEra (marchStart y - 1) := yearOfEra_mono (by omega)
    omega
  · by_contra hafter
    rcases Nat.lt_or_ge (y + 1) 400 with hnext | hnext
    · obtain ⟨hstart, -⟩ := yearOfEra_bounds ⟨y + 1, hnext⟩
      have hsucc : ((y + 1 : Nat) : Int) = y + 1 := by omega
      simp only [hsucc] at hstart
      have hle : yearOfEra (marchStart (y + 1)) ≤ yearOfEra doe := yearOfEra_mono (by omega)
      omega
    · obtain rfl : y = 399 := by omega
      have hera : marchStart (((399 : Nat) : Int) + 1) = 146097 := by decide
      omega

/-- The year of a day. -/
def marchYear (n : Int) : Int := yearOfEra (n % 146097) + n / 146097 * 400

theorem marchYear_spec (n : Int) : marchStart (marchYear n) ≤ n ∧ n < marchStart (marchYear n + 1) := by
  obtain ⟨hlow, hhigh⟩ := yearOfEra_spec (Int.emod_nonneg n (by decide)) (Int.emod_lt_of_pos n (by decide))
  have hday : n % 146097 + 146097 * (n / 146097) = n := Int.emod_add_mul_ediv n 146097
  have hyear : marchYear n = yearOfEra (n % 146097) + 400 * (n / 146097) := by
    rw [marchYear, Int.mul_comm]
  have hnext : marchYear n + 1 = yearOfEra (n % 146097) + 1 + 400 * (n / 146097) := by omega
  rw [hnext, hyear, marchStart_add_era, marchStart_add_era]
  omega

/-- A day is of the year it lies in. -/
theorem marchYear_eq {n y : Int} (hlow : marchStart y ≤ n) (hhigh : n < marchStart (y + 1)) : marchYear n = y := by
  obtain ⟨hlow', hhigh'⟩ := marchYear_spec n
  have hle : y < marchYear n + 1 := marchStart_lt_marchStart.mp (by omega)
  have hge : marchYear n < y + 1 := marchStart_lt_marchStart.mp (by omega)
  omega

end Gregorian
