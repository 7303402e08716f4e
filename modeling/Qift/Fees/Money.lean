import Mathlib.Data.Rat.Floor
import Mathlib.Tactic

/-!
# Money in minor units

The money policy of `fees/money.ts` and the two-decimal storage columns.

* `toMinor` and `fromMinor` move between an amount in major units and whole minor units of a currency;
  **`toMinor_fromMinor`** says that whole minor units survive the trip.
* `Decimal` is a `NUMERIC(12, 2)` column, `moneyToNumber` reads it and `Decimal.ofNumber` writes it;
  `toMinor_moneyToNumber` and `Decimal.ofNumber_fromMinor` relate the column to the minor units of a
  two-decimal currency.

An amount the program carries as a number is an exact rational here: the amounts are whole minor units
over a power of ten, and the rounding of `toMinor` absorbs what a binary fraction of such an amount loses.
-/

namespace Qift

/-- A number as the program carries it between two columns. -/
abbrev Number := ℚ

/-- The currencies of the registry. -/
inductive CurrencyCode
  | SAR | AED | QAR | BHD | KWD | OMR
  deriving DecidableEq

namespace CurrencyCode

/-- `CURRENCY_MINOR_DIGITS`. -/
def minorDigits : CurrencyCode → Nat
  | SAR | AED | QAR => 2
  | BHD | KWD | OMR => 3

/-- The code as text. -/
def name : CurrencyCode → String
  | SAR => "SAR"
  | AED => "AED"
  | QAR => "QAR"
  | BHD => "BHD"
  | KWD => "KWD"
  | OMR => "OMR"

theorem name_injective : Function.Injective name := by
  intro c d h
  cases c <;> cases d <;> simp_all [name]

end CurrencyCode

/-- Minor units in one major unit. -/
def scaleFor (currency : CurrencyCode) : Nat := 10 ^ currency.minorDigits

theorem scaleFor_pos (currency : CurrencyCode) : 0 < scaleFor currency := by
  simp [scaleFor]

theorem scaleFor_ne_zero (currency : CurrencyCode) : (scaleFor currency : ℚ) ≠ 0 := by
  exact_mod_cast (scaleFor_pos currency).ne'

/-- `Math.round` of the amount in minor units: halves go up. -/
def toMinor (amount : Number) (currency : CurrencyCode) : Int :=
  ⌊amount * scaleFor currency + 1 / 2⌋

def fromMinor (minor : Int) (currency : CurrencyCode) : Number :=
  minor / scaleFor currency

/-- Rounding leaves an integer where it is. -/
theorem floor_add_half (n : Int) : ⌊(n : ℚ) + 1 / 2⌋ = n := by
  rw [Int.floor_intCast_add]
  norm_num

@[simp] theorem toMinor_fromMinor (minor : Int) (currency : CurrencyCode) :
    toMinor (fromMinor minor currency) currency = minor := by
  rw [toMinor, fromMinor, div_mul_cancel₀ _ (scaleFor_ne_zero currency), floor_add_half]

@[simp] theorem fromMinor_zero (currency : CurrencyCode) : fromMinor 0 currency = 0 := by
  simp [fromMinor]

theorem fromMinor_add (m n : Int) (currency : CurrencyCode) :
    fromMinor (m + n) currency = fromMinor m currency + fromMinor n currency := by
  simp [fromMinor, add_div]

@[simp] theorem toMinor_zero (currency : CurrencyCode) : toMinor 0 currency = 0 := by
  rw [← fromMinor_zero currency, toMinor_fromMinor]

theorem fromMinor_injective (currency : CurrencyCode) :
    Function.Injective fun minor => fromMinor minor currency :=
  Function.LeftInverse.injective (g := fun x => toMinor x currency)
    fun minor => toMinor_fromMinor minor currency

theorem fromMinor_nonneg_iff (minor : Int) (currency : CurrencyCode) :
    0 ≤ fromMinor minor currency ↔ 0 ≤ minor := by
  have hpos : (0 : ℚ) < scaleFor currency := by exact_mod_cast scaleFor_pos currency
  rw [fromMinor, le_div_iff₀ hpos, zero_mul]
  exact_mod_cast Iff.rfl

theorem fromMinor_le_iff (m n : Int) (currency : CurrencyCode) :
    fromMinor m currency ≤ fromMinor n currency ↔ m ≤ n := by
  have hpos : (0 : ℚ) < scaleFor currency := by exact_mod_cast scaleFor_pos currency
  rw [fromMinor, fromMinor, div_le_div_iff_of_pos_right hpos]
  exact_mod_cast Iff.rfl

/-! ### Two-decimal columns -/

/-- The value of a `NUMERIC(12, 2)` column, in hundredths. -/
structure Decimal where
  cents : Int
  deriving DecidableEq

namespace Decimal

instance : Inhabited Decimal := ⟨⟨0⟩⟩

/-- Storing a number: the column rounds to two decimals, halves away from zero. -/
def ofNumber (x : Number) : Decimal :=
  if 0 ≤ x then ⟨⌊x * 100 + 1 / 2⌋⟩ else ⟨-⌊-x * 100 + 1 / 2⌋⟩

end Decimal

/-- Reading a column. -/
def moneyToNumber (d : Decimal) : Number := d.cents / 100

/-- Storing a number of whole hundredths keeps it. -/
@[simp] theorem Decimal.ofNumber_moneyToNumber (d : Decimal) :
    Decimal.ofNumber (moneyToNumber d) = d := by
  have hmul : moneyToNumber d * 100 = d.cents := by
    rw [moneyToNumber]
    ring
  unfold Decimal.ofNumber
  split
  · rw [hmul, floor_add_half]
  · have hneg : -moneyToNumber d * 100 = ((-d.cents : Int) : ℚ) := by
      push_cast
      linarith
    rw [hneg, floor_add_half, neg_neg]

theorem moneyToNumber_eq_fromMinor {currency : CurrencyCode} (h : currency.minorDigits = 2)
    (d : Decimal) : moneyToNumber d = fromMinor d.cents currency := by
  simp [moneyToNumber, fromMinor, scaleFor, h]

theorem toMinor_moneyToNumber {currency : CurrencyCode} (h : currency.minorDigits = 2)
    (d : Decimal) : toMinor (moneyToNumber d) currency = d.cents := by
  rw [moneyToNumber_eq_fromMinor h, toMinor_fromMinor]

theorem Decimal.ofNumber_fromMinor {currency : CurrencyCode} (h : currency.minorDigits = 2)
    (minor : Int) : Decimal.ofNumber (fromMinor minor currency) = ⟨minor⟩ := by
  rw [← moneyToNumber_eq_fromMinor h ⟨minor⟩, Decimal.ofNumber_moneyToNumber]

theorem moneyToNumber_injective : Function.Injective moneyToNumber :=
  Function.LeftInverse.injective Decimal.ofNumber_moneyToNumber

example : toMinor (1999 / 100) .SAR = 1999 := by decide +kernel

end Qift
