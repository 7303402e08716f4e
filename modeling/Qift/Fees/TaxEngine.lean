import Qift.Fees.Money
import Qift.Settlement.States

/-!
# What an invoice charges

`fees/tax-engine.ts` with the amounts of `corporate/invoice-amounts.ts`.

* `computeInvoiceAmounts` decomposes a campaign into the goods of the merchant and the fee of the platform.
* `computeTax` and `computeMerchantGoodsTax` are the two halves of the tax rule.  Both split a charge into
  net and VAT in whole minor units, `taxSplit`; **`taxSplit_ok`** is all a reader needs of it.
-/

namespace Qift

open Settlement

/-! ### The two legs of a campaign -/

def QIFT_SERVICE_FEE_RATE : Number := 3 / 100

def QIFT_MIN_SERVICE_FEE : Number := 5

/-- `serviceFeeFor`: whole riyals, halves up, above a floor. -/
def serviceFeeFor (itemSubtotal : Number) : Number :=
  max QIFT_MIN_SERVICE_FEE ⌊itemSubtotal * QIFT_SERVICE_FEE_RATE + 1 / 2⌋

/-- `mulMoney` in the default currency. -/
def mulMoney (unitAmount : Number) (count : Nat) : Number :=
  fromMinor (toMinor unitAmount .SAR * count) .SAR

structure InvoiceAmounts where
  subtotalAmount : Number
  platformFeeAmount : Number

def computeInvoiceAmounts (unitAmount : Number) (recipientCount : Nat) : InvoiceAmounts where
  subtotalAmount := mulMoney unitAmount recipientCount
  platformFeeAmount := mulMoney (serviceFeeFor unitAmount) recipientCount

/-! ### The tax rule -/

def SAUDI_VAT_RATE : Number := 15 / 100

def TAX_RULE_VERSION : String := "sa-vat-agent-v3"

/-- `RATE_SCALE`: rates are counted in basis points. -/
def RATE_SCALE : Int := 10000

def rateBasisPoints (rate : Number) : Int := ⌊rate * RATE_SCALE + 1 / 2⌋

def assertNonNegativeMinor (minor : Int) : Except Err Unit :=
  if minor < 0 then .error (.error "tax_engine_negative_base_unsupported") else .ok ()

/-- VAT on an exclusive base, half up. -/
def vatOnMinor (baseMinor rateBp : Int) : Except Err Int := do
  assertNonNegativeMinor baseMinor
  let scaled := baseMinor * rateBp
  pure (scaled / RATE_SCALE + if RATE_SCALE ≤ 2 * (scaled % RATE_SCALE) then 1 else 0)

/-- The net of a VAT-inclusive gross, half up. -/
def extractNetMinor (grossMinor rateBp : Int) : Except Err Int := do
  assertNonNegativeMinor grossMinor
  let den := RATE_SCALE + rateBp
  let num := grossMinor * RATE_SCALE
  pure (num / den + if den ≤ 2 * (num % den) then 1 else 0)

/-- A charge in its parts. -/
structure TaxSplit where
  netMinor : Int
  vatMinor : Int
  totalMinor : Int

/-- The split both tax computations make: VAT extracted from the charge or added on top of it. -/
def taxSplit (pricesIncludeVat : Bool) (chargeMinor rateBp : Int) : Except Err TaxSplit :=
  if pricesIncludeVat then do
    let netMinor ← extractNetMinor chargeMinor rateBp
    pure { netMinor := netMinor, vatMinor := chargeMinor - netMinor, totalMinor := chargeMinor }
  else do
    let vatMinor ← vatOnMinor chargeMinor rateBp
    pure { netMinor := chargeMinor, vatMinor := vatMinor, totalMinor := chargeMinor + vatMinor }

inductive TaxTreatment
  | full_value_standard | agent_fee_only
  deriving DecidableEq

structure TaxInput where
  subtotalAmount : Number
  platformFeeAmount : Number
  treatment : TaxTreatment := .agent_fee_only
  pricesIncludeVat : Bool := false
  vatRate : Number := SAUDI_VAT_RATE

structure TaxBreakdown where
  taxTreatment : TaxTreatment
  pricesIncludeVat : Bool
  taxableAmount : Number
  vatRate : Number
  vatAmount : Number
  totalBeforeVat : Number
  totalAmount : Number
  facilitatedValue : Number

def computeTax (input : TaxInput) : Except Err TaxBreakdown := do
  let qiftChargeBase :=
    if input.treatment = .agent_fee_only then input.platformFeeAmount
    else input.subtotalAmount + input.platformFeeAmount
  let split ← taxSplit input.pricesIncludeVat (toMinor qiftChargeBase .SAR)
    (rateBasisPoints input.vatRate)
  pure
    { taxTreatment := input.treatment
      pricesIncludeVat := input.pricesIncludeVat
      taxableAmount := fromMinor split.netMinor .SAR
      vatRate := input.vatRate
      vatAmount := fromMinor split.vatMinor .SAR
      totalBeforeVat := fromMinor split.netMinor .SAR
      totalAmount := fromMinor split.totalMinor .SAR
      facilitatedValue :=
        if input.treatment = .agent_fee_only then
          fromMinor (toMinor input.subtotalAmount .SAR) .SAR
        else 0 }

structure MerchantGoodsTaxInput where
  goodsSubtotalAmount : Number
  vatRegistered : Bool
  pricesIncludeVat : Bool := false
  vatRate : Number := SAUDI_VAT_RATE

structure MerchantGoodsTaxBreakdown where
  taxTreatment : String
  pricesIncludeVat : Bool
  taxableAmount : Number
  vatRate : Number
  vatAmount : Number
  totalAmount : Number

/-- A merchant that is not registered charges no VAT, whatever its prices include. -/
def computeMerchantGoodsTax (input : MerchantGoodsTaxInput) :
    Except Err MerchantGoodsTaxBreakdown :=
  if input.vatRegistered = false then
    let totalAmount := fromMinor (toMinor input.goodsSubtotalAmount .SAR) .SAR
    .ok
      { taxTreatment := "merchant_not_vat_registered"
        pricesIncludeVat := input.pricesIncludeVat
        taxableAmount := totalAmount
        vatRate := 0
        vatAmount := 0
        totalAmount := totalAmount }
  else do
    let split ← taxSplit input.pricesIncludeVat (toMinor input.goodsSubtotalAmount .SAR)
      (rateBasisPoints input.vatRate)
    pure
      { taxTreatment := "merchant_goods_standard"
        pricesIncludeVat := input.pricesIncludeVat
        taxableAmount := fromMinor split.netMinor .SAR
        vatRate := input.vatRate
        vatAmount := fromMinor split.vatMinor .SAR
        totalAmount := fromMinor split.totalMinor .SAR }

/-! ### Net and VAT make up the total -/

theorem roundHalfUp_le {num den bound : Int} (hden : 0 < den) (h : num ≤ bound * den) :
    num / den + (if den ≤ 2 * (num % den) then 1 else 0) ≤ bound := by
  have hdecomp : den * (num / den) + num % den = num := Int.mul_ediv_add_emod num den
  have hpos : 0 ≤ num % den := Int.emod_nonneg _ hden.ne'
  have hlt : num % den < den := Int.emod_lt_of_pos _ hden
  split
  · -- the remainder is positive, so the quotient is below the bound
    have hquot : num / den < bound := by
      by_contra hge
      have : bound * den ≤ num / den * den := Int.mul_le_mul_of_nonneg_right (not_lt.mp hge) hden.le
      nlinarith
    omega
  · have hquot : num / den ≤ bound := Int.ediv_le_of_le_mul hden h
    omega

theorem assertNonNegativeMinor_ok {minor : Int} {u : Unit}
    (h : assertNonNegativeMinor minor = .ok u) : 0 ≤ minor := by
  unfold assertNonNegativeMinor at h
  split at h
  · cases h
  · omega

theorem vatOnMinor_nonneg {baseMinor rateBp vatMinor : Int} (hrate : 0 ≤ rateBp)
    (h : vatOnMinor baseMinor rateBp = .ok vatMinor) : 0 ≤ baseMinor ∧ 0 ≤ vatMinor := by
  unfold vatOnMinor at h
  cases hassert : assertNonNegativeMinor baseMinor with
  | error e => simp [hassert, bind, Except.bind] at h
  | ok u =>
      have hbase := assertNonNegativeMinor_ok hassert
      simp only [hassert, bind, Except.bind, pure, Except.pure, Except.ok.injEq] at h
      have hquot : 0 ≤ baseMinor * rateBp / RATE_SCALE :=
        Int.ediv_nonneg (mul_nonneg hbase hrate) (by decide)
      refine ⟨hbase, ?_⟩
      rw [← h]
      split <;> omega

theorem extractNetMinor_bounds {grossMinor rateBp netMinor : Int} (hrate : 0 ≤ rateBp)
    (h : extractNetMinor grossMinor rateBp = .ok netMinor) :
    0 ≤ netMinor ∧ netMinor ≤ grossMinor := by
  unfold extractNetMinor at h
  cases hassert : assertNonNegativeMinor grossMinor with
  | error e => simp [hassert, bind, Except.bind] at h
  | ok u =>
      have hgross := assertNonNegativeMinor_ok hassert
      have hden : 0 < RATE_SCALE + rateBp := by simp only [RATE_SCALE]; omega
      have hscale : grossMinor * RATE_SCALE ≤ grossMinor * (RATE_SCALE + rateBp) :=
        mul_le_mul_of_nonneg_left (by omega) hgross
      have hle := roundHalfUp_le hden hscale
      simp only [hassert, bind, Except.bind, pure, Except.pure, Except.ok.injEq] at h
      have hquot : 0 ≤ grossMinor * RATE_SCALE / (RATE_SCALE + rateBp) :=
        Int.ediv_nonneg (mul_nonneg hgross (by decide)) hden.le
      rw [← h]
      refine ⟨?_, hle⟩
      split <;> omega

/-- **Net and VAT are not negative and make up the total.** -/
theorem taxSplit_ok {pricesIncludeVat : Bool} {chargeMinor rateBp : Int} {split : TaxSplit}
    (hrate : 0 ≤ rateBp) (h : taxSplit pricesIncludeVat chargeMinor rateBp = .ok split) :
    0 ≤ split.netMinor ∧ 0 ≤ split.vatMinor ∧
      split.totalMinor = split.netMinor + split.vatMinor := by
  unfold taxSplit at h
  split at h
  · cases hnet : extractNetMinor chargeMinor rateBp with
    | error e => simp [hnet, bind, Except.bind] at h
    | ok netMinor =>
        obtain ⟨hnonneg, hle⟩ := extractNetMinor_bounds hrate hnet
        simp only [hnet, bind, Except.bind, pure, Except.pure, Except.ok.injEq] at h
        subst h
        exact ⟨hnonneg, by simpa using hle, by simp⟩
  · cases hvat : vatOnMinor chargeMinor rateBp with
    | error e => simp [hvat, bind, Except.bind] at h
    | ok vatMinor =>
        obtain ⟨hbase, hnonneg⟩ := vatOnMinor_nonneg hrate hvat
        simp only [hvat, bind, Except.bind, pure, Except.pure, Except.ok.injEq] at h
        subst h
        exact ⟨hbase, hnonneg, rfl⟩

theorem taxSplit_exclusive {chargeMinor rateBp : Int} {split : TaxSplit}
    (h : taxSplit false chargeMinor rateBp = .ok split) : split.netMinor = chargeMinor := by
  cases hvat : vatOnMinor chargeMinor rateBp with
  | error e => simp [taxSplit, hvat, bind, Except.bind] at h
  | ok vatMinor =>
      simp only [taxSplit, hvat, bind, Except.bind, pure, Except.pure, Bool.false_eq_true, if_false,
        Except.ok.injEq] at h
      subst h
      rfl

theorem computeMerchantGoodsTax_ok {input : MerchantGoodsTaxInput} {tax : MerchantGoodsTaxBreakdown}
    (hrate : 0 ≤ rateBasisPoints input.vatRate) (hgoods : 0 ≤ toMinor input.goodsSubtotalAmount .SAR)
    (h : computeMerchantGoodsTax input = .ok tax) :
    ∃ vatMinor totalMinor, tax.vatAmount = fromMinor vatMinor .SAR ∧
      tax.totalAmount = fromMinor totalMinor .SAR ∧ 0 ≤ vatMinor ∧ vatMinor ≤ totalMinor := by
  unfold computeMerchantGoodsTax at h
  split at h
  · cases h
    exact ⟨0, _, (fromMinor_zero _).symm, rfl, le_refl _, hgoods⟩
  · cases hsplit : taxSplit input.pricesIncludeVat (toMinor input.goodsSubtotalAmount .SAR)
      (rateBasisPoints input.vatRate) with
    | error e => simp [hsplit, bind, Except.bind] at h
    | ok split =>
        obtain ⟨hnet, hvat, htotal⟩ := taxSplit_ok hrate hsplit
        simp only [hsplit, bind, Except.bind, pure, Except.pure, Except.ok.injEq] at h
        subst h
        exact ⟨split.vatMinor, split.totalMinor, rfl, rfl, hvat, by omega⟩

theorem computeTax_ok {subtotalAmount platformFeeAmount : Number} {tax : TaxBreakdown}
    (h : computeTax { subtotalAmount := subtotalAmount, platformFeeAmount := platformFeeAmount } =
      .ok tax) :
    ∃ vatMinor, tax.vatAmount = fromMinor vatMinor .SAR ∧
      tax.totalAmount = fromMinor (toMinor platformFeeAmount .SAR + vatMinor) .SAR ∧
      0 ≤ toMinor platformFeeAmount .SAR ∧ 0 ≤ vatMinor := by
  simp only [computeTax, if_true] at h
  cases hsplit : taxSplit false (toMinor platformFeeAmount .SAR) (rateBasisPoints SAUDI_VAT_RATE) with
  | error e => simp [hsplit, bind, Except.bind] at h
  | ok split =>
      obtain ⟨hnet, hvat, htotal⟩ := taxSplit_ok (by decide +kernel) hsplit
      have hcharge := taxSplit_exclusive hsplit
      simp only [hsplit, bind, Except.bind, pure, Except.pure, Except.ok.injEq] at h
      subst h
      exact ⟨split.vatMinor, rfl, by rw [htotal, hcharge], hcharge ▸ hnet, hvat⟩

theorem toMinor_nonneg {amount : Number} (h : 0 ≤ amount) (currency : CurrencyCode) :
    0 ≤ toMinor amount currency := by
  unfold toMinor
  have hscale : (0 : ℚ) ≤ scaleFor currency := Nat.cast_nonneg _
  exact Int.floor_nonneg.mpr (by positivity)

theorem toMinor_mulMoney (unitAmount : Number) (count : Nat) :
    toMinor (mulMoney unitAmount count) .SAR = toMinor unitAmount .SAR * count :=
  toMinor_fromMinor _ _

example : (vatOnMinor 4130 1500).toOption = some 620 := by decide +kernel

end Qift
