import Qift.Fees.TaxEngine

/-!
# Prices with and without VAT

A charge is taxed in two ways: VAT is added on top of it, or taken out of it.

* `vatOnMinor_eq` and `extractNetMinor_eq` say what either formula rounds.
* `extractNetMinor_vatOnMinor` — taking VAT out undoes adding it, whatever was rounded.
* **`vat_exact`** — so both computations split a charge exactly, and a price that is quoted without VAT reads the
  same with it.
-/

namespace Qift

/-! ### Rounding -/

theorem roundHalfUp_eq_floor (num : Int) {den : Int} (hden : 0 < den) :
    num / den + (if den ≤ 2 * (num % den) then 1 else 0) = ⌊(num : ℚ) / den + 1 / 2⌋ := by
  have hdecomp : den * (num / den) + num % den = num := Int.mul_ediv_add_emod num den
  have hpos : 0 ≤ num % den := Int.emod_nonneg _ hden.ne'
  have hlt : num % den < den := Int.emod_lt_of_pos _ hden
  have hden' : (0 : ℚ) < den := by exact_mod_cast hden
  -- over the rationals the quotient is whole up to the remainder
  have hquot : (num : ℚ) / den = (num / den : Int) + (num % den : Int) / (den : ℚ) := by
    rw [eq_comm, ← sub_eq_zero]
    field_simp
    have hcast : (den : ℚ) * (num / den : Int) + (num % den : Int) = num := by exact_mod_cast hdecomp
    linarith
  symm
  rw [Int.floor_eq_iff, hquot]
  split
  · rename_i hhalf
    have hhalf' : (den : ℚ) ≤ 2 * (num % den : Int) := by exact_mod_cast hhalf
    have hupper : ((num % den : Int) : ℚ) < den := by exact_mod_cast hlt
    have hge : (1 / 2 : ℚ) ≤ (num % den : Int) / den := by
      rw [le_div_iff₀ hden']
      linarith
    have hle : ((num % den : Int) : ℚ) / den < 1 := (div_lt_one hden').mpr hupper
    push_cast
    constructor <;> linarith
  · rename_i hhalf
    have hhalf' : (2 : ℚ) * (num % den : Int) < den := by exact_mod_cast not_le.mp hhalf
    have hlower : (0 : ℚ) ≤ (num % den : Int) := by exact_mod_cast hpos
    have hge : (0 : ℚ) ≤ (num % den : Int) / den := div_nonneg hlower hden'.le
    have hle : ((num % den : Int) : ℚ) / den < 1 / 2 := by
      rw [div_lt_iff₀ hden']
      linarith
    push_cast
    constructor <;> linarith

variable {baseMinor grossMinor rateBp : Int}

theorem assertNonNegativeMinor_eq {minor : Int} (h : 0 ≤ minor) : assertNonNegativeMinor minor = .ok () := by
  unfold assertNonNegativeMinor
  rw [if_neg (not_lt.mpr h)]

theorem vatOnMinor_eq (rateBp : Int) (hbase : 0 ≤ baseMinor) :
    vatOnMinor baseMinor rateBp = .ok ⌊(baseMinor : ℚ) * (rateBp / RATE_SCALE) + 1 / 2⌋ := by
  have hround := roundHalfUp_eq_floor (baseMinor * rateBp) (show 0 < RATE_SCALE by decide)
  have hproduct : ((baseMinor * rateBp : Int) : ℚ) / RATE_SCALE = baseMinor * (rateBp / RATE_SCALE) := by
    push_cast
    ring
  rw [hproduct] at hround
  simp only [vatOnMinor, assertNonNegativeMinor_eq hbase, bind, Except.bind, pure, Except.pure, hround]

theorem extractNetMinor_eq (hgross : 0 ≤ grossMinor) (hrate : 0 ≤ rateBp) :
    extractNetMinor grossMinor rateBp = .ok ⌊(grossMinor : ℚ) / (1 + rateBp / RATE_SCALE) + 1 / 2⌋ := by
  have hden : 0 < RATE_SCALE + rateBp := by
    unfold RATE_SCALE
    omega
  have hround := roundHalfUp_eq_floor (grossMinor * RATE_SCALE) hden
  have hden' : ((RATE_SCALE + rateBp : Int) : ℚ) ≠ 0 := by exact_mod_cast hden.ne'
  have hquot : ((grossMinor * RATE_SCALE : Int) : ℚ) / (RATE_SCALE + rateBp : Int) =
      grossMinor / (1 + rateBp / RATE_SCALE) := by
    have hscale : (RATE_SCALE : ℚ) ≠ 0 := by norm_num [RATE_SCALE]
    push_cast at hden' ⊢
    have hsum : (1 : ℚ) + rateBp / RATE_SCALE = (RATE_SCALE + rateBp) / RATE_SCALE := by
      rw [add_div, div_self hscale]
    rw [hsum, div_div_eq_mul_div]
  rw [hquot] at hround
  simp only [extractNetMinor, assertNonNegativeMinor_eq hgross, bind, Except.bind, pure, Except.pure, hround]

/-- **Taking VAT out undoes adding it.**  What was rounded is at most a half, and dividing makes it less, unless
there was nothing to round. -/
theorem extractNetMinor_vatOnMinor (hbase : 0 ≤ baseMinor) (hrate : 0 ≤ rateBp) {vatMinor : Int}
    (hvat : vatOnMinor baseMinor rateBp = .ok vatMinor) :
    extractNetMinor (baseMinor + vatMinor) rateBp = .ok baseMinor := by
  have hvat' := hvat
  rw [vatOnMinor_eq rateBp hbase, Except.ok.injEq] at hvat'
  have hnonneg := (vatOnMinor_nonneg hrate hvat).2
  rw [extractNetMinor_eq (by omega) hrate, Except.ok.injEq, Int.floor_eq_iff]
  obtain ⟨hlower, hupper⟩ := Int.floor_eq_iff.mp hvat'
  have hr : (0 : ℚ) ≤ rateBp / RATE_SCALE := by
    have hcast : (0 : ℚ) ≤ rateBp := by exact_mod_cast hrate
    exact div_nonneg hcast (by norm_num [RATE_SCALE])
  push_cast
  generalize (rateBp : ℚ) / RATE_SCALE = r at hlower hupper hr ⊢
  have hden : (0 : ℚ) < 1 + r := by linarith
  constructor
  · have hge : (baseMinor : ℚ) - 1 / 2 ≤ (baseMinor + vatMinor) / (1 + r) := by
      rw [le_div_iff₀ hden]
      nlinarith
    linarith
  · have hlt : ((baseMinor : ℚ) + vatMinor) / (1 + r) < baseMinor + 1 / 2 := by
      rw [div_lt_iff₀ hden]
      rcases hr.eq_or_lt with hzero | hpos
      · -- without VAT nothing is rounded
        subst hzero
        have hle : (vatMinor : ℚ) < 1 := by linarith
        have hvat0 : vatMinor = 0 := by
          have hlt : vatMinor < 1 := by exact_mod_cast hle
          omega
        rw [hvat0]
        push_cast
        linarith
      · nlinarith
    linarith

/-! ### Both computations -/

section Split

variable {split : TaxSplit}

/-- A charge that is not negative is split. -/
theorem exists_taxSplit (pricesIncludeVat : Bool) (hbase : 0 ≤ baseMinor) (hrate : 0 ≤ rateBp) :
    ∃ split, taxSplit pricesIncludeVat baseMinor rateBp = .ok split := by
  cases pricesIncludeVat with
  | true =>
      simp only [taxSplit, if_true, extractNetMinor_eq hbase hrate]
      exact ⟨_, rfl⟩
  | false =>
      simp only [taxSplit, Bool.false_eq_true, if_false, vatOnMinor_eq rateBp hbase]
      exact ⟨_, rfl⟩

/-- The total of a charge without VAT, read as a charge with it, is split the same way. -/
theorem taxSplit_inclusive_of_exclusive (hbase : 0 ≤ baseMinor) (hrate : 0 ≤ rateBp)
    (h : taxSplit false baseMinor rateBp = .ok split) : taxSplit true split.totalMinor rateBp = .ok split := by
  have hvat := vatOnMinor_eq rateBp hbase
  simp only [taxSplit, Bool.false_eq_true, if_false, hvat, bind, Except.bind, pure, Except.pure, Except.ok.injEq] at h
  subst h
  simp only [taxSplit, if_true, extractNetMinor_vatOnMinor hbase hrate hvat, bind, Except.bind, pure, Except.pure]
  simp

/-- What either computation says of a charge that was split. -/
def TaxSplit.Says (split : TaxSplit) (taxableAmount vatAmount totalAmount : Number) : Prop :=
  taxableAmount = fromMinor split.netMinor .SAR ∧ vatAmount = fromMinor split.vatMinor .SAR ∧
    totalAmount = fromMinor split.totalMinor .SAR

/-- Amounts in the currency that make up a total, and do so in minor units. -/
def SumsUp (taxableAmount vatAmount totalAmount : Number) : Prop :=
  taxableAmount + vatAmount = totalAmount ∧ toMinor taxableAmount .SAR + toMinor vatAmount .SAR = toMinor totalAmount .SAR

theorem TaxSplit.Says.sumsUp {taxableAmount vatAmount totalAmount : Number} {pricesIncludeVat : Bool}
    (h : split.Says taxableAmount vatAmount totalAmount) (hrate : 0 ≤ rateBp)
    (hsplit : taxSplit pricesIncludeVat baseMinor rateBp = .ok split) : SumsUp taxableAmount vatAmount totalAmount := by
  obtain ⟨rfl, rfl, rfl⟩ := h
  have htotal := (taxSplit_ok hrate hsplit).2.2
  constructor
  · rw [htotal, fromMinor_add]
  · simp only [toMinor_fromMinor]
    omega

end Split

/-- What is charged for, in either treatment. -/
def TaxInput.qiftChargeBase (input : TaxInput) : Number :=
  if input.treatment = .agent_fee_only then input.platformFeeAmount
  else input.subtotalAmount + input.platformFeeAmount

theorem computeTax_eq {input : TaxInput} {split : TaxSplit} (h : taxSplit input.pricesIncludeVat
    (toMinor input.qiftChargeBase .SAR) (rateBasisPoints input.vatRate) = .ok split) :
    ∃ tax, computeTax input = .ok tax ∧ split.Says tax.taxableAmount tax.vatAmount tax.totalAmount := by
  unfold TaxInput.qiftChargeBase at h
  simp only [computeTax, h, bind, Except.bind, pure, Except.pure]
  exact ⟨_, rfl, rfl, rfl, rfl⟩

theorem computeMerchantGoodsTax_eq {input : MerchantGoodsTaxInput} {split : TaxSplit}
    (hregistered : input.vatRegistered = true) (h : taxSplit input.pricesIncludeVat
      (toMinor input.goodsSubtotalAmount .SAR) (rateBasisPoints input.vatRate) = .ok split) :
    ∃ tax, computeMerchantGoodsTax input = .ok tax ∧ split.Says tax.taxableAmount tax.vatAmount tax.totalAmount := by
  simp only [computeMerchantGoodsTax, hregistered, h, bind, Except.bind, pure, Except.pure, Bool.true_eq_false, if_false]
  exact ⟨_, rfl, rfl, rfl, rfl⟩

theorem computeMerchantGoodsTax_unregistered {input : MerchantGoodsTaxInput} (h : input.vatRegistered = false) :
    ∃ tax, computeMerchantGoodsTax input = .ok tax ∧
      (⟨toMinor input.goodsSubtotalAmount .SAR, 0, toMinor input.goodsSubtotalAmount .SAR⟩ : TaxSplit).Says
        tax.taxableAmount tax.vatAmount tax.totalAmount := by
  simp only [computeMerchantGoodsTax, h, if_true]
  exact ⟨_, rfl, rfl, (fromMinor_zero _).symm, rfl⟩

/-- Two taxations with the same net, VAT and total. -/
def TaxBreakdown.Agrees (tax tax' : TaxBreakdown) : Prop :=
  tax'.taxableAmount = tax.taxableAmount ∧ tax'.vatAmount = tax.vatAmount ∧ tax'.totalAmount = tax.totalAmount

def MerchantGoodsTaxBreakdown.Agrees (tax tax' : MerchantGoodsTaxBreakdown) : Prop :=
  tax'.taxableAmount = tax.taxableAmount ∧ tax'.vatAmount = tax.vatAmount ∧ tax'.totalAmount = tax.totalAmount

theorem TaxSplit.Says.agrees {split : TaxSplit} {taxableAmount vatAmount totalAmount taxableAmount' vatAmount'
    totalAmount' : Number} (h : split.Says taxableAmount vatAmount totalAmount)
    (h' : split.Says taxableAmount' vatAmount' totalAmount') :
    taxableAmount' = taxableAmount ∧ vatAmount' = vatAmount ∧ totalAmount' = totalAmount := by
  obtain ⟨rfl, rfl, rfl⟩ := h
  exact h'

theorem TaxSplit.Says.toMinor_total {split : TaxSplit} {taxableAmount vatAmount totalAmount : Number}
    (h : split.Says taxableAmount vatAmount totalAmount) : toMinor totalAmount .SAR = split.totalMinor := by
  rw [h.2.2, toMinor_fromMinor]

theorem computeTax_exact (hrate : 0 ≤ rateBp) (hbase : 0 ≤ baseMinor) {input : TaxInput}
    (hrateBp : rateBasisPoints input.vatRate = rateBp) (hcharge : toMinor input.qiftChargeBase .SAR = baseMinor) :
    ∃ tax, computeTax input = .ok tax ∧ SumsUp tax.taxableAmount tax.vatAmount tax.totalAmount ∧
      (input.pricesIncludeVat = false → ∀ quoted : TaxInput, quoted.pricesIncludeVat = true →
        rateBasisPoints quoted.vatRate = rateBp → quoted.qiftChargeBase = tax.totalAmount →
        ∃ tax', computeTax quoted = .ok tax' ∧ tax.Agrees tax') := by
  obtain ⟨split, hsplit⟩ := exists_taxSplit input.pricesIncludeVat hbase hrate
  obtain ⟨tax, htax, hsays⟩ := computeTax_eq (by rw [hcharge, hrateBp]; exact hsplit)
  refine ⟨tax, htax, hsays.sumsUp hrate hsplit, fun hexclusive quoted hinclusive hsame hquoted => ?_⟩
  rw [hexclusive] at hsplit
  have hback := taxSplit_inclusive_of_exclusive hbase hrate hsplit
  rw [← hsays.toMinor_total, ← hquoted, ← hsame, ← hinclusive] at hback
  obtain ⟨tax', htax', hsays'⟩ := computeTax_eq hback
  exact ⟨tax', htax', hsays.agrees hsays'⟩

theorem computeMerchantGoodsTax_exact (hrate : 0 ≤ rateBp) (hbase : 0 ≤ baseMinor) {input : MerchantGoodsTaxInput}
    (hrateBp : rateBasisPoints input.vatRate = rateBp) (hgoods : toMinor input.goodsSubtotalAmount .SAR = baseMinor) :
    ∃ tax, computeMerchantGoodsTax input = .ok tax ∧ SumsUp tax.taxableAmount tax.vatAmount tax.totalAmount ∧
      (input.pricesIncludeVat = false → ∀ quoted : MerchantGoodsTaxInput, quoted.pricesIncludeVat = true →
        quoted.vatRegistered = input.vatRegistered → rateBasisPoints quoted.vatRate = rateBp →
        quoted.goodsSubtotalAmount = tax.totalAmount →
        ∃ tax', computeMerchantGoodsTax quoted = .ok tax' ∧ tax.Agrees tax') := by
  cases hregistered : input.vatRegistered with
  | false =>
      obtain ⟨tax, htax, hsays⟩ := computeMerchantGoodsTax_unregistered hregistered
      refine ⟨tax, htax, ?_, fun _ quoted _ hsame _ hquoted => ?_⟩
      · obtain ⟨htaxable, hvat, htotal⟩ := hsays
        rw [htaxable, hvat, htotal]
        constructor <;> simp
      · obtain ⟨tax', htax', hsays'⟩ := computeMerchantGoodsTax_unregistered hsame
        rw [hquoted, hsays.toMinor_total] at hsays'
        exact ⟨tax', htax', hsays.agrees hsays'⟩
  | true =>
      obtain ⟨split, hsplit⟩ := exists_taxSplit input.pricesIncludeVat hbase hrate
      obtain ⟨tax, htax, hsays⟩ := computeMerchantGoodsTax_eq hregistered (by rw [hgoods, hrateBp]; exact hsplit)
      refine ⟨tax, htax, hsays.sumsUp hrate hsplit, fun hexclusive quoted hinclusive hsame hrateBp' hquoted => ?_⟩
      rw [hexclusive] at hsplit
      have hback := taxSplit_inclusive_of_exclusive hbase hrate hsplit
      rw [← hsays.toMinor_total, ← hquoted, ← hrateBp', ← hinclusive] at hback
      obtain ⟨tax', htax', hsays'⟩ := computeMerchantGoodsTax_eq hsame hback
      exact ⟨tax', htax', hsays.agrees hsays'⟩

/-- **VAT is exact.**  It is the base times the rate, half up; net and VAT make up the total in both computations, with
and without VAT in the price; and a total that is quoted as a price with VAT gives back the base, net and VAT. -/
theorem vat_exact (hrate : 0 ≤ rateBp) (hbase : 0 ≤ baseMinor) :
    (∃ vatMinor, vatOnMinor baseMinor rateBp = .ok vatMinor ∧
      vatMinor = ⌊(baseMinor : ℚ) * (rateBp / RATE_SCALE) + 1 / 2⌋ ∧
      extractNetMinor (baseMinor + vatMinor) rateBp = .ok baseMinor) ∧
    (∀ input : TaxInput, rateBasisPoints input.vatRate = rateBp → toMinor input.qiftChargeBase .SAR = baseMinor →
      ∃ tax, computeTax input = .ok tax ∧ SumsUp tax.taxableAmount tax.vatAmount tax.totalAmount ∧
        (input.pricesIncludeVat = false → ∀ quoted : TaxInput, quoted.pricesIncludeVat = true →
          rateBasisPoints quoted.vatRate = rateBp → quoted.qiftChargeBase = tax.totalAmount →
          ∃ tax', computeTax quoted = .ok tax' ∧ tax.Agrees tax')) ∧
    ∀ input : MerchantGoodsTaxInput, rateBasisPoints input.vatRate = rateBp →
      toMinor input.goodsSubtotalAmount .SAR = baseMinor →
      ∃ tax, computeMerchantGoodsTax input = .ok tax ∧ SumsUp tax.taxableAmount tax.vatAmount tax.totalAmount ∧
        (input.pricesIncludeVat = false → ∀ quoted : MerchantGoodsTaxInput, quoted.pricesIncludeVat = true →
          quoted.vatRegistered = input.vatRegistered → rateBasisPoints quoted.vatRate = rateBp →
          quoted.goodsSubtotalAmount = tax.totalAmount →
          ∃ tax', computeMerchantGoodsTax quoted = .ok tax' ∧ tax.Agrees tax') := by
  refine ⟨?_, fun input hrateBp hcharge => ?_, fun input hrateBp hgoods => ?_⟩
  · have hvat := vatOnMinor_eq rateBp hbase
    exact ⟨_, hvat, rfl, extractNetMinor_vatOnMinor hbase hrate hvat⟩
  · exact computeTax_exact hrate hbase hrateBp hcharge
  · exact computeMerchantGoodsTax_exact hrate hbase hrateBp hgoods

/-- 41.30 riyals at fifteen percent: 619.5 halalas are 620, and 47.50 with VAT is 41.30 without. -/
theorem vat_exact_halfway : vatOnMinor 4130 1500 = .ok 620 ∧ extractNetMinor 4750 1500 = .ok 4130 ∧
    ∃ tax, computeTax { subtotalAmount := 0, platformFeeAmount := 413 / 10 } = .ok tax ∧
      SumsUp tax.taxableAmount tax.vatAmount tax.totalAmount := by
  obtain ⟨⟨vatMinor, hvat, hrounded, hback⟩, hfee, -⟩ :=
    vat_exact (show (0 : Int) ≤ 1500 by decide) (show (0 : Int) ≤ 4130 by decide)
  obtain rfl : vatMinor = 620 := by
    rw [hrounded]
    norm_num [RATE_SCALE]
  obtain ⟨tax, htax, hsum, -⟩ := hfee { subtotalAmount := 0, platformFeeAmount := 413 / 10 } (by decide +kernel)
    (by decide +kernel)
  exact ⟨hvat, hback, tax, htax, hsum⟩

end Qift
