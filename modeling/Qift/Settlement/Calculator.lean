import Qift.Runtime
import Qift.Fees.Money
import Qift.Settlement.States

/-!
# The settlement calculator

The one calculator of `settlement-calculator.ts`: the signed sum of a batch in whole minor units.

* `calculateSettlement` is the function of the source, with its refusals: an empty composition, a currency
  the storage cannot hold, two currencies in one batch.
* **`calculateSettlement_spec`** gives its result on items of one registered currency, in minor units.
-/

namespace Qift.Settlement

/-- Two-decimal currencies only: the settlement columns hold two decimals. -/
def KNOWN_CURRENCIES : List CurrencyCode := [.SAR, .AED, .QAR]

/-- The text without its case, as currency codes are compared. -/
def toUpperCase (raw : String) : String := raw.toUpper

def asCurrencyCode (raw : String) : Except Err CurrencyCode :=
  let c := toUpperCase raw
  if c ∈ ["KWD", "BHD", "OMR"] then
    .error (.error ("settlement_currency_scale_unsupported:" ++ c ++
      " — 3-decimal currencies require widened settlement storage (never silently rounded)"))
  else
    match KNOWN_CURRENCIES.find? fun code => code.name = c with
    | some code => .ok code
    | none => .error (.error ("settlement_unknown_currency:" ++ raw))

/-- What an accepted currency text stands for. -/
theorem asCurrencyCode_eq_ok {raw : String} {code : CurrencyCode}
    (h : asCurrencyCode raw = .ok code) :
    code ∈ KNOWN_CURRENCIES ∧ code.name = toUpperCase raw := by
  unfold asCurrencyCode at h
  dsimp only at h
  split at h
  · cases h
  · cases hfind : KNOWN_CURRENCIES.find? fun code => code.name = toUpperCase raw with
    | none => simp [hfind] at h
    | some c =>
        simp only [hfind, Except.ok.injEq] at h
        subst h
        exact ⟨List.mem_of_find?_eq_some hfind, by simpa using List.find?_some hfind⟩

theorem toUpperCase_name (c : CurrencyCode) : toUpperCase c.name = c.name := by
  cases c <;> decide +kernel

/-- A stored currency code is read back as itself or refused. -/
theorem asCurrencyCode_name {c code : CurrencyCode} (h : asCurrencyCode c.name = .ok code) :
    code = c := by
  have hname := (asCurrencyCode_eq_ok h).2
  rw [toUpperCase_name] at hname
  exact CurrencyCode.name_injective hname

/-- A registered settlement currency has two decimals. -/
theorem minorDigits_of_asCurrencyCode {raw : String} {code : CurrencyCode}
    (h : asCurrencyCode raw = .ok code) : code.minorDigits = 2 := by
  have hmem := (asCurrencyCode_eq_ok h).1
  simp only [KNOWN_CURRENCIES, List.mem_cons, List.not_mem_nil, or_false] at hmem
  rcases hmem with rfl | rfl | rfl <;> rfl

/-- References frozen with an occurrence. -/
abbrev References := List (String × Option String)

structure SettlementItemInput where
  itemId : Nat
  occurrenceType : String
  occurrenceId : Nat
  amount : Number
  currency : CurrencyCode

structure SettlementAdjustments where
  marketplaceAdjustments : Option Number := none
  refunds : Option Number := none
  chargebacks : Option Number := none
  reserveHeld : Option Number := none
  reserveReleased : Option Number := none
  manualAdjustments : Option Number := none
  receivableRecovery : Option Number := none

structure SettlementLines where
  merchantGross : Number
  marketplaceAdjustments : Number
  qiftFees : Number
  taxes : Number
  refunds : Number
  chargebacks : Number
  reserveHeld : Number
  reserveReleased : Number
  manualAdjustments : Number
  receivableRecovery : Number

structure SettlementCalculation where
  currency : CurrencyCode
  lines : SettlementLines
  netAmount : Number
  itemCount : Nat

/-- The gross of a list of items, in minor units; every item must carry the given currency. -/
def grossMinorOf (currency : CurrencyCode) : List SettlementItemInput → Except Err Int
  | [] => .ok 0
  | item :: rest => do
      let c ← asCurrencyCode item.currency.name
      if c ≠ currency then
        .error (.error ("settlement_currencies_never_sum:" ++ currency.name ++ ":" ++ c.name))
      else
        let grossMinor ← grossMinorOf currency rest
        .ok (toMinor item.amount currency + grossMinor)

def calculateSettlement (items : List SettlementItemInput) (adjustments : SettlementAdjustments) :
    Except Err SettlementCalculation :=
  match items with
  | [] => .error (.error "settlement_empty_composition")
  | first :: _ => do
      let currency ← asCurrencyCode first.currency.name
      let grossMinor ← grossMinorOf currency items
      let m (v : Option Number) : Int := toMinor (v.getD 0) currency
      let marketplaceMinor := m adjustments.marketplaceAdjustments
      let refundsMinor := m adjustments.refunds
      let chargebacksMinor := m adjustments.chargebacks
      let reserveHeldMinor := m adjustments.reserveHeld
      let reserveReleasedMinor := m adjustments.reserveReleased
      let manualMinor := m adjustments.manualAdjustments
      let recoveryMinor := m adjustments.receivableRecovery
      let netMinor := grossMinor + marketplaceMinor - refundsMinor - chargebacksMinor -
        reserveHeldMinor + reserveReleasedMinor + manualMinor - recoveryMinor
      .ok
        { currency := currency
          lines :=
            { merchantGross := fromMinor grossMinor currency
              marketplaceAdjustments := fromMinor marketplaceMinor currency
              qiftFees := 0
              taxes := 0
              refunds := fromMinor refundsMinor currency
              chargebacks := fromMinor chargebacksMinor currency
              reserveHeld := fromMinor reserveHeldMinor currency
              reserveReleased := fromMinor reserveReleasedMinor currency
              manualAdjustments := fromMinor manualMinor currency
              receivableRecovery := fromMinor recoveryMinor currency }
          netAmount := fromMinor netMinor currency
          itemCount := items.length }

/-- The snapshot of a batch with a given gross and recovery and no other adjustment. -/
def recoverySnapshot (code : CurrencyCode) (grossMinor recoveryMinor : Int) (itemCount : Nat) :
    SettlementCalculation where
  currency := code
  lines :=
    { merchantGross := fromMinor grossMinor code
      marketplaceAdjustments := 0
      qiftFees := 0
      taxes := 0
      refunds := 0
      chargebacks := 0
      reserveHeld := 0
      reserveReleased := 0
      manualAdjustments := 0
      receivableRecovery := fromMinor recoveryMinor code }
  netAmount := fromMinor (grossMinor - recoveryMinor) code
  itemCount := itemCount

theorem grossMinorOf_eq {code : CurrencyCode} {items : List SettlementItemInput}
    (h : ∀ i ∈ items, asCurrencyCode i.currency.name = .ok code) :
    grossMinorOf code items = .ok (items.map fun i => toMinor i.amount code).sum := by
  induction items with
  | nil => rfl
  | cons item rest ih =>
      have hrest := ih fun i hi => h i (List.mem_cons_of_mem _ hi)
      simp [grossMinorOf, h item (by simp), hrest, bind, Except.bind]

/-- **The calculator on a batch.**  Items of one registered currency and a recovery line give the snapshot
with their gross in minor units, that recovery and the difference as net. -/
theorem calculateSettlement_spec {code : CurrencyCode} {items : List SettlementItemInput}
    (hne : items ≠ []) (h : ∀ i ∈ items, asCurrencyCode i.currency.name = .ok code)
    (recovery : Number) :
    calculateSettlement items { receivableRecovery := some recovery } =
      .ok (recoverySnapshot code (items.map fun i => toMinor i.amount code).sum
        (toMinor recovery code) items.length) := by
  cases items with
  | nil => exact absurd rfl hne
  | cons first rest =>
      simp only [calculateSettlement, h first (by simp), grossMinorOf_eq h, bind, Except.bind]
      simp [recoverySnapshot]

end Qift.Settlement
