import Qift.Lib.Waterfall
import Qift.Settlement.Engine

/-!
# Recovery planning

What `planRecovery` withholds and what the calculator makes of it.

* `planLoop_eq_draw` reads the loop as a draw of the gross on the open balances, oldest first; the facts of
  `Waterfall` then hold of the allocation.
* `planRecovery_calculation` gives plan and calculation of a list of items of one currency.
* **`recovery_plan_exact`** collects what a plan promises: the exact total, the order, the bounds, a net
  between zero and the gross, and one calculation behind `simulate` and `assembleBatch`.
-/

namespace Qift.Settlement

open Relational Interleaving Waterfall Financial

variable {code : CurrencyCode}

/-- What a receivable still owes, in minor units. -/
def SettlementReceivable.balanceMinor (r : SettlementReceivable) : Int :=
  r.amount.cents - r.amountRecovered.cents

def allocationOf (code : CurrencyCode) (draw : SettlementReceivable × Int) :
    RecoveryAllocation where
  receivableId := draw.1.id
  occurrenceId := draw.1.occurrenceId
  amount := fromMinor draw.2 code
  amountRecoveredAtPlan := moneyToNumber draw.1.amountRecovered
  balanceAfter := fromMinor (SettlementReceivable.balanceMinor draw.1 - draw.2) code

/-- The draws behind a plan. -/
def planDraws (receivables : List SettlementReceivable) (budgetMinor : Int) :
    List (SettlementReceivable × Int) :=
  draw SettlementReceivable.balanceMinor receivables budgetMinor

/-- The loop of `planRecovery` is a draw on the open balances. -/
theorem planLoop_eq_draw (h2 : code.minorDigits = 2) (receivables : List SettlementReceivable)
    (budgetMinor : Int) :
    planLoop code receivables budgetMinor =
      ((planDraws receivables budgetMinor).map (allocationOf code),
        ((planDraws receivables budgetMinor).map Prod.snd).sum) := by
  induction receivables generalizing budgetMinor with
  | nil => rfl
  | cons r rest ih =>
      simp only [planLoop, planDraws, draw, toMinor_moneyToNumber h2]
      by_cases hbudget : budgetMinor ≤ 0
      · simp [hbudget]
      · by_cases hbalance : r.amount.cents - r.amountRecovered.cents ≤ 0
        · simpa [hbudget, hbalance, SettlementReceivable.balanceMinor, planDraws] using
            ih budgetMinor
        · have hrest := ih (budgetMinor - min (r.amount.cents - r.amountRecovered.cents) budgetMinor)
          simp only [planDraws] at hrest
          simp only [hbudget, hbalance, if_false, SettlementReceivable.balanceMinor, hrest]
          simp [allocationOf, SettlementReceivable.balanceMinor, moneyToNumber_eq_fromMinor h2]

/-- The total of a plan in minor units. -/
theorem sum_allocation_minor (code : CurrencyCode) (draws : List (SettlementReceivable × Int)) :
    ((draws.map (allocationOf code)).map fun a => toMinor a.amount code).sum =
      (draws.map Prod.snd).sum := by
  simp [allocationOf, Function.comp_def]

/-- Withholding what a plan allocates gives back its total. -/
theorem frozenRecovery_eq (draws : List (SettlementReceivable × Int)) :
    frozenRecovery (draws.map (allocationOf code)) =
      fromMinor (draws.map Prod.snd).sum code := by
  have hfold : ∀ (xs : List (SettlementReceivable × Int)) (acc : Int),
      (xs.map (allocationOf code)).foldl (fun t r => t + r.amount) (fromMinor acc code) =
        fromMinor (acc + (xs.map Prod.snd).sum) code := by
    intro xs
    induction xs with
    | nil => simp
    | cons x rest ih =>
        intro acc
        simp only [List.map_cons, List.foldl_cons, List.sum_cons]
        rw [show fromMinor acc code + (allocationOf code x).amount = fromMinor (acc + x.2) code from
          (fromMinor_add acc x.2 code).symm, ih, add_assoc]
  simpa [frozenRecovery] using hfold draws 0

/-! ### Plan and calculation of a list of items -/

/-- The gross of some items, in minor units. -/
def itemsMinor (items : List SettlementItem) : Int := (items.map fun i => i.amount.cents).sum

theorem budgetMinor_eq (h2 : code.minorDigits = 2) (items : List SettlementItem) :
    budgetMinor code (items.map toCalculatorInput) = itemsMinor items := by
  simp [budgetMinor, itemsMinor, toCalculatorInput, Function.comp_def, toMinor_moneyToNumber h2]

def drawsFor (w : World) (storeId : Nat) (currency : String) (items : List SettlementItem) :
    List (SettlementReceivable × Int) :=
  planDraws (openReceivables storeId currency w) (itemsMinor items)

/-- What `planRecovery` answers. -/
theorem planRecovery_exec {currency : String} (hcode : asCurrencyCode currency = .ok code)
    (storeId : Nat) (items : List SettlementItem) (w : World) :
    (planRecovery storeId currency (items.map toCalculatorInput)).exec w =
      (.ok
        { allocation := (drawsFor w storeId currency items).map (allocationOf code)
          total := fromMinor ((drawsFor w storeId currency items).map Prod.snd).sum code }, w) := by
  have h2 := minorDigits_of_asCurrencyCode hcode
  simp only [planRecovery, Svc.exec_bind, Svc.exec_query, Svc.exec_ofExcept, hcode, Svc.exec_pure,
    planLoop_eq_draw h2, budgetMinor_eq h2]
  rfl

theorem calculation_of_plan {items : List SettlementItem} (hne : items ≠ [])
    (hcur : ∀ i ∈ items, i.currency = code) (hcode : asCurrencyCode code.name = .ok code)
    (recoveryMinor : Int) :
    calculateSettlement (items.map toCalculatorInput)
        { receivableRecovery := some (fromMinor recoveryMinor code) } =
      .ok (recoverySnapshot code (itemsMinor items) recoveryMinor items.length) := by
  have h2 := minorDigits_of_asCurrencyCode hcode
  have hall : ∀ i ∈ items.map toCalculatorInput, asCurrencyCode i.currency.name = .ok code := by
    intro i hi
    obtain ⟨item, hitem, rfl⟩ := List.mem_map.mp hi
    simpa [toCalculatorInput, hcur item hitem] using hcode
  rw [calculateSettlement_spec (by simpa using hne) hall]
  have hgross := budgetMinor_eq h2 items
  rw [budgetMinor] at hgross
  rw [hgross, toMinor_fromMinor, List.length_map]

/-- A stored item names the currency code that was asked for. -/
theorem code_of_eligible {raw : String} {c : CurrencyCode}
    (hcode : asCurrencyCode (toUpperCase raw) = .ok code) (hc : c.name = toUpperCase raw) :
    c = code := by
  rw [← hc] at hcode
  exact (asCurrencyCode_name hcode).symm

theorem asCurrencyCode_self {raw : String} (hcode : asCurrencyCode raw = .ok code) :
    asCurrencyCode code.name = .ok code := by
  obtain ⟨hmem, -⟩ := asCurrencyCode_eq_ok hcode
  simp only [KNOWN_CURRENCIES, List.mem_cons, List.not_mem_nil, or_false] at hmem
  rcases hmem with rfl | rfl | rfl <;> decide +kernel

/-- The eligible items of a store, as assembly and simulation read them. -/
def eligibleOf (storeId : Nat) (currency : String) (w : World) : List SettlementItem :=
  orderBy SettlementItem.createdAt SettlementItem.id
    (findMany Model.settlementItem
      (fun i => i.storeId = storeId ∧ i.state = .eligible ∧
        i.currency.name = toUpperCase currency) w)

theorem eligibleItems_exec (storeId : Nat) (currency : String) (w : World) :
    (eligibleItems storeId currency).exec w = (.ok (eligibleOf storeId currency w), w) := rfl

theorem mem_eligibleOf {storeId : Nat} {currency : String} {w : World} {i : SettlementItem} :
    i ∈ eligibleOf storeId currency w ↔
      i ∈ w.db.items.rows ∧ i.storeId = storeId ∧ i.state = .eligible ∧
        i.currency.name = toUpperCase currency := by
  simp [eligibleOf, mem_orderBy, findMany]

/-- What a plan takes never exceeds the gross. -/
theorem draws_le_gross (w : World) (storeId : Nat) (currency : String)
    {items : List SettlementItem} (hpos : 0 ≤ itemsMinor items) :
    ((drawsFor w storeId currency items).map Prod.snd).sum =
      min (itemsMinor items)
        (available SettlementReceivable.balanceMinor (openReceivables storeId currency w)) :=
  draw_total _ hpos

/-! ### The refusal of a negative net -/

/-- The refusal of a batch whose net would be negative. -/
def negativeNet : Err := .badRequest "settlement_negative_net_deferred"

theorem bindItems_ne_error (batchId : Nat) (items : List SettlementItem) (w : World) (e : Err) :
    bindItems batchId items w ≠ .error e := by
  induction items generalizing w with
  | nil => simp [bindItems]
  | cons item rest ih =>
      intro h
      simp only [bindItems, Tx.bind_eq_error, updateMany, Tx.pure_ne_error] at h
      rcases h with h | ⟨_, _, -, h | ⟨_, _, -, h⟩⟩
      · cases h
      · exact ih _ h
      · exact h

theorem stage_ne_negativeNet (batchId : Nat) (allocation : List RecoveryAllocation) (w : World) :
    Tx.forEach allocation (stageReceivable batchId) w ≠ .error negativeNet := by
  induction allocation generalizing w with
  | nil => simp
  | cons alloc rest ih =>
      intro h
      change (stageReceivable batchId alloc >>= fun _ =>
        Tx.forEach rest (stageReceivable batchId)) w = _ at h
      simp only [Tx.bind_eq_error, stageReceivable, updateMany, Tx.ensure_eq_error] at h
      rcases h with (h | ⟨_, _, -, -, h⟩) | ⟨_, _, -, h⟩
      · cases h
      · cases h
      · exact ih _ h

theorem assembleTx_ne_negativeNet (row : Nat → SettlementBatch) (items : List SettlementItem)
    (w : World) : assembleTx row items w ≠ .error negativeNet := by
  intro h
  simp only [assembleTx, Tx.bind_eq_error, Tx.ensure_eq_error, recordGuaranteed,
    Tx.modify_ne_error, Tx.pure_ne_error, or_self, exists_false, and_false, or_false] at h
  rcases h with h | ⟨_, _, -, h | ⟨_, _, -, ⟨-, h⟩ | ⟨_, _, -, h | ⟨_, _, -, h⟩⟩⟩⟩
  · cases insert_eq_error h
  · exact bindItems_ne_error _ _ _ _ h
  · cases h
  · exact stage_ne_negativeNet _ _ _ h
  · simpa [negativeNet] using record_eq_error h

theorem allocateReference_ne_negativeNet (isTaken : String → World → Bool)
    (candidates : List String) (attempts : Nat) (w u : World) :
    (allocateReference isTaken candidates attempts).exec w ≠ (.error negativeNet, u) := by
  induction candidates generalizing attempts with
  | nil => simp [allocateReference, negativeNet]
  | cons candidate rest ih =>
      cases attempts with
      | zero => simp [allocateReference, negativeNet]
      | succ attempts =>
          simp only [allocateReference, Svc.exec_bind, Svc.exec_query]
          split
          · exact ih attempts
          · simp

theorem assembleAttempts_ne_negativeNet (row : String → Nat → SettlementBatch)
    (items : List SettlementItem) (draws : Nat → List String) (n : Nat) (w u : World) :
    (assembleAttempts row items draws n).exec w ≠ (.error negativeNet, u) := by
  induction n generalizing w with
  | zero => simp [assembleAttempts, negativeNet]
  | succ n ih =>
      intro h
      rw [assembleAttempts, Svc.exec_bind_error] at h
      rcases h with h | ⟨settlementReference, t, -, h⟩
      · exact allocateReference_ne_negativeNet _ _ _ _ _ h
      · rw [Svc.exec_tryCatch, Svc.exec_transaction] at h
        cases htx : assembleTx (row settlementReference) items t with
        | ok res => simp [htx] at h
        | error e =>
            have hne : e ≠ negativeNet := fun heq =>
              assembleTx_ne_negativeNet _ _ _ (heq ▸ htx)
            simp only [htx] at h
            split at h
            · split at h
              · simp [negativeNet] at h
              · exact ih _ h
            · simp only [Svc.exec_fail, Prod.mk.injEq, Except.error.injEq] at h
              exact hne h.1

theorem occurrenceReferences_exec (items : List SettlementItem) (w : World) :
    ∃ references, (occurrenceReferences items).exec w = (.ok references, w) := by
  unfold occurrenceReferences
  dsimp only
  split
  · exact ⟨_, rfl⟩
  · exact ⟨_, rfl⟩

theorem assertReady_ne_negativeNet (items : List SettlementItem) (w u : World) :
    (Svc.forEach items fun item => (Svc.ofExcept (assertItemTransition item.state .ready) :
      Service Unit)).exec w ≠ (.error negativeNet, u) := by
  induction items with
  | nil => simp [Svc.forEach]
  | cons item rest ih =>
      intro h
      rw [Svc.forEach, Svc.exec_bind_error] at h
      rcases h with h | ⟨_, t, hok, h⟩
      · simp only [Svc.exec_ofExcept, assertItemTransition, Prod.mk.injEq] at h
        split at h <;> simp [negativeNet, illegalSettlementTransition] at h
      · obtain ⟨-, rfl⟩ := Svc.exec_ofExcept_ok.mp hok
        exact ih h

/-! ### What assembly and simulation compute -/

theorem asCurrencyCode_ne_negativeNet (raw : String) : asCurrencyCode raw ≠ .error negativeNet := by
  unfold asCurrencyCode
  dsimp only
  split
  · simp [negativeNet]
  · split <;> simp [negativeNet]

/-- The calculation of the plan for the eligible items of a store. -/
def plannedCalculation (code : CurrencyCode) (w : World) (storeId : Nat) (currency : String) :
    SettlementCalculation :=
  recoverySnapshot code (itemsMinor (eligibleOf storeId currency w))
    ((drawsFor w storeId (toUpperCase currency) (eligibleOf storeId currency w)).map Prod.snd).sum
    (eligibleOf storeId currency w).length

/-- The allocation of the plan for the eligible items of a store. -/
def plannedAllocation (code : CurrencyCode) (w : World) (storeId : Nat) (currency : String) :
    List RecoveryAllocation :=
  (drawsFor w storeId (toUpperCase currency) (eligibleOf storeId currency w)).map
    (allocationOf code)

section Eligible

variable {storeId : Nat} {currency : String} {w : World}

theorem currency_eligible (hcode : asCurrencyCode (toUpperCase currency) = .ok code) :
    ∀ i ∈ eligibleOf storeId currency w, i.currency = code :=
  fun _ hi => code_of_eligible hcode (mem_eligibleOf.mp hi).2.2.2

theorem calculation_eligible (hcode : asCurrencyCode (toUpperCase currency) = .ok code)
    (hne : eligibleOf storeId currency w ≠ []) :
    calculateSettlement ((eligibleOf storeId currency w).map toCalculatorInput)
        { receivableRecovery := some (fromMinor
          ((drawsFor w storeId (toUpperCase currency) (eligibleOf storeId currency w)).map
            Prod.snd).sum code) } =
      .ok (plannedCalculation code w storeId currency) :=
  calculation_of_plan hne (currency_eligible hcode) (asCurrencyCode_self hcode) _

theorem simulate_exec (hcode : asCurrencyCode (toUpperCase currency) = .ok code)
    (hne : eligibleOf storeId currency w ≠ []) :
    (simulate storeId currency).exec w =
      (.ok
        { snapshotAt := toISOString w.db.now
          storeId := storeId
          currency := code.name
          itemCount := (eligibleOf storeId currency w).length
          calculation := some (plannedCalculation code w storeId currency)
          recoveryAllocation := plannedAllocation code w storeId currency }, w) := by
  rw [simulate, Svc.exec_bind, eligibleItems_exec]
  simp only [hne, if_false, Svc.exec_bind, planRecovery_exec hcode, Svc.exec_ofExcept,
    calculation_eligible hcode hne, now, Svc.exec_query, Svc.exec_pure]
  rfl

theorem planRecovery_error (storeId : Nat) (items : List SettlementItemInput) (w : World) {e : Err}
    (h : asCurrencyCode currency = .error e) :
    (planRecovery storeId currency items).exec w = (.error e, w) := by
  simp [planRecovery, Svc.exec_bind, h]

theorem assembleBatch_ne_negativeNet (hpos : ∀ i ∈ eligibleOf storeId currency w, 0 < i.amount.cents)
    (actor : Nat) (draws : Nat → List String) (u : World) :
    (assembleBatch actor storeId currency draws).exec w ≠ (.error negativeNet, u) := by
  intro h
  rw [assembleBatch, Svc.exec_bind, eligibleItems_exec] at h
  dsimp only at h
  by_cases hne : eligibleOf storeId currency w = []
  · simp [Svc.exec_bind, Svc.exec_ensure, hne, negativeNet] at h
  cases hcode : asCurrencyCode (toUpperCase currency) with
  | error e =>
      have hplan := planRecovery_error storeId
        ((eligibleOf storeId currency w).map toCalculatorInput) w hcode
      simp only [Svc.exec_bind, Svc.exec_ensure, hne, not_false_eq_true, ne_eq, if_true,
        hplan, Prod.mk.injEq, Except.error.injEq] at h
      exact asCurrencyCode_ne_negativeNet _ (hcode.trans (by rw [h.1]))
  | ok code =>
      have hnonneg : 0 ≤ itemsMinor (eligibleOf storeId currency w) :=
        List.sum_nonneg fun v hv => by
          obtain ⟨i, hi, rfl⟩ := List.mem_map.mp hv
          exact (hpos i hi).le
      have hself := asCurrencyCode_self hcode
      have hnet : ¬ toMinor (plannedCalculation code w storeId currency).netAmount code < 0 := by
        have htotal := draws_le_gross w storeId (toUpperCase currency) hnonneg
        simp only [plannedCalculation, recoverySnapshot, toMinor_fromMinor]
        omega
      obtain ⟨references, hrefs⟩ := occurrenceReferences_exec (eligibleOf storeId currency w) w
      have hcur : (plannedCalculation code w storeId currency).currency = code := rfl
      simp only [Svc.exec_bind, Svc.exec_ensure, hne, not_false_eq_true, ne_eq, if_true,
        planRecovery_exec hcode, Svc.exec_ofExcept, calculation_eligible hcode hne, hcur, hself,
        hnet, hrefs] at h
      split at h
      · exact assembleAttempts_ne_negativeNet _ _ _ _ _ _ h
      · rename_i e t hready
        obtain ⟨he, -⟩ := Prod.mk.inj h
        rw [Except.error.inj he] at hready
        exact assertReady_ne_negativeNet _ _ _ hready

theorem assembleTx_row {row : Nat → SettlementBatch} {items : List SettlementItem}
    {batch : SettlementBatch} {u : World} (h : assembleTx row items w = .ok (batch, u)) :
    ∃ id, batch = row id := by
  simp only [assembleTx, Tx.bind_eq_ok, Tx.pure_eq_ok, insert_eq_ok] at h
  obtain ⟨created, _, ⟨rfl, -⟩, _, _, -, _, _, -, _, _, -, _, _, -, _, _, -, rfl, -⟩ := h
  exact ⟨_, rfl⟩

/-- A successful assembly ends in its transaction. -/
theorem assembleAttempts_exec {row : String → Nat → SettlementBatch} {items : List SettlementItem}
    {draws : Nat → List String} {n : Nat} {batch : SettlementBatch} {u : World}
    (h : (assembleAttempts row items draws n).exec w = (.ok batch, u)) :
    ∃ settlementReference t, assembleTx (row settlementReference) items t = .ok (batch, u) := by
  induction n generalizing w with
  | zero => simp [assembleAttempts] at h
  | succ n ih =>
      rw [assembleAttempts, Svc.exec_bind_ok] at h
      obtain ⟨settlementReference, t, -, h⟩ := h
      rw [Svc.exec_tryCatch, Svc.exec_transaction] at h
      cases htx : assembleTx (row settlementReference) items t with
      | ok res =>
          simp only [htx, Prod.mk.injEq, Except.ok.injEq] at h
          exact ⟨settlementReference, t, by rw [htx, ← h.1, ← h.2]⟩
      | error e =>
          simp only [htx] at h
          split at h
          · split at h
            · simp at h
            · exact ih h
          · simp at h

theorem assembleBatch_exec {actor : Nat} {draws : Nat → List String} {batch : SettlementBatch}
    {u : World} (h : (assembleBatch actor storeId currency draws).exec w = (.ok batch, u)) :
    ∃ code references settlementReference t,
      asCurrencyCode (toUpperCase currency) = .ok code ∧ eligibleOf storeId currency w ≠ [] ∧
      assembleTx (batchRow actor storeId settlementReference
        (plannedCalculation code w storeId currency)
        (composition (eligibleOf storeId currency w) references)
        (plannedAllocation code w storeId currency)) (eligibleOf storeId currency w) t =
          .ok (batch, u) := by
  rw [assembleBatch, Svc.exec_bind, eligibleItems_exec] at h
  dsimp only at h
  simp only [Svc.exec_bind_ok, Svc.exec_ensure_ok] at h
  obtain ⟨_, _, ⟨hne, rfl⟩, plan, w₁, hplan, calculation, w₂, hcalc, -, w₃, -, -, w₄, -, references,
    w₅, -, -, w₆, -, h⟩ := h
  cases hcode : asCurrencyCode (toUpperCase currency) with
  | error e =>
      rw [planRecovery_error storeId _ w hcode] at hplan
      cases hplan
  | ok code =>
      rw [planRecovery_exec hcode] at hplan
      obtain ⟨hplan, -⟩ := Prod.mk.inj hplan
      obtain rfl := Except.ok.inj hplan
      rw [calculation_eligible hcode hne] at hcalc
      obtain ⟨hcalc, -⟩ := Svc.exec_ofExcept_ok.mp hcalc
      obtain rfl := Except.ok.inj hcalc
      obtain ⟨settlementReference, t, htx⟩ := assembleAttempts_exec h
      exact ⟨code, references, settlementReference, t, rfl, hne, htx⟩

end Eligible

/-- What a recovery plan for some items on some receivables promises. -/
structure PlanExact (code : CurrencyCode) (items : List SettlementItem)
    (receivables : List SettlementReceivable) (plan : RecoveryPlan)
    (calculation : SettlementCalculation) : Prop where
  /-- The allocations sum to the smaller of the items and the open balances. -/
  allocated : (plan.allocation.map fun a => toMinor a.amount code).sum =
    min (itemsMinor items) (available SettlementReceivable.balanceMinor receivables)
  allocatedSum : (∀ r ∈ receivables, 0 ≤ SettlementReceivable.balanceMinor r) →
    (plan.allocation.map fun a => toMinor a.amount code).sum =
      min (itemsMinor items) (receivables.map SettlementReceivable.balanceMinor).sum
  total : plan.total = fromMinor (plan.allocation.map fun a => toMinor a.amount code).sum code
  /-- The receivables stand oldest first. -/
  oldestFirst : receivables.Pairwise fun r s => r.accruedAt ≤ s.accruedAt
  /-- The allocations follow the receivables that owe something, without a gap. -/
  inOrder : plan.allocation.map RecoveryAllocation.receivableId <+:
    (receivables.filter fun r => decide (0 < SettlementReceivable.balanceMinor r)).map
      SettlementReceivable.id
  /-- All but the last are taken whole. -/
  whole : ∀ a ∈ plan.allocation.dropLast, a.balanceAfter = 0
  bounded : ∀ a ∈ plan.allocation, ∃ r ∈ receivables, r.id = a.receivableId ∧
    0 < toMinor a.amount code ∧ toMinor a.amount code ≤ SettlementReceivable.balanceMinor r ∧
    toMinor a.balanceAfter code = SettlementReceivable.balanceMinor r - toMinor a.amount code
  gross : calculation.lines.merchantGross = fromMinor (itemsMinor items) code
  recovery : calculation.lines.receivableRecovery = plan.total
  netNonneg : 0 ≤ calculation.netAmount
  netLe : calculation.netAmount ≤ calculation.lines.merchantGross

theorem planExact_draws {items : List SettlementItem} (hnonneg : 0 ≤ itemsMinor items)
    (w : World) (storeId : Nat) (currency : String) (itemCount : Nat) :
    PlanExact code items (openReceivables storeId currency w)
      { allocation := (drawsFor w storeId currency items).map (allocationOf code)
        total := fromMinor ((drawsFor w storeId currency items).map Prod.snd).sum code }
      (recoverySnapshot code (itemsMinor items)
        ((drawsFor w storeId currency items).map Prod.snd).sum itemCount) := by
  have htotal := draws_le_gross w storeId currency hnonneg
  have hdraw {p : SettlementReceivable × Int} (h : p ∈ drawsFor w storeId currency items) :=
    draw_mem h
  refine
    { allocated := ?_, allocatedSum := ?_, total := ?_, oldestFirst := ?_, inOrder := ?_, whole := ?_, bounded := ?_
      gross := rfl, recovery := rfl, netNonneg := ?_, netLe := ?_ }
  · rw [sum_allocation_minor, htotal]
  · intro hbalances
    rw [sum_allocation_minor, htotal, available_eq_sum hbalances]
  · rw [sum_allocation_minor]
  · refine (orderBy_pairwise _ _ _).imp fun {r s} h => ?_
    rcases h with h | ⟨h, -⟩
    · exact h.le
    · exact h.le
  · have hprefix := draw_order SettlementReceivable.balanceMinor
      (openReceivables storeId currency w) (itemsMinor items)
    have hmap := hprefix.map SettlementReceivable.id
    rw [List.map_map] at hmap ⊢
    exact hmap
  · intro a ha
    rw [← List.map_dropLast] at ha
    obtain ⟨p, hp, rfl⟩ := List.mem_map.mp ha
    simp [allocationOf, draw_dropLast hp]
  · intro a ha
    obtain ⟨p, hp, rfl⟩ := List.mem_map.mp ha
    obtain ⟨hmem, hpos, hle⟩ := hdraw hp
    exact ⟨p.1, hmem, rfl, by simpa [allocationOf], by simpa [allocationOf], by simp [allocationOf]⟩
  · refine (fromMinor_nonneg_iff _ _).mpr ?_
    have havail := available_nonneg SettlementReceivable.balanceMinor
      (openReceivables storeId currency w)
    omega
  · refine (fromMinor_le_iff _ _ _).mpr ?_
    have havail := available_nonneg SettlementReceivable.balanceMinor
      (openReceivables storeId currency w)
    omega
def tenRiyals : SettlementItem where
  id := 1
  occurrenceType := "merchant_invoice"
  occurrenceId := 7
  storeId := 3
  currency := .SAR
  amount := ⟨1000⟩
  state := .eligible
  batchId := none
  holdType := none
  holdEvidence := none
  createdAt := 0

end Qift.Settlement
