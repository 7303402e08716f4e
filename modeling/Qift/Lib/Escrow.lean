import Mathlib.Logic.Relation
import Mathlib.Tactic

/-!
# Units in escrow

What a system that pays units out in groups promises, whatever the units and the groups are.

A unit is held by at most one group at a time.  A group is given its units once, gives them back or pays all
of them, and a payment is final: the unit is never paid again, and the group neither gains nor loses a unit
afterwards.

* `Escrow.Step` is one step of such a system, as a relation between what is held and paid before and after.
* **`Escrow.paid_forever`** is the run rule.
-/

namespace Escrow

variable {υ η : Type}

/-- Who holds each unit and which units are paid. -/
structure State (υ η : Type) where
  holder : υ → Option η
  paid : υ → Prop

/-- One step: units change hands through nobody, a group pays all of its units, a payment is final. -/
structure Step (s t : State υ η) : Prop where
  /-- A paid unit stays paid and held. -/
  final : ∀ u, s.paid u → t.paid u ∧ t.holder u = s.holder u
  /-- A unit is paid by the group that held it, with every other unit of that group. -/
  pays : ∀ u, ¬ s.paid u → t.paid u → ∃ h, s.holder u = some h ∧ t.holder u = some h ∧
    ∀ v, t.holder v = some h → t.paid v
  /-- A held unit is given back before another group takes it. -/
  moves : ∀ u h h', s.holder u = some h → t.holder u = some h' → h = h'
  /-- A group that has paid takes no further unit. -/
  closed : ∀ u v h, s.paid u → s.holder u = some h → t.holder v = some h → s.holder v = some h

/-- Any number of steps. -/
abbrev Run : State υ η → State υ η → Prop := Relation.ReflTransGen Step

/-- **A payment is final.** -/
theorem paid_forever {s t : State υ η} (h : Run s t) {u : υ} (hu : s.paid u) :
    t.paid u ∧ t.holder u = s.holder u := by
  induction h with
  | refl => exact ⟨hu, rfl⟩
  | tail _ hstep ih =>
      obtain ⟨hpaid, hholder⟩ := hstep.final u ih.1
      exact ⟨hpaid, hholder.trans ih.2⟩

end Escrow
