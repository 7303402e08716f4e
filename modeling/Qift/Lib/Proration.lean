import Mathlib.Tactic

/-!
# A part of a total, given back in instalments

A total contains a part.  The total is given back in instalments, and each instalment is to carry its share of
the part.

* `roundedShare` is the proportional share in whole units, halves up.
* `instalment` caps it at what remains of the part; the instalment that completes the total takes what remains,
  as far as its own amount reaches.
* `instalment_nonneg`, `instalment_le` and `instalment_total_le` bound one instalment and the running total;
  **`instalment_completes`** says when the completing one leaves nothing of the part behind.
* `instalment_tracks` — until the total is reached, the instalments carry the sum of their shares, as far as the
  part reaches.
-/

namespace Proration

/-- The share of an amount in a part of a total, halves up. -/
def roundedShare (total part amount : Int) : Int := (amount * part + total / 2) / total

/-- The share of the part an instalment carries. -/
def instalment (total part prior priorPart amount : Int) : Int :=
  let remaining := max 0 (part - priorPart)
  if prior + amount = total then min amount remaining
  else min (if total = 0 then 0 else roundedShare total part amount) remaining

variable {total part prior priorPart amount : Int}

theorem roundedShare_nonneg (htotal : 0 < total) (hpart : 0 ≤ part) (hamount : 0 ≤ amount) :
    0 ≤ roundedShare total part amount := by
  have hproduct : 0 ≤ amount * part := mul_nonneg hamount hpart
  exact Int.ediv_nonneg (by omega) htotal.le

theorem roundedShare_le (htotal : 0 < total) (hpart : part ≤ total) (hamount : 0 ≤ amount) :
    roundedShare total part amount ≤ amount := by
  have hproduct : amount * part ≤ amount * total := mul_le_mul_of_nonneg_left hpart hamount
  -- the half that is added is less than one unit
  have hlt : roundedShare total part amount < amount + 1 := by
    refine Int.ediv_lt_of_lt_mul htotal ?_
    calc amount * part + total / 2 < amount * total + total := by omega
      _ = (amount + 1) * total := by ring
  omega

theorem instalment_nonneg (htotal : 0 < total) (hpart : 0 ≤ part) (hamount : 0 ≤ amount) :
    0 ≤ instalment total part prior priorPart amount := by
  have hshare := roundedShare_nonneg htotal hpart hamount
  unfold instalment
  dsimp only
  split
  · omega
  · rw [if_neg htotal.ne']
    omega

theorem instalment_le (htotal : 0 < total) (hpart : part ≤ total) (hamount : 0 ≤ amount) :
    instalment total part prior priorPart amount ≤ amount := by
  have hshare := roundedShare_le htotal hpart hamount
  unfold instalment
  dsimp only
  split
  · omega
  · rw [if_neg htotal.ne']
    omega

theorem instalment_total_le (hprior : priorPart ≤ part) :
    priorPart + instalment total part prior priorPart amount ≤ part := by
  unfold instalment
  dsimp only
  split <;> omega

/-- **The completing instalment leaves nothing behind exactly when its amount covers what remains.** -/
theorem instalment_completes (hcomplete : prior + amount = total) (hprior : priorPart ≤ part) :
    priorPart + instalment total part prior priorPart amount = part ↔ part - priorPart ≤ amount := by
  unfold instalment
  dsimp only
  rw [if_pos hcomplete]
  omega

/-- Short of the total the instalments add up to their shares, capped at the part. -/
theorem instalment_tracks {shares : Int} (htotal : 0 < total) (hpart : 0 ≤ part) (hamount : 0 ≤ amount)
    (htracks : priorPart = min part shares) (hopen : prior + amount ≠ total) :
    priorPart + instalment total part prior priorPart amount =
      min part (shares + roundedShare total part amount) := by
  have hshare := roundedShare_nonneg htotal hpart hamount
  unfold instalment
  dsimp only
  rw [if_neg hopen, if_neg htotal.ne']
  omega

theorem instalment_completes_shares {shares : Int} (hamount : 0 ≤ amount)
    (htracks : priorPart = min part shares) (hcomplete : prior + amount = total) :
    priorPart + instalment total part prior priorPart amount = part ↔ part ≤ shares + amount := by
  have hprior : priorPart ≤ part := by omega
  rw [instalment_completes hcomplete hprior]
  omega

end Proration
