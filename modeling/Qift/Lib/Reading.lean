import Mathlib.Data.List.Basic
import Mathlib.Data.List.Forall2
import Mathlib.Tactic.Common

/-!
# Reading printed words back

Words over an alphabet that a printer puts one after another, and the facts that tell where one of them ends.

* `EndsAt stop` are the tails in front of which a word has ended; `Reads stop x y P` says that `x` and `y`, each
  before such a tail, agree only if `P` holds and the tails are the same.
* `reads_span` reads a word without stopping letters, `read_coded` a sequence of code words up to a closing
  letter, `read_separated` a separated list of items up to a closing letter.
-/

namespace Qift.Lib

variable {α β ι : Type*}

/-- The tails that end a word: nothing, or a letter that stops it. -/
def EndsAt (stop : α → Prop) : List α → Prop
  | [] => True
  | c :: _ => stop c

/-- Printed before ending tails, the words `x` and `y` agree only if `P` holds, and then leave the same tail. -/
def Reads (stop : α → Prop) (x y : List α) (P : Prop) : Prop :=
  ∀ r s, EndsAt stop r → EndsAt stop s → x ++ r = y ++ s → P ∧ r = s

/-- Words without stopping letters are read whole. -/
theorem reads_span {stop : α → Prop} {x y : List α} (hx : ∀ c ∈ x, ¬ stop c) (hy : ∀ c ∈ y, ¬ stop c) :
    Reads stop x y (x = y) := by
  intro r s hr hs heq
  induction x generalizing y with
  | nil =>
      cases y with
      | nil => exact ⟨rfl, by simpa using heq⟩
      | cons d y =>
          -- the letter `d` would have to open the tail `r`
          obtain rfl : r = d :: (y ++ s) := by simpa using heq
          exact absurd hr (hy d (by simp))
  | cons c x ih =>
      cases y with
      | nil =>
          obtain rfl : c :: (x ++ r) = s := by simpa using heq
          exact absurd hs (hx c (by simp))
      | cons d y =>
          obtain ⟨rfl, htail⟩ : c = d ∧ x ++ r = y ++ s := by simpa using heq
          have hx' : ∀ a ∈ x, ¬ stop a := fun a ha => hx a (by simp [ha])
          have hy' : ∀ a ∈ y, ¬ stop a := fun a ha => hy a (by simp [ha])
          obtain ⟨rfl, rfl⟩ := ih hx' hy' htail
          exact ⟨rfl, rfl⟩

/-- A code whose words can be read one at a time, none of which opens with the closing letter. -/
structure Code (code : ι → List α) (close : α) : Prop where
  reads : ∀ a b r s, code a ++ r = code b ++ s → a = b ∧ r = s
  opens : ∀ a, ∃ c rest, code a = c :: rest ∧ c ≠ close

/-- A sequence of code words is read up to the closing letter. -/
theorem read_coded {code : ι → List α} {close : α} (hcode : Code code close) (xs ys : List ι)
    (r s : List α) (heq : xs.flatMap code ++ close :: r = ys.flatMap code ++ close :: s) :
    xs = ys ∧ r = s := by
  induction xs generalizing ys with
  | nil =>
      cases ys with
      | nil => exact ⟨rfl, by simpa using heq⟩
      | cons b ys =>
          obtain ⟨c, rest, hb, hne⟩ := hcode.opens b
          have hc : close = c := by simp [hb] at heq; exact heq.1
          exact absurd hc.symm hne
  | cons a xs ih =>
      cases ys with
      | nil =>
          obtain ⟨c, rest, ha, hne⟩ := hcode.opens a
          have hc : c = close := by simp [ha] at heq; exact heq.1
          exact absurd hc hne
      | cons b ys =>
          rw [List.flatMap_cons, List.flatMap_cons, List.append_assoc, List.append_assoc] at heq
          obtain ⟨rfl, htail⟩ := hcode.reads a b _ _ heq
          obtain ⟨rfl, rfl⟩ := ih ys htail
          exact ⟨rfl, rfl⟩

/-- What follows the first item of a separated list. -/
def rest (sep : α) (texts : List (List α)) : List α :=
  match texts with
  | [] => []
  | _ :: _ => sep :: [sep].intercalate texts

theorem intercalate_cons (sep : α) (text : List α) (texts : List (List α)) :
    [sep].intercalate (text :: texts) = text ++ rest sep texts := by
  cases texts with
  | nil => simp [rest]
  | cons t ts => simp [rest]

theorem endsAt_rest {stop : α → Prop} {sep close : α} (hsep : stop sep) (hclose : stop close)
    (texts : List (List α)) (r : List α) : EndsAt stop (rest sep texts ++ close :: r) := by
  cases texts with
  | nil => simpa [rest, EndsAt] using hclose
  | cons t ts => simpa [rest, EndsAt] using hsep

theorem read_separated {stop : α → Prop} {sep close : α} (hsep : stop sep) (hclose : stop close)
    (hne : sep ≠ close) {text : ι → List α} {R : ι → ι → Prop} (xs ys : List ι)
    (hread : ∀ x ∈ xs, ∀ y ∈ ys, Reads stop (text x) (text y) (R x y))
    (hx : ∀ x ∈ xs, ∃ c tail, text x = c :: tail ∧ c ≠ close)
    (hy : ∀ y ∈ ys, ∃ c tail, text y = c :: tail ∧ c ≠ close) (r s : List α)
    (heq : [sep].intercalate (xs.map text) ++ close :: r = [sep].intercalate (ys.map text) ++ close :: s) :
    List.Forall₂ R xs ys ∧ r = s := by
  induction xs generalizing ys with
  | nil =>
      cases ys with
      | nil => exact ⟨.nil, by simpa using heq⟩
      | cons y ys =>
          obtain ⟨c, tail, hc, hcne⟩ := hy y (by simp)
          rw [List.map_cons, intercalate_cons, hc] at heq
          have hhead : close = c := by simp at heq; exact heq.1
          exact absurd hhead.symm hcne
  | cons x xs ih =>
      cases ys with
      | nil =>
          obtain ⟨c, tail, hc, hcne⟩ := hx x (by simp)
          rw [List.map_cons, intercalate_cons, hc] at heq
          have hhead : c = close := by simp at heq; exact heq.1
          exact absurd hhead hcne
      | cons y ys =>
          rw [List.map_cons, List.map_cons, intercalate_cons, intercalate_cons, List.append_assoc,
            List.append_assoc] at heq
          have hitem := hread x (by simp) y (by simp) _ _ (endsAt_rest hsep hclose (xs.map text) r)
            (endsAt_rest hsep hclose (ys.map text) s) heq
          obtain ⟨hxy, htail⟩ := hitem
          -- the tails agree: both lists are over, or both go on after a separator
          cases xs with
          | nil =>
              cases ys with
              | nil => exact ⟨.cons hxy .nil, by simpa [rest] using htail⟩
              | cons y' ys =>
                  have hhead : close = sep := by simp [rest] at htail; exact htail.1
                  exact absurd hhead.symm hne
          | cons x' xs =>
              cases ys with
              | nil =>
                  have hhead : sep = close := by simp [rest] at htail; exact htail.1
                  exact absurd hhead hne
              | cons y' ys =>
                  have hnext : [sep].intercalate ((x' :: xs).map text) ++ close :: r =
                      [sep].intercalate ((y' :: ys).map text) ++ close :: s := by
                    simpa [rest] using htail
                  have hitems := ih (y' :: ys) (fun a ha b hb => hread a (by simp [ha]) b (by simp [hb]))
                    (fun a ha => hx a (by simp [ha])) (fun b hb => hy b (by simp [hb])) hnext
                  exact ⟨.cons hxy hitems.1, hitems.2⟩

end Qift.Lib
