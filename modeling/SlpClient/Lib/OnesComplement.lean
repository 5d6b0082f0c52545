import Mathlib.Algebra.GroupWithZero.Nat
import Mathlib.Algebra.Order.Group.Nat
import Mathlib.Data.Nat.ModEq

/-!
# One's-complement sums

Addition with an end-around carry, in words below a radix.  A sum of such
words is determined by three facts: it is a word, it is congruent to the
exact sum modulo one less than the radix, and it is zero only if nothing but
zeros was added.  So every way to fold the carries back gives the same word,
and a sum to which its own complement is added folds to the largest word.
-/

namespace SlpClient.Lib

namespace OnesComplement

/-- Two words are added and the carry goes around to the lowest digit. -/
def add (radix left right : Nat) : Nat :=
  if left + right < radix then left + right
  else left + right - (radix - 1)

/-- The one's-complement sum of some words, from the left. -/
def sum (radix : Nat) (words : List Nat) : Nat :=
  words.foldl (add radix) 0

/-- `word` is what is left of the exact `total` when its carries are folded. -/
structure Folds (radix total word : Nat) : Prop where
  small : word < radix
  congruent : word ≡ total [MOD radix - 1]
  zero : word = 0 ↔ total = 0

namespace Folds

variable {radix total word other : Nat}

/-- Two congruent words differ only as the two zeros do. -/
theorem unique (large : 1 < radix) (first : Folds radix total word)
    (second : Folds radix total other) : word = other := by
  have congruent : word ≡ other [MOD radix - 1] :=
    first.congruent.trans second.congruent.symm
  have zeros : word = 0 ↔ other = 0 :=
    first.zero.trans second.zero.symm
  have below := first.small
  have otherBelow := second.small
  rcases Nat.lt_or_ge word (radix - 1) with less | top
  · rcases Nat.lt_or_ge other (radix - 1) with otherLess | otherTop
    · exact congruent.eq_of_lt_of_lt less otherLess
    · have isTop : other = radix - 1 := by omega
      rw [isTop, Nat.ModEq, Nat.mod_self, Nat.mod_eq_of_lt less] at congruent
      have none := zeros.mp congruent
      omega
  · have isTop : word = radix - 1 := by omega
    rcases Nat.lt_or_ge other (radix - 1) with otherLess | otherTop
    · rw [isTop, Nat.ModEq, Nat.mod_self, Nat.mod_eq_of_lt otherLess]
        at congruent
      have none := zeros.mpr congruent.symm
      omega
    · omega

/-- A total that is a word already has no carry. -/
theorem refl (small : total < radix) : Folds radix total total :=
  ⟨small, Nat.ModEq.refl _, Iff.rfl⟩

/-- Folding the carry of a larger total once changes nothing. -/
theorem of_step (large : 1 < radix) (carries : radix ≤ total)
    (folds : Folds radix (total % radix + total / radix) word) :
    Folds radix total word := by
  have split := Nat.mod_add_div total radix
  have carried : 1 ≤ total / radix :=
    Nat.div_pos carries (by omega)
  have whole :
      total % radix + radix * (total / radix) =
        total % radix + total / radix + (radix - 1) * (total / radix) := by
    rw [Nat.sub_one_mul]
    have grows : total / radix ≤ radix * (total / radix) :=
      Nat.le_mul_of_pos_left _ (by omega)
    omega
  have same :
      total % radix + total / radix ≡ total [MOD radix - 1] := by
    conv_rhs => rw [← split, whole]
    exact (Nat.add_mul_mod_self_left ..).symm
  refine ⟨folds.small, folds.congruent.trans same, ?_⟩
  rw [folds.zero]
  omega

/-- A total and the complement of its word fold to the largest word. -/
theorem complement (folds : Folds radix total word) (large : 1 < radix) :
    Folds radix (total + (radix - 1 - word)) (radix - 1) := by
  have below := folds.small
  refine ⟨by omega, ?_, ?_⟩
  · have added :
        total + (radix - 1 - word) ≡
          word + (radix - 1 - word) [MOD radix - 1] :=
      folds.congruent.symm.add_right _
    have top : word + (radix - 1 - word) = radix - 1 := by omega
    rw [top] at added
    exact added.symm
  · have zero := folds.zero
    omega

/-- One more word is added with its carry. -/
theorem add (folds : Folds radix total word) (large : 1 < radix)
    (below : other < radix) :
    Folds radix (total + other) (OnesComplement.add radix word other) := by
  have small := folds.small
  have zero := folds.zero
  have congruent : word + other ≡ total + other [MOD radix - 1] :=
    folds.congruent.add_right other
  unfold OnesComplement.add
  split
  · exact ⟨by omega, congruent, by omega⟩
  · refine ⟨by omega, ?_, by omega⟩
    have around :
        word + other - (radix - 1) ≡ word + other [MOD radix - 1] := by
      have whole :
          word + other = word + other - (radix - 1) + (radix - 1) := by
        omega
      conv_rhs => rw [whole]
      exact (Nat.add_mod_right ..).symm
    exact around.trans congruent

end Folds

/-- The one's-complement sum is the exact sum with its carries folded. -/
theorem folds_sum {radix : Nat} (large : 1 < radix) {words : List Nat}
    (small : ∀ word ∈ words, word < radix) :
    Folds radix words.sum (sum radix words) := by
  have general :
      ∀ (rest : List Nat) (total start : Nat),
        (∀ word ∈ rest, word < radix) → Folds radix total start →
          Folds radix (total + rest.sum) (rest.foldl (add radix) start) := by
    intro rest
    induction rest with
    | nil =>
        intro total start _ folds
        exact folds
    | cons word rest induction =>
        intro total start small folds
        rw [List.sum_cons, List.foldl_cons, ← Nat.add_assoc]
        exact
          induction _ _ (fun other member =>
            small other (List.mem_cons_of_mem _ member))
            (folds.add large (small word List.mem_cons_self))
  have all := general words 0 0 small (Folds.refl (by omega))
  rwa [Nat.zero_add] at all

end OnesComplement

end SlpClient.Lib
