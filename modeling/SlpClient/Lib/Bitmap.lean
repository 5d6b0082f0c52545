import Mathlib.Data.List.Basic
import Mathlib.Data.List.Count
import Mathlib.Data.Nat.Bitwise

/-!
# Sets of numbers as bytes

A bitmap has one bit for each number, eight of them in a byte.  Inserting a
number that has no place changes nothing, so that inserting numbers leaves
the population as it is exactly when every number that has a place was there
before.
-/

namespace SlpClient.Lib.Bitmap

/-- The number is in the set. -/
def isSet (bytes : List UInt8) (index : Nat) : Bool :=
  (bytes.getD (index / 8) 0).toNat.testBit (index % 8)

/-- The number is in the set from now on, if there is a place for it. -/
def insert (bytes : List UInt8) (index : Nat) : List UInt8 :=
  bytes.modify (index / 8) fun byte =>
    byte ||| UInt8.ofNat (1 <<< (index % 8))

/-- All numbers of a list are in the set from now on. -/
def insertAll (bytes : List UInt8) (indices : List Nat) : List UInt8 :=
  indices.foldl insert bytes

/-- How many numbers are in the set. -/
def population (bytes : List UInt8) : Nat :=
  (List.range (8 * bytes.length)).countP (isSet bytes)

variable {bytes : List UInt8}

/-- The bits of the byte that is added. -/
theorem testBit_mask {index : Nat} (other : Nat) :
    (UInt8.ofNat (1 <<< (index % 8))).toNat.testBit other =
      decide (index % 8 = other) := by
  have small : 1 <<< (index % 8) < 2 ^ 8 := by
    rw [Nat.one_shiftLeft]
    exact Nat.pow_lt_pow_right (by decide) (Nat.mod_lt _ (by decide))
  rw [UInt8.toNat_ofNat', Nat.mod_eq_of_lt small, Nat.one_shiftLeft,
    Nat.testBit_two_pow]

theorem length_insert (index : Nat) :
    (insert bytes index).length = bytes.length :=
  List.length_modify ..

/-- The bits after a number was inserted. -/
theorem isSet_insert (index other : Nat) :
    isSet (insert bytes index) other =
      (isSet bytes other ||
        (decide (other = index) && decide (other / 8 < bytes.length))) := by
  unfold isSet insert
  rw [List.getD_eq_getElem?_getD, List.getD_eq_getElem?_getD]
  by_cases same : index / 8 = other / 8
  · rw [same, List.getElem?_modify_eq]
    by_cases inside : other / 8 < bytes.length
    · have equal : decide (index % 8 = other % 8) = decide (other = index) :=
        decide_eq_decide.mpr (by omega)
      rw [List.getElem?_eq_getElem inside, Option.map_eq_map,
        Option.map_some, Option.getD_some, Option.getD_some, UInt8.toNat_or,
        Nat.testBit_or, testBit_mask, equal, decide_eq_true inside,
        Bool.and_true]
    · rw [List.getElem?_eq_none (Nat.le_of_not_lt inside),
        decide_eq_false inside, Bool.and_false, Bool.or_false]
      rfl
  · have apart : other ≠ index := by
      intro equal
      exact same (by rw [equal])
    rw [List.getElem?_modify_ne _ _ same, decide_eq_false apart,
      Bool.false_and, Bool.or_false]

theorem length_insertAll (indices : List Nat) :
    (insertAll bytes indices).length = bytes.length := by
  induction indices generalizing bytes with
  | nil => rfl
  | cons index rest induction =>
      show (insertAll (insert bytes index) rest).length = _
      rw [induction, length_insert]

/-- The bits after some numbers were inserted. -/
theorem isSet_insertAll (indices : List Nat) (other : Nat) :
    isSet (insertAll bytes indices) other =
      (isSet bytes other ||
        (decide (other ∈ indices) &&
          decide (other / 8 < bytes.length))) := by
  induction indices generalizing bytes with
  | nil => simp [insertAll]
  | cons index rest induction =>
      show isSet (insertAll (insert bytes index) rest) other = _
      rw [induction, isSet_insert, length_insert]
      simp [Bool.or_assoc, Bool.and_or_distrib_right]

/-- What is in the set stays there. -/
theorem isSet_insertAll_of_isSet {indices : List Nat} {other : Nat}
    (set : isSet bytes other = true) :
    isSet (insertAll bytes indices) other = true := by
  rw [isSet_insertAll, set, Bool.true_or]

/-- Counting agrees exactly when the larger of two predicates is the same. -/
theorem countP_eq_countP_iff {Entry : Type*} {first second : Entry → Bool}
    (weaker : ∀ entry, first entry = true → second entry = true)
    {entries : List Entry} :
    entries.countP second = entries.countP first ↔
      ∀ entry ∈ entries, second entry = true → first entry = true := by
  rw [List.countP_eq_length_filter, List.countP_eq_length_filter]
  constructor
  · intro counted entry member holds
    have part : (entries.filter first).Sublist (entries.filter second) :=
      List.monotone_filter_right entries weaker
    have same := part.eq_of_length counted.symm
    have kept : entry ∈ entries.filter first := by
      rw [same]
      exact List.mem_filter.mpr ⟨member, holds⟩
    exact (List.mem_filter.mp kept).2
  · intro stronger
    congr 1
    apply List.filter_congr
    intro entry member
    exact Bool.eq_iff_iff.mpr ⟨stronger entry member, weaker entry⟩

/-- Inserting adds nothing exactly when all that has a place was there. -/
theorem population_insertAll_iff {indices : List Nat} :
    population (insertAll bytes indices) = population bytes ↔
      ∀ index ∈ indices, index / 8 < bytes.length →
        isSet bytes index = true := by
  unfold population
  rw [length_insertAll,
    countP_eq_countP_iff fun _ set => isSet_insertAll_of_isSet set]
  constructor
  · intro all index member inside
    apply all index
    · rw [List.mem_range]
      omega
    · rw [isSet_insertAll, decide_eq_true member, decide_eq_true inside]
      exact Bool.or_true _
  · intro all index _ set
    rw [isSet_insertAll, Bool.or_eq_true, Bool.and_eq_true,
      decide_eq_true_eq, decide_eq_true_eq] at set
    rcases set with before | ⟨member, inside⟩
    · exact before
    · exact all index member inside

/-- Inserting into a set does not make it smaller. -/
theorem population_le_insertAll (bytes : List UInt8) (indices : List Nat) :
    population bytes ≤ population (insertAll bytes indices) := by
  unfold population
  rw [length_insertAll]
  exact List.countP_mono_left fun _ _ set => isSet_insertAll_of_isSet set

/-! ## The empty set -/

theorem isSet_zeros (length index : Nat) :
    isSet (List.replicate length 0) index = false := by
  have zero : (List.replicate length (0 : UInt8)).getD (index / 8) 0 = 0 := by
    rw [List.getD_eq_getElem?_getD, List.getElem?_replicate]
    split <;> rfl
  unfold isSet
  rw [zero]
  exact Nat.zero_testBit _

theorem population_zeros (length : Nat) :
    population (List.replicate length 0) = 0 := by
  unfold population
  rw [List.countP_eq_zero]
  intro index _
  rw [isSet_zeros]
  exact Bool.false_ne_true

end SlpClient.Lib.Bitmap
