import Mathlib.Data.List.Basic
import Mathlib.Logic.Function.Basic

/-!
# Bytes in memory

What a memory holds from an index on, and what a list of writes leaves there.
A segment is the list of the writes that copy some bytes one after the other;
it changes the memory in its own range only.
-/

namespace SlpClient.Lib.Memory

variable {Byte : Type*}

/-- The bytes are in the memory from the index on. -/
def Holds (memory : Nat → Byte) : Nat → List Byte → Prop
  | _, [] => True
  | index, byte :: rest =>
      memory index = byte ∧ Holds memory (index + 1) rest

/-- The bytes from an index on. -/
def slice (memory : Nat → Byte) : Nat → Nat → List Byte
  | _, 0 => []
  | index, count + 1 => memory index :: slice memory (index + 1) count

variable {memory : Nat → Byte}

theorem holds_append {index : Nat} {first second : List Byte} :
    Holds memory index (first ++ second) ↔
      Holds memory index first ∧
        Holds memory (index + first.length) second := by
  induction first generalizing index with
  | nil =>
      show Holds memory index second ↔ True ∧ Holds memory index second
      rw [true_and]
  | cons byte rest induction =>
      have next : index + 1 + rest.length = index + (rest.length + 1) := by
        omega
      rw [List.cons_append, Holds, Holds, induction, List.length_cons,
        next, and_assoc]

@[simp]
theorem length_slice (index count : Nat) :
    (slice memory index count).length = count := by
  induction count generalizing index with
  | zero => rfl
  | succ count induction => exact congrArg Nat.succ (induction _)

theorem holds_slice (index count : Nat) :
    Holds memory index (slice memory index count) := by
  induction count generalizing index with
  | zero => trivial
  | succ count induction => exact ⟨rfl, induction _⟩

theorem Holds.slice_eq {index : Nat} {bytes : List Byte}
    (holds : Holds memory index bytes) :
    slice memory index bytes.length = bytes := by
  induction bytes generalizing index with
  | nil => rfl
  | cons byte rest induction =>
      exact List.cons_eq_cons.mpr ⟨holds.1, induction holds.2⟩

/-- A memory that holds a list. -/
def ofList (fallback : Byte) (bytes : List Byte) : Nat → Byte :=
  fun index => bytes.getD index fallback

theorem holds_ofList (fallback : Byte) (front bytes rest : List Byte) :
    Holds (ofList fallback (front ++ (bytes ++ rest))) front.length
      bytes := by
  induction bytes generalizing front with
  | nil => trivial
  | cons byte bytes induction =>
      have later := induction (front ++ [byte])
      rw [List.append_assoc, List.length_append] at later
      refine ⟨?_, later⟩
      show (front ++ (byte :: (bytes ++ rest))).getD front.length fallback = _
      rw [List.getD_eq_getElem?_getD, List.getElem?_append_right
        (Nat.le_refl _), Nat.sub_self]
      rfl

/-! ## Writes -/

/-- The writes that copy some bytes. -/
def segment : Nat → List Byte → List (Nat × Byte)
  | _, [] => []
  | index, byte :: rest => (index, byte) :: segment (index + 1) rest

/-- The memory after some writes. -/
def after (memory : Nat → Byte) : List (Nat × Byte) → Nat → Byte
  | [] => memory
  | write :: rest =>
      after (Function.update memory write.1 write.2) rest

theorem after_append (memory : Nat → Byte)
    (first second : List (Nat × Byte)) :
    after memory (first ++ second) = after (after memory first) second := by
  induction first generalizing memory with
  | nil => rfl
  | cons write rest induction => exact induction _

theorem segment_append (index : Nat) (first second : List Byte) :
    segment index (first ++ second) =
      segment index first ++ segment (index + first.length) second := by
  induction first generalizing index with
  | nil => rfl
  | cons byte rest induction =>
      have next : index + 1 + rest.length = index + (rest.length + 1) := by
        omega
      rw [List.cons_append, segment, induction, List.length_cons, next]
      rfl

/-- A segment writes to its range. -/
theorem mem_segment_iff {index : Nat} {bytes : List Byte} {place : Nat} :
    (∃ write ∈ segment index bytes, write.1 = place) ↔
      index ≤ place ∧ place < index + bytes.length := by
  induction bytes generalizing index with
  | nil =>
      simp only [segment, List.not_mem_nil, false_and, exists_false,
        List.length_nil, false_iff]
      omega
  | cons byte rest induction =>
      simp only [segment, List.mem_cons, exists_eq_or_imp, induction,
        List.length_cons]
      omega

/-- A segment leaves the memory outside its range alone. -/
theorem after_segment_of_outside {index : Nat} {bytes : List Byte}
    {place : Nat} (outside : place < index ∨ index + bytes.length ≤ place) :
    after memory (segment index bytes) place = memory place := by
  induction bytes generalizing memory index with
  | nil => rfl
  | cons byte rest induction =>
      simp only [List.length_cons] at outside
      show
        after (Function.update memory index byte)
            (segment (index + 1) rest) place =
          memory place
      rw [induction (by omega), Function.update_of_ne (by omega)]

/-- A segment leaves its bytes in its range. -/
theorem holds_after_segment (index : Nat) (bytes : List Byte) :
    Holds (after memory (segment index bytes)) index bytes := by
  induction bytes generalizing memory index with
  | nil => trivial
  | cons byte rest induction =>
      refine ⟨?_, induction (index + 1)⟩
      show
        after (Function.update memory index byte)
            (segment (index + 1) rest) index =
          byte
      rw [after_segment_of_outside (.inl (Nat.lt_succ_self index)),
        Function.update_self]

theorem Holds.congr {other : Nat → Byte} {index : Nat} {bytes : List Byte}
    (holds : Holds memory index bytes)
    (same :
      ∀ place, index ≤ place → place < index + bytes.length →
        other place = memory place) :
    Holds other index bytes := by
  induction bytes generalizing index with
  | nil => trivial
  | cons byte rest induction =>
      simp only [List.length_cons] at same
      refine ⟨(same index (Nat.le_refl _) (by omega)).trans holds.1, ?_⟩
      apply induction holds.2
      intro place low high
      exact same place (by omega) (by omega)

/-- A segment elsewhere leaves what the memory holds alone. -/
theorem Holds.after_segment {index start : Nat}
    {bytes written : List Byte} (holds : Holds memory index bytes)
    (apart :
      index + bytes.length ≤ start ∨ start + written.length ≤ index) :
    Holds (after memory (segment start written)) index bytes := by
  apply holds.congr
  intro place low high
  apply after_segment_of_outside
  omega

end SlpClient.Lib.Memory
