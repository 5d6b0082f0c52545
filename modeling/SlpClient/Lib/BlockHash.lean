import Mathlib.Data.List.Basic

/-!
# Functions that absorb a string block by block

A compression function takes a state and a block of `size` entries to a new
state.  Absorbing a string feeds it every whole block in turn; what is left
at the end is shorter than a block.  A string that arrives in pieces is
absorbed by keeping the left-over of each piece for the next one, whatever
the pieces are.
-/

namespace SlpClient.Lib

variable {α σ : Type} (size : Nat) (compress : σ → List α → σ)

/-- The state after the first `count` blocks. -/
def absorbBlocks : Nat → σ → List α → σ
  | 0, state, _ => state
  | count + 1, state, entries =>
      absorbBlocks count (compress state (entries.take size))
        (entries.drop size)

/-- The state after all whole blocks. -/
def absorb (state : σ) (entries : List α) : σ :=
  absorbBlocks size compress (entries.length / size) state entries

/-- What is left after the whole blocks. -/
def leftOver (entries : List α) : List α :=
  entries.drop (entries.length / size * size)

/-! ## One block at a time -/

section OneBlock

variable {size} {compress}

theorem leftOver_length (entries : List α) :
    (leftOver size entries).length = entries.length % size := by
  have split := Nat.div_add_mod' entries.length size
  rw [leftOver, List.length_drop]
  omega

theorem absorb_of_short (state : σ) {entries : List α}
    (short : entries.length < size) :
    absorb size compress state entries = state := by
  rw [absorb, Nat.div_eq_of_lt short, absorbBlocks]

theorem leftOver_of_short {entries : List α}
    (short : entries.length < size) : leftOver size entries = entries := by
  rw [leftOver, Nat.div_eq_of_lt short, Nat.zero_mul, List.drop_zero]

theorem absorb_block (positive : 0 < size) (state : σ) {block : List α}
    (whole : block.length = size) (entries : List α) :
    absorb size compress state (block ++ entries) =
      absorb size compress (compress state block) entries := by
  have count :
      (block ++ entries).length / size = entries.length / size + 1 := by
    rw [List.length_append, whole, Nat.add_comm,
      Nat.add_div_right _ positive]
  rw [absorb, count, absorbBlocks, List.take_left' whole,
    List.drop_left' whole, absorb]

theorem leftOver_block (positive : 0 < size) {block : List α}
    (whole : block.length = size) (entries : List α) :
    leftOver size (block ++ entries) = leftOver size entries := by
  have count :
      (block ++ entries).length / size * size =
        block.length + entries.length / size * size := by
    rw [List.length_append, whole, Nat.add_comm,
      Nat.add_div_right _ positive, Nat.succ_mul, Nat.add_comm]
  rw [leftOver, count, ← List.drop_drop, List.drop_left, leftOver]

/-- A string is short, or begins with a block. -/
theorem block_induction (positive : 0 < size) {motive : List α → Prop}
    (short : ∀ entries, entries.length < size → motive entries)
    (block : ∀ block entries, block.length = size → motive entries →
      motive (block ++ entries))
    (entries : List α) : motive entries := by
  induction counted : entries.length using Nat.strongRecOn
    generalizing entries with
  | ind length induction =>
      by_cases few : entries.length < size
      · exact short entries few
      · have cut :
            (entries.take size).length = size :=
          List.length_take_of_le (Nat.le_of_not_lt few)
        rw [← List.take_append_drop size entries]
        apply block _ _ cut
        apply induction (entries.drop size).length _ _ rfl
        rw [List.length_drop]
        omega

/-- Absorbing a string that arrives in two pieces. -/
theorem absorb_append (positive : 0 < size) (state : σ)
    (first second : List α) :
    absorb size compress state (first ++ second) =
      absorb size compress (absorb size compress state first)
        (leftOver size first ++ second) := by
  induction first using block_induction positive generalizing state with
  | short first few =>
      rw [absorb_of_short state few, leftOver_of_short few]
  | block block first whole induction =>
      rw [List.append_assoc, absorb_block positive state whole,
        absorb_block positive state whole, leftOver_block positive whole,
        induction]

theorem leftOver_append (positive : 0 < size) (first second : List α) :
    leftOver size (first ++ second) =
      leftOver size (leftOver size first ++ second) := by
  induction first using block_induction positive with
  | short first few => rw [leftOver_of_short few]
  | block block first whole induction =>
      rw [List.append_assoc, leftOver_block positive whole,
        leftOver_block positive whole, induction]

end OneBlock

/-! ## Strings that arrive in pieces -/

/-- The state and the kept entries after `entries` arrived in any pieces. -/
structure Absorbed (initial : σ) (entries : List α) (state : σ)
    (kept : List α) : Prop where
  state_eq : state = absorb size compress initial entries
  kept_eq : kept = leftOver size entries

namespace Absorbed

variable {size} {compress} {initial state : σ} {entries kept : List α}

theorem start (positive : 0 < size) (initial : σ) :
    Absorbed size compress initial [] initial [] where
  state_eq := (absorb_of_short initial positive).symm
  kept_eq := (leftOver_of_short positive).symm

theorem kept_length
    (absorbed : Absorbed size compress initial entries state kept) :
    kept.length = entries.length % size := by
  rw [absorbed.kept_eq, leftOver_length]

/-- One more piece. -/
theorem append (positive : 0 < size)
    (absorbed : Absorbed size compress initial entries state kept)
    (piece : List α) :
    Absorbed size compress initial (entries ++ piece)
      (absorb size compress state (kept ++ piece))
      (leftOver size (kept ++ piece)) where
  state_eq := by
    rw [absorb_append positive initial entries, ← absorbed.state_eq,
      ← absorbed.kept_eq]
  kept_eq := by
    rw [leftOver_append positive entries, ← absorbed.kept_eq]

end Absorbed

end SlpClient.Lib
