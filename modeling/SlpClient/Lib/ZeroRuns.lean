import Mathlib.Data.List.Basic

/-!
# Zero run-length format

A byte string in this format spells another one: a zero byte followed by a
count `c` stands for `c + 1` zero bytes, and every other byte stands for
itself.  `expand` is the reading of the format with no bound on the result; a
lone zero at the end has no reading.
-/

namespace SlpClient.Lib.ZeroRuns

/-- The byte string spelled by `packed`, if it is well formed. -/
def expand : List UInt8 → Option (List UInt8)
  | [] => some []
  | byte :: rest =>
      if byte = 0 then
        match rest with
        | [] => none
        | count :: tail =>
            (expand tail).map (List.replicate (count.toNat + 1) 0 ++ ·)
      else
        (expand rest).map (byte :: ·)

theorem expand_zero_cons (count : UInt8) (tail : List UInt8) :
    expand (0 :: count :: tail) =
      (expand tail).map (List.replicate (count.toNat + 1) 0 ++ ·) := by
  simp [expand]

theorem expand_byte_cons {byte : UInt8} (nonzero : byte ≠ 0)
    (rest : List UInt8) :
    expand (byte :: rest) = (expand rest).map (byte :: ·) := by
  rw [expand.eq_def]
  simp only [nonzero, if_false]

/-- What a well-formed beginning spells comes first. -/
theorem expand_append {front lead : List UInt8}
    (expanded : expand front = some lead) (tail : List UInt8) :
    expand (front ++ tail) = (expand tail).map (lead ++ ·) := by
  fun_induction expand front generalizing lead with
  | case1 =>
      cases expanded
      simp
  | case2 => cases expanded
  | case3 count rest induction =>
      rcases Option.map_eq_some_iff.mp expanded with ⟨body, spelled, rfl⟩
      rw [List.cons_append, List.cons_append, expand_zero_cons,
        induction spelled, Option.map_map]
      congr 1
      funext bytes
      exact (List.append_assoc ..).symm
  | case4 byte rest nonzero induction =>
      rcases Option.map_eq_some_iff.mp expanded with ⟨body, spelled, rfl⟩
      rw [List.cons_append, expand_byte_cons nonzero, induction spelled,
        Option.map_map]
      rfl

/-- Length of the leading run of zeros, at most `limit`, and what follows. -/
def splitZeros : Nat → List UInt8 → Nat × List UInt8
  | limit + 1, byte :: rest =>
      if byte = 0 then
        ((splitZeros limit rest).1 + 1, (splitZeros limit rest).2)
      else
        (0, byte :: rest)
  | _, bytes => (0, bytes)

theorem splitZeros_append (limit : Nat) (bytes : List UInt8) :
    List.replicate (splitZeros limit bytes).1 0 ++
      (splitZeros limit bytes).2 = bytes := by
  induction limit generalizing bytes with
  | zero => simp [splitZeros]
  | succ limit induction =>
      cases bytes with
      | nil => simp [splitZeros]
      | cons byte rest =>
          by_cases zero : byte = 0
          · simp [splitZeros, zero, List.replicate_succ, induction]
          · simp [splitZeros, zero]

theorem splitZeros_le (limit : Nat) (bytes : List UInt8) :
    (splitZeros limit bytes).1 ≤ limit := by
  induction limit generalizing bytes with
  | zero => simp [splitZeros]
  | succ limit induction =>
      cases bytes with
      | nil => simp [splitZeros]
      | cons byte rest =>
          by_cases zero : byte = 0
          · simpa [splitZeros, zero] using induction rest
          · simp [splitZeros, zero]

theorem splitZeros_length_le (limit : Nat) (bytes : List UInt8) :
    (splitZeros limit bytes).2.length ≤ bytes.length := by
  have lengths := congrArg List.length (splitZeros_append limit bytes)
  rw [List.length_append] at lengths
  omega

end SlpClient.Lib.ZeroRuns
