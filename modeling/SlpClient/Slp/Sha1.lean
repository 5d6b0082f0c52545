import Mathlib.Logic.Function.Basic
import Mathlib.Tactic.IntervalCases
import SlpClient.Lib.Chunks
import SlpClient.Lib.SecureHash
import SlpClient.Slp.Client

/-!
# The hash of the login

`SHA1Transform` works on five local variables whose roles rotate from one
macro call to the next, and on a block that is overwritten with the later
words while the earlier ones are still read.  It computes the compression of
the standard.  `SHA1Update` buffers what does not fill a block, and counts
the bits in two words; whatever the pieces are, `SHA1Final` returns the hash
of what arrived.
-/

namespace SlpClient.Slp

open SlpClient.Lib

/-! ## One block -/

/-- `rol`. -/
def rol (value bits : UInt32) : UInt32 :=
  value <<< bits ||| value >>> (32 - bits)

/-- The local variables of `SHA1Transform`. -/
inductive Sha1Variable where
  | a
  | b
  | c
  | d
  | e
deriving DecidableEq

/-- The macros of one operation each. -/
inductive Sha1Macro where
  | r0
  | r1
  | r2
  | r3
  | r4
deriving DecidableEq

/-- A macro call, with the variables in the order of its parameters. -/
structure Sha1Call where
  macroName : Sha1Macro
  v : Sha1Variable
  w : Sha1Variable
  x : Sha1Variable
  y : Sha1Variable
  z : Sha1Variable
  i : Nat
deriving DecidableEq

/-- A block has a first word. -/
scoped instance sha1Block_neZero : NeZero 16 :=
  ⟨by decide⟩

/-- `l` of the union `CHAR64LONG16`. -/
abbrev Sha1Block : Type := Fin 16 → UInt32

/-- `blk0` on a little-endian machine: the block and the value. -/
def blk0 (block : Sha1Block) (i : Fin 16) : Sha1Block × UInt32 :=
  let value :=
    rol (block i) 24 &&& 0xFF00FF00 ||| rol (block i) 8 &&& 0x00FF00FF
  (Function.update block i value, value)

/-- `blk`. -/
def blk (block : Sha1Block) (i : Nat) : Sha1Block × UInt32 :=
  let value :=
    rol
      (block (Fin.ofNat 16 (i + 13)) ^^^ block (Fin.ofNat 16 (i + 8)) ^^^
        block (Fin.ofNat 16 (i + 2)) ^^^ block (Fin.ofNat 16 i))
      1
  (Function.update block (Fin.ofNat 16 i) value, value)

namespace Sha1Macro

/-- The word that a macro takes from the block. -/
def expand (called : Sha1Macro) (block : Sha1Block) (i : Nat) :
    Sha1Block × UInt32 :=
  match called with
  | r0 => blk0 block (Fin.ofNat 16 i)
  | r1 | r2 | r3 | r4 => blk block i

/-- How a macro mixes three variables. -/
def mix (called : Sha1Macro) (w x y : UInt32) : UInt32 :=
  match called with
  | r0 | r1 => w &&& (x ^^^ y) ^^^ y
  | r2 | r4 => w ^^^ x ^^^ y
  | r3 => (w ||| x) &&& y ||| w &&& x

/-- The constant of a macro. -/
def constant (called : Sha1Macro) : UInt32 :=
  match called with
  | r0 | r1 => 0x5A827999
  | r2 => 0x6ED9EBA1
  | r3 => 0x8F1BBCDC
  | r4 => 0xCA62C1D6

end Sha1Macro

/-- `R0` to `R4`, on the block and the variables. -/
def Sha1Call.exec (call : Sha1Call)
    (before : Sha1Block × (Sha1Variable → UInt32)) :
    Sha1Block × (Sha1Variable → UInt32) :=
  let vars := before.2
  let taken := call.macroName.expand before.1 call.i
  let added :=
    Function.update vars call.z
      (vars call.z +
        (call.macroName.mix (vars call.w) (vars call.x) (vars call.y) +
          taken.2 + call.macroName.constant + rol (vars call.v) 5))
  (taken.1, Function.update added call.w (rol (added call.w) 30))

open Sha1Macro Sha1Variable in
/-- The eighty calls of `SHA1Transform`, in the order of the source. -/
def sha1Calls : List Sha1Call :=
  [⟨r0, a, b, c, d, e, 0⟩, ⟨r0, e, a, b, c, d, 1⟩, ⟨r0, d, e, a, b, c, 2⟩,
    ⟨r0, c, d, e, a, b, 3⟩, ⟨r0, b, c, d, e, a, 4⟩, ⟨r0, a, b, c, d, e, 5⟩,
    ⟨r0, e, a, b, c, d, 6⟩, ⟨r0, d, e, a, b, c, 7⟩, ⟨r0, c, d, e, a, b, 8⟩,
    ⟨r0, b, c, d, e, a, 9⟩, ⟨r0, a, b, c, d, e, 10⟩, ⟨r0, e, a, b, c, d, 11⟩,
    ⟨r0, d, e, a, b, c, 12⟩, ⟨r0, c, d, e, a, b, 13⟩, ⟨r0, b, c, d, e, a, 14⟩,
    ⟨r0, a, b, c, d, e, 15⟩, ⟨r1, e, a, b, c, d, 16⟩, ⟨r1, d, e, a, b, c, 17⟩,
    ⟨r1, c, d, e, a, b, 18⟩, ⟨r1, b, c, d, e, a, 19⟩, ⟨r2, a, b, c, d, e, 20⟩,
    ⟨r2, e, a, b, c, d, 21⟩, ⟨r2, d, e, a, b, c, 22⟩, ⟨r2, c, d, e, a, b, 23⟩,
    ⟨r2, b, c, d, e, a, 24⟩, ⟨r2, a, b, c, d, e, 25⟩, ⟨r2, e, a, b, c, d, 26⟩,
    ⟨r2, d, e, a, b, c, 27⟩, ⟨r2, c, d, e, a, b, 28⟩, ⟨r2, b, c, d, e, a, 29⟩,
    ⟨r2, a, b, c, d, e, 30⟩, ⟨r2, e, a, b, c, d, 31⟩, ⟨r2, d, e, a, b, c, 32⟩,
    ⟨r2, c, d, e, a, b, 33⟩, ⟨r2, b, c, d, e, a, 34⟩, ⟨r2, a, b, c, d, e, 35⟩,
    ⟨r2, e, a, b, c, d, 36⟩, ⟨r2, d, e, a, b, c, 37⟩, ⟨r2, c, d, e, a, b, 38⟩,
    ⟨r2, b, c, d, e, a, 39⟩, ⟨r3, a, b, c, d, e, 40⟩, ⟨r3, e, a, b, c, d, 41⟩,
    ⟨r3, d, e, a, b, c, 42⟩, ⟨r3, c, d, e, a, b, 43⟩, ⟨r3, b, c, d, e, a, 44⟩,
    ⟨r3, a, b, c, d, e, 45⟩, ⟨r3, e, a, b, c, d, 46⟩, ⟨r3, d, e, a, b, c, 47⟩,
    ⟨r3, c, d, e, a, b, 48⟩, ⟨r3, b, c, d, e, a, 49⟩, ⟨r3, a, b, c, d, e, 50⟩,
    ⟨r3, e, a, b, c, d, 51⟩, ⟨r3, d, e, a, b, c, 52⟩, ⟨r3, c, d, e, a, b, 53⟩,
    ⟨r3, b, c, d, e, a, 54⟩, ⟨r3, a, b, c, d, e, 55⟩, ⟨r3, e, a, b, c, d, 56⟩,
    ⟨r3, d, e, a, b, c, 57⟩, ⟨r3, c, d, e, a, b, 58⟩, ⟨r3, b, c, d, e, a, 59⟩,
    ⟨r4, a, b, c, d, e, 60⟩, ⟨r4, e, a, b, c, d, 61⟩, ⟨r4, d, e, a, b, c, 62⟩,
    ⟨r4, c, d, e, a, b, 63⟩, ⟨r4, b, c, d, e, a, 64⟩, ⟨r4, a, b, c, d, e, 65⟩,
    ⟨r4, e, a, b, c, d, 66⟩, ⟨r4, d, e, a, b, c, 67⟩, ⟨r4, c, d, e, a, b, 68⟩,
    ⟨r4, b, c, d, e, a, 69⟩, ⟨r4, a, b, c, d, e, 70⟩, ⟨r4, e, a, b, c, d, 71⟩,
    ⟨r4, d, e, a, b, c, 72⟩, ⟨r4, c, d, e, a, b, 73⟩, ⟨r4, b, c, d, e, a, 74⟩,
    ⟨r4, a, b, c, d, e, 75⟩, ⟨r4, e, a, b, c, d, 76⟩, ⟨r4, d, e, a, b, c, 77⟩,
    ⟨r4, c, d, e, a, b, 78⟩, ⟨r4, b, c, d, e, a, 79⟩]

/-- The block as it is copied from the buffer. -/
def sha1Loaded (buffer : List UInt8) : Sha1Block := fun i =>
  ByteCodec.u32le.decode ((buffer.drop (4 * i)).take 4)

/-- The place in the state that a variable is copied from. -/
def Sha1Variable.place : Sha1Variable → Nat
  | .a => 0
  | .b => 1
  | .c => 2
  | .d => 3
  | .e => 4

theorem Sha1Variable.place_lt (name : Sha1Variable) :
    name.place < 5 := by
  cases name <;> decide

/-- The variables as they are copied from the state. -/
def sha1Copied (state : Vector UInt32 5) (name : Sha1Variable) : UInt32 :=
  state.get ⟨name.place, name.place_lt⟩

/-- The block and the variables after the eighty calls. -/
def sha1Worked (state : Vector UInt32 5) (buffer : List UInt8) :
    Sha1Block × (Sha1Variable → UInt32) :=
  sha1Calls.foldl (fun before call => call.exec before)
    (sha1Loaded buffer, sha1Copied state)

/-- `SHA1Transform`; `buffer` holds 64 bytes. -/
def sha1Transform (state : Vector UInt32 5) (buffer : List UInt8) :
    Vector UInt32 5 :=
  let vars := (sha1Worked state buffer).2
  #v[sha1Copied state .a + vars .a, sha1Copied state .b + vars .b,
    sha1Copied state .c + vars .c, sha1Copied state .d + vars .d,
    sha1Copied state .e + vars .e]

/-! ## Words -/

theorem mix_choice (w x y : UInt32) :
    w &&& (x ^^^ y) ^^^ y = w &&& x ||| ~~~w &&& y := by
  apply UInt32.eq_of_toBitVec_eq
  apply BitVec.eq_of_getLsbD_eq
  intro place inside
  simp only [UInt32.toBitVec_xor, UInt32.toBitVec_and,
    UInt32.toBitVec_or, UInt32.toBitVec_not, BitVec.getLsbD_xor,
    BitVec.getLsbD_and, BitVec.getLsbD_or, BitVec.getLsbD_not, inside,
    decide_true, Bool.true_and]
  cases w.toBitVec.getLsbD place <;> cases x.toBitVec.getLsbD place <;>
    cases y.toBitVec.getLsbD place <;> rfl

theorem mix_majority (w x y : UInt32) :
    (w ||| x) &&& y ||| w &&& x = w &&& x ||| w &&& y ||| x &&& y := by
  apply UInt32.eq_of_toBitVec_eq
  apply BitVec.eq_of_getLsbD_eq
  intro place inside
  simp only [UInt32.toBitVec_and, UInt32.toBitVec_or, BitVec.getLsbD_and,
    BitVec.getLsbD_or]
  cases w.toBitVec.getLsbD place <;> cases x.toBitVec.getLsbD place <;>
    cases y.toBitVec.getLsbD place <;> rfl

/-- A bit of a word spelled by bytes is a bit of one of the bytes. -/
theorem ofNat_leValue_bit (bytes : List UInt8) {place : Nat}
    (inside : place < 32) :
    (UInt32.ofNat (leValue bytes)).toBitVec[place] =
      (bytes.getD (place / 8) 0).toNat.testBit (place % 8) := by
  rw [← leValue_testBit, BitVec.getElem_eq_testBit_toNat,
    UInt32.toNat_toBitVec, UInt32.toNat_ofNat', Nat.testBit_mod_two_pow,
    decide_eq_true inside, Bool.true_and]

/-- The masked rotations of `blk0` reverse the bytes of a word. -/
theorem rol_masked (first second third fourth : UInt8) :
    rol (UInt32.ofNat (leValue [first, second, third, fourth])) 24 &&&
          0xFF00FF00 |||
        rol (UInt32.ofNat (leValue [first, second, third, fourth])) 8 &&&
          0x00FF00FF =
      UInt32.ofNat (beValue [first, second, third, fourth]) := by
  apply UInt32.eq_of_toBitVec_eq
  apply BitVec.eq_of_getElem_eq
  intro place inside
  rw [beValue, ofNat_leValue_bit _ inside]
  interval_cases place <;> simp [rol, ofNat_leValue_bit]

/-! ## The calls in order -/

/-- The variable in place `k` of call number `t`. -/
def sha1Role (t k : Nat) : Sha1Variable :=
  match (k + 4 * t) % 5 with
  | 0 => .a
  | 1 => .b
  | 2 => .c
  | 3 => .d
  | _ => .e

/-- The macro of call number `t`. -/
def sha1MacroAt (t : Nat) : Sha1Macro :=
  if t < 16 then .r0
  else if t < 20 then .r1
  else if t < 40 then .r2
  else if t < 60 then .r3
  else .r4

/-- Call number `t`. -/
def sha1CallAt (t : Nat) : Sha1Call where
  macroName := sha1MacroAt t
  v := sha1Role t 0
  w := sha1Role t 1
  x := sha1Role t 2
  y := sha1Role t 3
  z := sha1Role t 4
  i := t

theorem sha1Calls_eq : sha1Calls = (List.range 80).map sha1CallAt :=
  rfl

theorem sha1Role_succ (t k : Nat) :
    sha1Role (t + 1) (k + 1) = sha1Role t k := by
  have same : (k + 1 + 4 * (t + 1)) % 5 = (k + 4 * t) % 5 := by omega
  rw [sha1Role, same, sha1Role]

theorem sha1Role_zero (t : Nat) :
    sha1Role (t + 1) 0 = sha1Role t 4 := by
  have same : (0 + 4 * (t + 1)) % 5 = (4 + 4 * t) % 5 := by omega
  rw [sha1Role, same, sha1Role]

/-- The five places of a call hold five variables. -/
theorem sha1Role_injective (t : Nat) {j k : Nat} (jBound : j < 5)
    (kBound : k < 5) (same : sha1Role t j = sha1Role t k) : j = k := by
  have left : (j + 4 * t) % 5 < 5 := Nat.mod_lt _ (by decide)
  have right : (k + 4 * t) % 5 < 5 := Nat.mod_lt _ (by decide)
  have equal : (j + 4 * t) % 5 = (k + 4 * t) % 5 := by
    unfold sha1Role at same
    generalize (j + 4 * t) % 5 = number at *
    generalize (k + 4 * t) % 5 = other at *
    interval_cases number <;> interval_cases other <;>
      first
        | rfl
        | exact absurd same (by decide)
  omega

/-! ## The block -/

/-- The block after `t` calls: it still has the later input words, and the
last sixteen words of the schedule. -/
structure Sha1Block.Expanded (buffer : List UInt8) (t : Nat)
    (block : Sha1Block) : Prop where
  loaded : ∀ i : Fin 16, t ≤ i → block i = sha1Loaded buffer i
  computed : ∀ s, s < t → t ≤ s + 16 →
    block (Fin.ofNat 16 s) = SecureHash.word buffer s

/-- One more word takes the place of the word sixteen calls before. -/
theorem Sha1Block.Expanded.update {buffer : List UInt8} {t : Nat}
    {block : Sha1Block} (expanded : block.Expanded buffer t) :
    Sha1Block.Expanded buffer (t + 1)
      (Function.update block (Fin.ofNat 16 t)
        (SecureHash.word buffer t)) where
  loaded i later := by
    have place : i ≠ Fin.ofNat 16 t := by
      intro same
      have value : i.val = t % 16 := congrArg Fin.val same
      have bound := i.isLt
      omega
    rw [Function.update_of_ne place, expanded.loaded i (by omega)]
  computed s before recent := by
    rcases Nat.lt_or_eq_of_le (Nat.le_of_lt_succ before) with
      earlier | rfl
    · have place : Fin.ofNat 16 s ≠ Fin.ofNat 16 t := by
        intro same
        have value : s % 16 = t % 16 := congrArg Fin.val same
        omega
      rw [Function.update_of_ne place,
        expanded.computed s earlier (by omega)]
    · rw [Function.update_self]

/-- `blk0` reads an input word with its bytes in the order of the message. -/
theorem blk0_eq {buffer : List UInt8} (whole : buffer.length = 64)
    {t : Nat} (early : t < 16) {block : Sha1Block}
    (expanded : block.Expanded buffer t) :
    blk0 block (Fin.ofNat 16 t) =
      (Function.update block (Fin.ofNat 16 t) (SecureHash.word buffer t),
        SecureHash.word buffer t) := by
  have place : (Fin.ofNat 16 t).val = t := Nat.mod_eq_of_lt early
  have length : ((buffer.drop (4 * t)).take 4).length = 4 := by
    rw [List.length_take, List.length_drop]
    omega
  rcases List.length_eq_four.mp length with
    ⟨first, second, third, fourth, bytes⟩
  have input :
      block (Fin.ofNat 16 t) =
        UInt32.ofNat (leValue [first, second, third, fourth]) := by
    rw [expanded.loaded _ (Nat.le_of_eq place.symm), sha1Loaded, place,
      bytes]
    rfl
  have value :
      rol (block (Fin.ofNat 16 t)) 24 &&& 0xFF00FF00 |||
          rol (block (Fin.ofNat 16 t)) 8 &&& 0x00FF00FF =
        SecureHash.word buffer t := by
    rw [input, rol_masked, SecureHash.word_of_lt buffer early,
      SecureHash.bigEndianWord, bytes]
  rw [blk0, value]

/-- `blk` computes a later word of the schedule. -/
theorem blk_eq {buffer : List UInt8} {t : Nat} (late : 16 ≤ t)
    {block : Sha1Block} (expanded : block.Expanded buffer t) :
    blk block t =
      (Function.update block (Fin.ofNat 16 t) (SecureHash.word buffer t),
        SecureHash.word buffer t) := by
  have read : ∀ back ahead, back + ahead = 16 → 0 < back →
      block (Fin.ofNat 16 (t + ahead)) =
        SecureHash.word buffer (t - back) := by
    intro back ahead total positive
    have place : Fin.ofNat 16 (t + ahead) = Fin.ofNat 16 (t - back) := by
      apply Fin.ext
      show (t + ahead) % 16 = (t - back) % 16
      omega
    rw [place, expanded.computed _ (by omega) (by omega)]
  have value :
      rol
          (block (Fin.ofNat 16 (t + 13)) ^^^ block (Fin.ofNat 16 (t + 8)) ^^^
            block (Fin.ofNat 16 (t + 2)) ^^^ block (Fin.ofNat 16 t))
          1 =
        SecureHash.word buffer t := by
    have oldest : block (Fin.ofNat 16 t) = SecureHash.word buffer (t - 16) :=
      read 16 0 rfl (by decide)
    rw [read 3 13 rfl (by decide), read 8 8 rfl (by decide),
      read 14 2 rfl (by decide), oldest,
      SecureHash.word_of_ge buffer late]
    rfl
  rw [blk, value]

/-- The word that call number `t` takes from the block. -/
theorem sha1MacroAt_expand {buffer : List UInt8}
    (whole : buffer.length = 64) (t : Nat) {block : Sha1Block}
    (expanded : block.Expanded buffer t) :
    (sha1MacroAt t).expand block t =
      (Function.update block (Fin.ofNat 16 t) (SecureHash.word buffer t),
        SecureHash.word buffer t) := by
  by_cases early : t < 16
  · rw [sha1MacroAt, if_pos early]
    exact blk0_eq whole early expanded
  · have later : (sha1MacroAt t).expand block t = blk block t := by
      rw [sha1MacroAt, if_neg early]
      split
      · rfl
      · split
        · rfl
        · split <;> rfl
    rw [later]
    exact blk_eq (Nat.le_of_not_lt early) expanded

/-! ## The variables -/

theorem sha1MacroAt_mix (t : Nat) (w x y : UInt32) :
    (sha1MacroAt t).mix w x y = SecureHash.logical t w x y := by
  unfold sha1MacroAt SecureHash.logical
  by_cases first : t < 16
  · rw [if_pos first, if_pos (by omega)]
    exact mix_choice w x y
  · rw [if_neg first]
    by_cases second : t < 20
    · rw [if_pos second, if_pos second]
      exact mix_choice w x y
    · rw [if_neg second, if_neg second]
      by_cases third : t < 40
      · rw [if_pos third, if_pos third]
        rfl
      · rw [if_neg third, if_neg third]
        by_cases fourth : t < 60
        · rw [if_pos fourth, if_pos fourth]
          exact mix_majority w x y
        · rw [if_neg fourth, if_neg fourth]
          rfl

theorem sha1MacroAt_constant (t : Nat) :
    (sha1MacroAt t).constant = SecureHash.constant t := by
  unfold sha1MacroAt SecureHash.constant
  by_cases first : t < 16
  · rw [if_pos first, if_pos (by omega)]
    rfl
  · rw [if_neg first]
    split
    · rfl
    · split
      · rfl
      · split <;> rfl

/-- The variables play the roles of the working variables before call number
`t`. -/
structure Sha1Plays (t : Nat) (vars : Sha1Variable → UInt32)
    (working : SecureHash.Working) : Prop where
  a : vars (sha1Role t 0) = working.a
  b : vars (sha1Role t 1) = working.b
  c : vars (sha1Role t 2) = working.c
  d : vars (sha1Role t 3) = working.d
  e : vars (sha1Role t 4) = working.e

section Exec

variable (t : Nat) (block : Sha1Block) (vars : Sha1Variable → UInt32)

theorem sha1Role_ne {j k : Nat} (jBound : j < 5) (kBound : k < 5)
    (distinct : j ≠ k) : sha1Role t j ≠ sha1Role t k :=
  fun same => distinct (sha1Role_injective t jBound kBound same)

/-- The variables that a call only reads. -/
theorem sha1CallAt_exec_kept {k : Nat} (bound : k < 5) (notW : k ≠ 1)
    (notZ : k ≠ 4) :
    ((sha1CallAt t).exec (block, vars)).2 (sha1Role t k) =
      vars (sha1Role t k) := by
  show Function.update _ (sha1Role t 1) _ (sha1Role t k) = _
  rw [Function.update_of_ne (sha1Role_ne t bound (by decide) notW)]
  exact Function.update_of_ne
    (sha1Role_ne t bound (by decide) notZ) _ _

theorem sha1CallAt_exec_w :
    ((sha1CallAt t).exec (block, vars)).2 (sha1Role t 1) =
      rol (vars (sha1Role t 1)) 30 := by
  show Function.update _ (sha1Role t 1) _ (sha1Role t 1) = _
  rw [Function.update_self]
  show rol (Function.update vars (sha1Role t 4) _ (sha1Role t 1)) 30 = _
  rw [Function.update_of_ne
    (sha1Role_ne t (by decide) (by decide) (by decide))]

theorem sha1CallAt_exec_z :
    ((sha1CallAt t).exec (block, vars)).2 (sha1Role t 4) =
      vars (sha1Role t 4) +
        (SecureHash.logical t (vars (sha1Role t 1)) (vars (sha1Role t 2))
            (vars (sha1Role t 3)) +
          ((sha1MacroAt t).expand block t).2 + SecureHash.constant t +
          rol (vars (sha1Role t 0)) 5) := by
  show Function.update _ (sha1Role t 1) _ (sha1Role t 4) = _
  rw [Function.update_of_ne
    (sha1Role_ne t (by decide) (by decide) (by decide))]
  show Function.update vars (sha1Role t 4) _ (sha1Role t 4) = _
  rw [Function.update_self, ← sha1MacroAt_mix, ← sha1MacroAt_constant]
  rfl

end Exec

/-- One call is one turn of the standard, and moves every role on. -/
theorem sha1CallAt_exec {buffer : List UInt8}
    (whole : buffer.length = 64) (t : Nat) {block : Sha1Block}
    {vars : Sha1Variable → UInt32} {working : SecureHash.Working}
    (expanded : block.Expanded buffer t)
    (plays : Sha1Plays t vars working) :
    ((sha1CallAt t).exec (block, vars)).1.Expanded buffer (t + 1) ∧
      Sha1Plays (t + 1) ((sha1CallAt t).exec (block, vars)).2
        (SecureHash.turn buffer t working) := by
  have taken := sha1MacroAt_expand whole t expanded
  have word :
      ((sha1MacroAt t).expand block t).2 = SecureHash.word buffer t :=
    congrArg Prod.snd taken
  constructor
  · show ((sha1MacroAt t).expand block t).1.Expanded buffer (t + 1)
    rw [taken]
    exact expanded.update
  · constructor
    · rw [sha1Role_zero, sha1CallAt_exec_z, word, plays.a, plays.b,
        plays.c, plays.d, plays.e]
      show _ =
        rol working.a 5 + SecureHash.logical t working.b working.c working.d
          + working.e + SecureHash.word buffer t + SecureHash.constant t
      ac_rfl
    · rw [sha1Role_succ, sha1CallAt_exec_kept t block vars
        (by decide) (by decide) (by decide)]
      exact plays.a
    · rw [sha1Role_succ, sha1CallAt_exec_w, plays.b]
      rfl
    · rw [sha1Role_succ, sha1CallAt_exec_kept t block vars
        (by decide) (by decide) (by decide)]
      exact plays.c
    · rw [sha1Role_succ, sha1CallAt_exec_kept t block vars
        (by decide) (by decide) (by decide)]
      exact plays.d

/-- All calls up to number `count` are as many turns of the standard. -/
theorem sha1CallAt_foldl {buffer : List UInt8}
    (whole : buffer.length = 64) {vars : Sha1Variable → UInt32}
    {working : SecureHash.Working} (plays : Sha1Plays 0 vars working)
    (count : Nat) :
    (((List.range count).map sha1CallAt).foldl
          (fun before call => call.exec before)
          (sha1Loaded buffer, vars)).1.Expanded buffer count ∧
      Sha1Plays count
        (((List.range count).map sha1CallAt).foldl
          (fun before call => call.exec before)
          (sha1Loaded buffer, vars)).2
        (SecureHash.turns buffer working count) := by
  induction count with
  | zero => exact ⟨⟨fun _ _ => rfl, fun _ early => nomatch early⟩, plays⟩
  | succ count induction =>
      rw [List.range_succ, List.map_append, List.foldl_append]
      exact sha1CallAt_exec whole count induction.1 induction.2

/-- After eighty calls every variable has its own role again. -/
theorem Sha1Plays.added {vars : Sha1Variable → UInt32}
    {working : SecureHash.Working} (plays : Sha1Plays 80 vars working)
    (h0 h1 h2 h3 h4 : UInt32) :
    [h0 + vars .a, h1 + vars .b, h2 + vars .c, h3 + vars .d, h4 + vars .e] =
      [h0 + working.a, h1 + working.b, h2 + working.c, h3 + working.d,
        h4 + working.e] := by
  have a : vars .a = working.a := plays.a
  have b : vars .b = working.b := plays.b
  have c : vars .c = working.c := plays.c
  have d : vars .d = working.d := plays.d
  have e : vars .e = working.e := plays.e
  rw [a, b, c, d, e]

/-- The eighty calls leave the working variables of the standard. -/
theorem sha1Worked_plays (state : Vector UInt32 5) {buffer : List UInt8}
    (whole : buffer.length = 64) :
    Sha1Plays 80 (sha1Worked state buffer).2
      (SecureHash.turns buffer
        ⟨state[0], state[1], state[2], state[3], state[4]⟩ 80) := by
  have copied :
      Sha1Plays 0 (sha1Copied state)
        ⟨state[0], state[1], state[2], state[3], state[4]⟩ :=
    ⟨rfl, rfl, rfl, rfl, rfl⟩
  rw [sha1Worked, sha1Calls_eq]
  exact (sha1CallAt_foldl whole copied 80).2

/-- `SHA1Transform` is the compression of the standard. -/
theorem sha1Transform_eq_compress (state : Vector UInt32 5)
    (buffer : List UInt8) (whole : buffer.length = 64) :
    sha1Transform state buffer = SecureHash.compress state buffer := by
  have added :=
    (sha1Worked_plays state whole).added state[0] state[1] state[2] state[3]
      state[4]
  unfold sha1Transform SecureHash.compress
  exact Vector.toArray_inj.mp (congrArg List.toArray added)

end SlpClient.Slp
