import SlpClient.Lib.BlockHash
import SlpClient.Lib.ByteCodec

/-!
# SHA-1

The secure hash of FIPS PUB 180-1 on byte strings: the padding, the eighty
words computed from a block of sixteen, the eighty turns over five working
variables, and the digest of five words.
-/

namespace SlpClient.Lib.SecureHash

/-- The working variables. -/
@[ext]
structure Working where
  a : UInt32
  b : UInt32
  c : UInt32
  d : UInt32
  e : UInt32

/-- `S^n`, the circular left shift. -/
def shift (amount word : UInt32) : UInt32 :=
  word <<< amount ||| word >>> (32 - amount)

/-- `f(t; B, C, D)`. -/
def logical (t : Nat) (b c d : UInt32) : UInt32 :=
  if t < 20 then b &&& c ||| ~~~b &&& d
  else if t < 40 then b ^^^ c ^^^ d
  else if t < 60 then b &&& c ||| b &&& d ||| c &&& d
  else b ^^^ c ^^^ d

/-- `K(t)`. -/
def constant (t : Nat) : UInt32 :=
  if t < 20 then 0x5A827999
  else if t < 40 then 0x6ED9EBA1
  else if t < 60 then 0x8F1BBCDC
  else 0xCA62C1D6

/-- Word number `t` of a string, most significant byte first. -/
def bigEndianWord (bytes : List UInt8) (t : Nat) : UInt32 :=
  UInt32.ofNat (beValue ((bytes.drop (4 * t)).take 4))

/-- `W(t)`. -/
def word (block : List UInt8) (t : Nat) : UInt32 :=
  if t < 16 then bigEndianWord block t
  else
    shift 1
      (word block (t - 3) ^^^ word block (t - 8) ^^^ word block (t - 14) ^^^
        word block (t - 16))

/-- One turn over the working variables. -/
def turn (block : List UInt8) (t : Nat) (working : Working) : Working where
  a :=
    shift 5 working.a + logical t working.b working.c working.d +
      working.e + word block t + constant t
  b := working.a
  c := shift 30 working.b
  d := working.c
  e := working.d

/-- The first `count` turns. -/
def turns (block : List UInt8) (working : Working) : Nat → Working
  | 0 => working
  | count + 1 => turn block count (turns block working count)

/-- `H(0)` to `H(4)` after a block of 64 bytes. -/
def compress (state : Vector UInt32 5) (block : List UInt8) :
    Vector UInt32 5 :=
  let last :=
    turns block ⟨state[0], state[1], state[2], state[3], state[4]⟩ 80
  #v[state[0] + last.a, state[1] + last.b, state[2] + last.c,
    state[3] + last.d, state[4] + last.e]

/-- `H(0)` to `H(4)` before the first block. -/
def initial : Vector UInt32 5 :=
  #v[0x67452301, 0xEFCDAB89, 0x98BADCFE, 0x10325476, 0xC3D2E1F0]

/-- How many zero bytes fill the last block up to the length field. -/
def zeroCount (length : Nat) : Nat :=
  (119 - length % 64) % 64

/-- A one bit, zero bits, and the number of bits of the message. -/
def padding (length : Nat) : List UInt8 :=
  0x80 :: List.replicate (zeroCount length) 0 ++ beBytes 8 (8 * length)

/-- Five words, most significant byte first. -/
def digest (state : Vector UInt32 5) : List UInt8 :=
  state.toList.flatMap fun word => beBytes 4 word.toNat

/-- The digest of a message. -/
def hash (message : List UInt8) : List UInt8 :=
  digest (absorb 64 compress initial (message ++ padding message.length))

/-! ## Lengths -/

@[simp]
theorem digest_length (state : Vector UInt32 5) :
    (digest state).length = 20 := by
  simp [digest]

@[simp]
theorem hash_length (message : List UInt8) : (hash message).length = 20 :=
  digest_length _

/-! ## The words of a block -/

theorem word_of_lt (block : List UInt8) {t : Nat} (early : t < 16) :
    word block t = bigEndianWord block t := by
  rw [word, if_pos early]

theorem word_of_ge (block : List UInt8) {t : Nat} (late : 16 ≤ t) :
    word block t =
      shift 1
        (word block (t - 3) ^^^ word block (t - 8) ^^^
          word block (t - 14) ^^^ word block (t - 16)) := by
  rw [word, if_neg (Nat.not_lt.mpr late)]

end SlpClient.Lib.SecureHash
