import Mathlib.Data.Fintype.Pi
import Mathlib.Data.List.OfFn
import Mathlib.Logic.Equiv.Basic

/-!
# Fixed-size byte codecs

A `ByteCodec` is a bijection between a type and the byte strings of one fixed
length.  It is the meaning of a plain C structure: reading the structure out
of a buffer is `decode`, copying it into a buffer is `encode`.  Codecs of
structures are assembled from unsigned integers, arrays and products, so that
their laws never have to be proved again.
-/

namespace SlpClient.Lib

/-! ## Positional bytes -/

/-- The `width` low bytes of a number, least significant first. -/
def leBytes : Nat → Nat → List UInt8
  | 0, _ => []
  | width + 1, value => UInt8.ofNat value :: leBytes width (value / 256)

/-- The number spelled by bytes, least significant first. -/
def leValue : List UInt8 → Nat
  | [] => 0
  | byte :: rest => byte.toNat + 256 * leValue rest

/-- The `width` low bytes of a number, most significant first. -/
def beBytes (width value : Nat) : List UInt8 :=
  (leBytes width value).reverse

/-- The number spelled by bytes, most significant first. -/
def beValue (bytes : List UInt8) : Nat :=
  leValue bytes.reverse

@[simp]
theorem leBytes_length (width value : Nat) :
    (leBytes width value).length = width := by
  induction width generalizing value with
  | zero => rfl
  | succ width induction => simp [leBytes, induction]

@[simp]
theorem beBytes_length (width value : Nat) :
    (beBytes width value).length = width := by
  simp [beBytes]

theorem leValue_lt (bytes : List UInt8) :
    leValue bytes < 256 ^ bytes.length := by
  induction bytes with
  | nil => simp [leValue]
  | cons byte rest induction =>
      have byteLt : byte.toNat < 256 := byte.toNat_lt
      simp only [leValue, List.length_cons, Nat.pow_succ]
      omega

theorem leValue_leBytes (width value : Nat) :
    leValue (leBytes width value) = value % 256 ^ width := by
  induction width generalizing value with
  | zero => simp [leBytes, leValue, Nat.mod_one]
  | succ width induction =>
      have low : (UInt8.ofNat value).toNat = value % 256 := by simp
      rw [leBytes, leValue, induction, low, Nat.pow_succ',
        Nat.mod_mul]

theorem leBytes_leValue (bytes : List UInt8) :
    leBytes bytes.length (leValue bytes) = bytes := by
  induction bytes with
  | nil => rfl
  | cons byte rest induction =>
      have byteLt : byte.toNat < 256 := byte.toNat_lt
      have low : UInt8.ofNat (byte.toNat + 256 * leValue rest) = byte := by
        apply UInt8.toNat_inj.mp
        simp only [UInt8.toNat_ofNat']
        omega
      have high :
          (byte.toNat + 256 * leValue rest) / 256 = leValue rest := by
        omega
      simp only [List.length_cons, leBytes, leValue, low, high, induction]

/-- The low bytes, then the bytes above them. -/
theorem leBytes_add (first second value : Nat) :
    leBytes (first + second) value =
      leBytes first value ++ leBytes second (value / 256 ^ first) := by
  induction first generalizing value with
  | zero => simp [leBytes]
  | succ first induction =>
      rw [Nat.succ_add, leBytes, leBytes, induction, List.cons_append,
        Nat.pow_succ', Nat.div_div_eq_div_mul]

/-- Only the low bytes of a number are spelled. -/
theorem leBytes_mod (width value : Nat) :
    leBytes width (value % 256 ^ width) = leBytes width value := by
  have spelled := leBytes_leValue (leBytes width value)
  rw [leValue_leBytes, leBytes_length] at spelled
  exact spelled

theorem beValue_beBytes (width value : Nat) :
    beValue (beBytes width value) = value % 256 ^ width := by
  simp [beValue, beBytes, leValue_leBytes]

/-- A bit of a number spelled by bytes is a bit of one of the bytes. -/
theorem leValue_testBit (bytes : List UInt8) (place : Nat) :
    (leValue bytes).testBit place =
      (bytes.getD (place / 8) 0).toNat.testBit (place % 8) := by
  induction bytes generalizing place with
  | nil => simp [leValue]
  | cons byte rest induction =>
      have byteLt : byte.toNat < 2 ^ 8 := byte.toNat_lt
      rw [leValue, Nat.add_comm, show 256 = 2 ^ 8 from rfl,
        Nat.testBit_two_pow_mul_add _ byteLt]
      split
      next low =>
        rw [Nat.div_eq_of_lt low, Nat.mod_eq_of_lt low, List.getD_cons_zero]
      next high =>
        have next : place / 8 = (place - 8) / 8 + 1 := by omega
        have same : place % 8 = (place - 8) % 8 := by omega
        rw [induction, next, same, List.getD_cons_succ]

/-- Two bytes shifted together are a number with the first one on top. -/
theorem shiftLeft_or_toNat (high low : UInt8) :
    ((high.toUInt32 <<< 8) ||| low.toUInt32).toNat =
      high.toNat * 256 + low.toNat := by
  have highBound := high.toNat_lt
  have lowBound := low.toNat_lt
  have shifted : (high.toUInt32 <<< 8).toNat = high.toNat <<< 8 := by
    rw [UInt32.toNat_shiftLeft, UInt8.toNat_toUInt32]
    apply Nat.mod_eq_of_lt
    rw [show (8 : UInt32).toNat % 32 = 8 from rfl, Nat.shiftLeft_eq]
    omega
  rw [UInt32.toNat_or, shifted, UInt8.toNat_toUInt32,
    ← Nat.shiftLeft_add_eq_or_of_lt lowBound, Nat.shiftLeft_eq]

/-! ## Codecs -/

/-- A bijection between `α` and the byte strings of length `size`. -/
structure ByteCodec (α : Type) where
  size : Nat
  encode : α → List UInt8
  decode : List UInt8 → α
  encode_length : ∀ value, (encode value).length = size
  decode_encode : ∀ value, decode (encode value) = value
  encode_decode :
    ∀ bytes, bytes.length = size → encode (decode bytes) = bytes

namespace ByteCodec

variable {α β : Type}

attribute [simp] encode_length decode_encode

/-- One byte. -/
def u8 : ByteCodec UInt8 where
  size := 1
  encode byte := [byte]
  decode bytes := bytes.headD 0
  encode_length _ := rfl
  decode_encode _ := rfl
  encode_decode bytes single := by
    rcases List.length_eq_one_iff.mp single with ⟨byte, rfl⟩
    rfl

/-- A machine word of `width` bytes, least significant byte first. -/
def word
    (width : Nat) (toNat : α → Nat) (ofNat : Nat → α)
    (toNat_lt : ∀ value, toNat value < 256 ^ width)
    (ofNat_toNat : ∀ value, ofNat (toNat value) = value)
    (toNat_ofNat : ∀ number, number < 256 ^ width →
      toNat (ofNat number) = number) :
    ByteCodec α where
  size := width
  encode value := leBytes width (toNat value)
  decode bytes := ofNat (leValue bytes)
  encode_length _ := leBytes_length _ _
  decode_encode value := by
    rw [leValue_leBytes, Nat.mod_eq_of_lt (toNat_lt value), ofNat_toNat]
  encode_decode bytes length := by
    have bound := leValue_lt bytes
    rw [length] at bound
    rw [toNat_ofNat _ bound, ← length, leBytes_leValue]

/-- A 16-bit word, least significant byte first. -/
def u16le : ByteCodec UInt16 :=
  word 2 UInt16.toNat UInt16.ofNat
    (fun value => value.toNat_lt)
    (fun _ => UInt16.ofNat_toNat)
    (fun _ bound => UInt16.toNat_ofNat_of_lt' bound)

/-- A 32-bit word, least significant byte first. -/
def u32le : ByteCodec UInt32 :=
  word 4 UInt32.toNat UInt32.ofNat
    (fun value => value.toNat_lt)
    (fun _ => UInt32.ofNat_toNat)
    (fun _ bound => UInt32.toNat_ofNat_of_lt' bound)

/-- A 64-bit word, least significant byte first. -/
def u64le : ByteCodec UInt64 :=
  word 8 UInt64.toNat UInt64.ofNat
    (fun value => value.toNat_lt)
    (fun _ => UInt64.ofNat_toNat)
    (fun _ bound => UInt64.toNat_ofNat_of_lt' bound)

/-- One value after another. -/
def prod (first : ByteCodec α) (second : ByteCodec β) :
    ByteCodec (α × β) where
  size := first.size + second.size
  encode pair := first.encode pair.1 ++ second.encode pair.2
  decode bytes :=
    (first.decode (bytes.take first.size),
      second.decode (bytes.drop first.size))
  encode_length pair := by simp
  decode_encode pair := by
    have length := first.encode_length pair.1
    rw [List.take_left' length, List.drop_left' length]
    simp
  encode_decode bytes length := by
    have firstLength : (bytes.take first.size).length = first.size := by
      simp [length]
    have secondLength :
        (bytes.drop first.size).length = second.size := by
      simp [length]
    rw [first.encode_decode _ firstLength,
      second.encode_decode _ secondLength, List.take_append_drop]

/-- A codec transported along a bijection of the values. -/
def ofEquiv (codec : ByteCodec α) (equiv : β ≃ α) : ByteCodec β where
  size := codec.size
  encode value := codec.encode (equiv value)
  decode bytes := equiv.symm (codec.decode bytes)
  encode_length value := by simp
  decode_encode value := by simp
  encode_decode bytes length := by
    simp [codec.encode_decode bytes length]

@[simp]
theorem u8_size : u8.size = 1 :=
  rfl

@[simp]
theorem u16le_size : u16le.size = 2 :=
  rfl

@[simp]
theorem u32le_size : u32le.size = 4 :=
  rfl

@[simp]
theorem u64le_size : u64le.size = 8 :=
  rfl

@[simp]
theorem prod_size (first : ByteCodec α) (second : ByteCodec β) :
    (first.prod second).size = first.size + second.size :=
  rfl

@[simp]
theorem ofEquiv_size (codec : ByteCodec α) (equiv : β ≃ α) :
    (codec.ofEquiv equiv).size = codec.size :=
  rfl

/-- The array with no entries occupies no bytes. -/
private def emptyArray : ByteCodec (Fin 0 → α) where
  size := 0
  encode _ := []
  decode _ := Fin.elim0
  encode_length _ := rfl
  decode_encode _ := Subsingleton.elim _ _
  encode_decode bytes length := by
    rw [List.length_eq_zero_iff.mp length]

/-- An array of `count` values, entry zero first. -/
def array (codec : ByteCodec α) : (count : Nat) → ByteCodec (Fin count → α)
  | 0 => emptyArray
  | count + 1 =>
      (codec.prod (codec.array count)).ofEquiv
        (Fin.consEquiv (fun _ => α)).symm

@[simp]
theorem array_size (codec : ByteCodec α) (count : Nat) :
    (codec.array count).size = count * codec.size := by
  induction count with
  | zero => simp [array, emptyArray]
  | succ count induction =>
      rw [array, ofEquiv_size, prod_size, induction, Nat.add_one_mul,
        Nat.add_comm]

end ByteCodec

end SlpClient.Lib
