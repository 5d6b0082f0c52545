import SlpClient.Slp.Sha1

/-!
# Hashing a message that arrives in pieces

The context of the hash keeps the state, the bytes that do not fill a block,
and the number of bits in two words.  Updating it with any pieces and closing
it gives the hash of what the pieces spell.  Both hashes of the login, the
one of the password and the one of the challenge, are computed this way.
-/

namespace SlpClient.Slp

open SlpClient.Lib

/-! ## The calls of the hash -/

/-- `SHA1_CTX`. -/
structure Sha1Ctx where
  state : Vector UInt32 5
  count0 : UInt32
  count1 : UInt32
  buffer : Fin 64 → UInt8

/-- The constants that `SHA1Init` starts with. -/
def sha1Constants : Array UInt32 :=
  #[0x67452301, 0xEFCDAB89, 0x98BADCFE, 0x10325476, 0xC3D2E1F0]

theorem sha1Constants_size : sha1Constants.size = 5 :=
  rfl

/-- `SHA1Init`; the buffer keeps what was in its memory. -/
def sha1Init (context : Sha1Ctx) : Sha1Ctx :=
  { context with
    state := ⟨sha1Constants, sha1Constants_size⟩
    count0 := 0
    count1 := 0 }

/-- The loop of `SHA1Update` over the blocks that lie whole in the data, with
the state and the place where it ends.  The first argument bounds the number
of turns. -/
def sha1Blocks (data : List UInt8) (len : UInt32) :
    Nat → (Vector UInt32 5) → UInt32 →
      Option ((Vector UInt32 5) × UInt32)
  | 0, _, _ => none
  | turns + 1, state, i =>
      if i + 63 < len then
        sha1Blocks data len turns
          (sha1Transform state ((data.drop i.toNat).take 64)) (i + 64)
      else some (state, i)

/-- `SHA1Update`; the length of the data is passed as 32 bits. -/
def sha1Update (context : Sha1Ctx) (data : List UInt8) : Option Sha1Ctx :=
  let len := UInt32.ofNat data.length
  let count0 := context.count0 + len <<< 3
  let carried :=
    if count0 < context.count0 then context.count1 + 1
    else context.count1
  let count1 := carried + len >>> 29
  let j := context.count0 >>> 3 &&& 63
  if j + len > 63 then
    let filled :=
      blit context.buffer j.toNat (data.take (64 - j).toNat)
    match
      sha1Blocks data len (data.length + 1)
        (sha1Transform context.state (List.ofFn filled)) (64 - j)
    with
    | none => none
    | some (state, i) =>
        some
          { state
            count0
            count1
            buffer :=
              blit filled 0 ((data.drop i.toNat).take (len - i).toNat) }
  else
    some
      { context with
        count0
        count1
        buffer := blit context.buffer j.toNat (data.take len.toNat) }

/-- `finalcount`: the number of bits, most significant byte first. -/
def sha1Finalcount (context : Sha1Ctx) : List UInt8 :=
  [(context.count1 >>> 24).toUInt8, (context.count1 >>> 16).toUInt8,
    (context.count1 >>> 8).toUInt8, (context.count1 >>> 0).toUInt8,
    (context.count0 >>> 24).toUInt8, (context.count0 >>> 16).toUInt8,
    (context.count0 >>> 8).toUInt8, (context.count0 >>> 0).toUInt8]

/-- The loop of `SHA1Final` that adds zero bytes. -/
def sha1Zeros : Nat → Sha1Ctx → Option Sha1Ctx
  | 0, _ => none
  | turns + 1, context =>
      if context.count0 &&& 504 ≠ 448 then
        (sha1Update context [0]).bind (sha1Zeros turns)
      else some context

/-- The digest of a state. -/
def sha1Digest (context : Sha1Ctx) : Digest := fun i =>
  (context.state[i.val / 4] >>>
    UInt32.ofNat ((3 - i % 4) * 8)).toUInt8

/-- `SHA1Final`. -/
def sha1Final (context : Sha1Ctx) : Option Digest :=
  let finalcount := sha1Finalcount context
  (sha1Update context [0x80]).bind fun marked =>
    (sha1Zeros 64 marked).bind fun filled =>
      (sha1Update filled finalcount).map sha1Digest

/-! ## Counting in two words -/

/-- Two words are one number modulo `2 ^ 64`. -/
theorem mod_words {high low : Nat} (bound : low < 2 ^ 32) :
    high % 2 ^ 32 * 2 ^ 32 + low = (high * 2 ^ 32 + low) % 2 ^ 64 := by
  omega

/-- The bits of a length, split as `len << 3` and `len >> 29`. -/
theorem shifted_words (length : Nat) :
    length / 2 ^ 29 * 2 ^ 32 + length * 8 % 2 ^ 32 = 8 * length := by
  have scaled : length * 8 / 2 ^ 32 = length / 2 ^ 29 :=
    Nat.mul_div_mul_right length (2 ^ 29) (by decide)
  rw [← scaled, Nat.div_add_mod', Nat.mul_comm]

/-- Adding a length to a count of bits, word by word with the carry. -/
theorem add_words {low high before length : Nat}
    (counted : high * 2 ^ 32 + low = 8 * before % 2 ^ 64) :
    ((high + (low + length * 8 % 2 ^ 32) / 2 ^ 32) % 2 ^ 32 +
            length / 2 ^ 29) % 2 ^ 32 * 2 ^ 32 +
        (low + length * 8 % 2 ^ 32) % 2 ^ 32 =
      8 * (before + length) % 2 ^ 64 := by
  have words := shifted_words length
  have sum := Nat.div_add_mod' (low + length * 8 % 2 ^ 32) (2 ^ 32)
  have total :
      (high + (low + length * 8 % 2 ^ 32) / 2 ^ 32 + length / 2 ^ 29) *
            2 ^ 32 + (low + length * 8 % 2 ^ 32) % 2 ^ 32 =
        high * 2 ^ 32 + low + 8 * length := by
    calc
      _ = high * 2 ^ 32 + ((low + length * 8 % 2 ^ 32) / 2 ^ 32 * 2 ^ 32 +
            (low + length * 8 % 2 ^ 32) % 2 ^ 32) +
              length / 2 ^ 29 * 2 ^ 32 := by
        rw [Nat.add_mul, Nat.add_mul]
        ac_rfl
      _ = high * 2 ^ 32 + low +
            (length / 2 ^ 29 * 2 ^ 32 + length * 8 % 2 ^ 32) := by
        rw [sum]
        ac_rfl
      _ = high * 2 ^ 32 + low + 8 * length := by rw [words]
  rw [Nat.mod_add_mod, mod_words (Nat.mod_lt _ (by decide)), total,
    counted, Nat.mod_add_mod, Nat.mul_add]

/-! ## What a context holds -/

/-- The bytes of the buffer that wait for the rest of their block. -/
def Sha1Ctx.kept (context : Sha1Ctx) (message : List UInt8) : List UInt8 :=
  (List.ofFn context.buffer).take (message.length % 64)

theorem Sha1Ctx.kept_length (context : Sha1Ctx) (message : List UInt8) :
    (context.kept message).length = message.length % 64 := by
  have place := Nat.mod_lt message.length (show 0 < 64 by decide)
  rw [Sha1Ctx.kept, List.length_take, List.length_ofFn]
  omega

/-- The context after the bytes of a message arrived. -/
structure Sha1Ctx.Holds (context : Sha1Ctx) (message : List UInt8) :
    Prop where
  counted :
    context.count1.toNat * 2 ^ 32 + context.count0.toNat =
      8 * message.length % 2 ^ 64
  absorbed :
    Absorbed 64 SecureHash.compress SecureHash.initial message
      context.state (context.kept message)

/-- The longest piece for which no 32-bit sum wraps. -/
def sha1PieceLimit : Nat := 2 ^ 32 - 64

theorem sha1Init_holds (context : Sha1Ctx) :
    (sha1Init context).Holds [] where
  counted := by
    rw [List.length_nil, Nat.mul_zero, Nat.zero_mod]
    simp [sha1Init]
  absorbed := by
    rw [Sha1Ctx.kept, List.length_nil, Nat.zero_mod, List.take_zero]
    exact Absorbed.start (by decide) SecureHash.initial

/-- The low word of the count, in bits. -/
theorem Sha1Ctx.Holds.count0_toNat {context : Sha1Ctx}
    {message : List UInt8} (holds : context.Holds message) :
    context.count0.toNat = 8 * message.length % 2 ^ 32 := by
  have counted := holds.counted
  have low := context.count0.toNat_lt
  omega

/-- The place in the buffer where the next byte goes. -/
theorem Sha1Ctx.Holds.place {context : Sha1Ctx} {message : List UInt8}
    (holds : context.Holds message) :
    (context.count0 >>> 3 &&& 63).toNat = message.length % 64 := by
  rw [UInt32.toNat_and, UInt32.toNat_shiftRight, holds.count0_toNat]
  show (8 * message.length % 2 ^ 32) >>> 3 &&& 2 ^ 6 - 1 = _
  rw [Nat.and_two_pow_sub_one_eq_mod, Nat.shiftRight_eq_div_pow]
  omega

theorem ofNat_length_toNat {data : List UInt8}
    (short : data.length ≤ sha1PieceLimit) :
    (UInt32.ofNat data.length).toNat = data.length := by
  rw [sha1PieceLimit] at short
  exact UInt32.toNat_ofNat_of_lt' (by
    show data.length < 2 ^ 32
    omega)

/-- The two words count the bits of one more piece, with the carry. -/
theorem Sha1Ctx.Holds.counted_append {context : Sha1Ctx}
    {message data : List UInt8} (holds : context.Holds message)
    (short : data.length ≤ sha1PieceLimit) :
    ((if context.count0 + UInt32.ofNat data.length <<< 3 < context.count0
            then context.count1 + 1 else context.count1) +
          UInt32.ofNat data.length >>> 29).toNat * 2 ^ 32 +
        (context.count0 + UInt32.ofNat data.length <<< 3).toNat =
      8 * (message ++ data).length % 2 ^ 64 := by
  have low := context.count0.toNat_lt
  have high := context.count1.toNat_lt
  have length := ofNat_length_toNat short
  have bits :
      (UInt32.ofNat data.length <<< 3).toNat =
        data.length * 8 % 2 ^ 32 := by
    rw [UInt32.toNat_shiftLeft, length]
    show data.length <<< 3 % 2 ^ 32 = _
    rw [Nat.shiftLeft_eq]
  have top :
      (UInt32.ofNat data.length >>> 29).toNat = data.length / 2 ^ 29 := by
    rw [UInt32.toNat_shiftRight, length]
    show data.length >>> 29 = _
    rw [Nat.shiftRight_eq_div_pow]
  have carry :
      (if context.count0 + UInt32.ofNat data.length <<< 3 < context.count0
          then context.count1 + 1 else context.count1).toNat =
        (context.count1.toNat +
          (context.count0.toNat + data.length * 8 % 2 ^ 32) / 2 ^ 32) %
            2 ^ 32 := by
    split
    next wrapped =>
      rw [UInt32.lt_iff_toNat_lt, UInt32.toNat_add, bits] at wrapped
      rw [UInt32.toNat_add]
      show (context.count1.toNat + 1) % 2 ^ 32 = _
      omega
    next kept =>
      rw [UInt32.lt_iff_toNat_lt, UInt32.toNat_add, bits] at kept
      omega
  rw [UInt32.toNat_add, carry, top, UInt32.toNat_add, bits,
    List.length_append]
  exact add_words holds.counted

/-! ## One piece -/

/-- The loop absorbs the whole blocks from its place on, and stops at what is
left over. -/
theorem sha1Blocks_eq {data : List UInt8}
    (short : data.length ≤ sha1PieceLimit) (turns : Nat)
    (state : Vector UInt32 5) (i : UInt32) (inside : i.toNat ≤ data.length)
    (enough : data.length - i.toNat < turns) :
    ∃ last : UInt32,
      last.toNat ≤ data.length ∧
        data.drop last.toNat = leftOver 64 (data.drop i.toNat) ∧
        sha1Blocks data (UInt32.ofNat data.length) turns state i =
          some
            (absorb 64 SecureHash.compress state (data.drop i.toNat),
              last) := by
  have length := ofNat_length_toNat short
  have limit := short
  rw [sha1PieceLimit] at limit
  have ahead : (i + 63).toNat = i.toNat + 63 := by
    rw [UInt32.toNat_add]
    show (i.toNat + 63) % 2 ^ 32 = _
    omega
  induction turns generalizing state i with
  | zero => exact absurd enough (Nat.not_lt_zero _)
  | succ turns induction =>
      have test :
          i + 63 < UInt32.ofNat data.length ↔
            i.toNat + 63 < data.length := by
        rw [UInt32.lt_iff_toNat_lt, ahead, length]
      by_cases more : i.toNat + 63 < data.length
      · have next : (i + 64).toNat = i.toNat + 64 := by
          rw [UInt32.toNat_add]
          show (i.toNat + 64) % 2 ^ 32 = _
          omega
        have whole : ((data.drop i.toNat).take 64).length = 64 := by
          rw [List.length_take, List.length_drop]
          omega
        have split :
            data.drop i.toNat =
              (data.drop i.toNat).take 64 ++ data.drop (i + 64).toNat := by
          rw [next, ← List.drop_drop, List.take_append_drop]
        have following : (i + 64 + 63).toNat = (i + 64).toNat + 63 := by
          rw [UInt32.toNat_add, next]
          show (i.toNat + 64 + 63) % 2 ^ 32 = _
          omega
        rcases induction
            (sha1Transform state ((data.drop i.toNat).take 64)) (i + 64)
            (by omega) (by omega) following with
          ⟨last, bound, rest, looped⟩
        refine ⟨last, bound, ?_, ?_⟩
        · rw [rest, split, leftOver_block (by decide) whole]
        · rw [sha1Blocks, if_pos (test.mpr more), looped, split,
            absorb_block (by decide) state whole, ← split,
            sha1Transform_eq_compress state _ whole]
      · have few : (data.drop i.toNat).length < 64 := by
          rw [List.length_drop]
          omega
        refine ⟨i, inside, (leftOver_of_short few).symm, ?_⟩
        rw [sha1Blocks, if_neg (fun reached => more (test.mp reached)),
          absorb_of_short state few]

section Update

variable {context : Sha1Ctx} {message data : List UInt8}

/-- The buffer with the start of a piece, when that fills the block. -/
theorem Sha1Ctx.filled_eq (context : Sha1Ctx) (message : List UInt8)
    (reached : 64 ≤ message.length % 64 + data.length) :
    List.ofFn
        (blit context.buffer (message.length % 64)
          (data.take (64 - message.length % 64))) =
      context.kept message ++ data.take (64 - message.length % 64) := by
  have place := Nat.mod_lt message.length (show 0 < 64 by decide)
  have size :
      message.length % 64 +
          (data.take (64 - message.length % 64)).length = 64 := by
    rw [List.length_take]
    omega
  rw [Sha1Ctx.kept, ← take_ofFn_blit context.buffer (Nat.le_of_eq size),
    size]
  exact (List.take_of_length_le (Nat.le_of_eq List.length_ofFn)).symm

/-- A piece that does not reach the end of the block stays in the buffer. -/
theorem Sha1Ctx.Holds.append_short (holds : context.Holds message)
    (few : message.length % 64 + data.length < 64) {count0 count1 : UInt32}
    (counted :
      count1.toNat * 2 ^ 32 + count0.toNat =
        8 * (message ++ data).length % 2 ^ 64) :
    Sha1Ctx.Holds
      { context with
        count0
        count1
        buffer := blit context.buffer (message.length % 64) data }
      (message ++ data) where
  counted := counted
  absorbed := by
    have length := context.kept_length message
    have total :
        (message ++ data).length % 64 =
          message.length % 64 + data.length := by
      rw [List.length_append]
      omega
    have whole : (context.kept message ++ data).length < 64 := by
      rw [List.length_append, length]
      exact few
    have appended := holds.absorbed.append (by decide) data
    rw [absorb_of_short _ whole,
      leftOver_of_short whole] at appended
    rw [Sha1Ctx.kept, total,
      take_ofFn_blit context.buffer (Nat.le_of_lt few)]
    exact appended

/-- A piece that fills the block of the buffer is absorbed up to what is left
over. -/
theorem Sha1Ctx.Holds.append_long (holds : context.Holds message)
    (reached : 64 ≤ message.length % 64 + data.length)
    {count0 count1 : UInt32}
    (counted :
      count1.toNat * 2 ^ 32 + count0.toNat =
        8 * (message ++ data).length % 2 ^ 64)
    (filled : Fin 64 → UInt8) :
    Sha1Ctx.Holds
      { state :=
          absorb 64 SecureHash.compress
            (SecureHash.compress context.state
              (context.kept message ++ data.take (64 - message.length % 64)))
            (data.drop (64 - message.length % 64))
        count0
        count1
        buffer :=
          blit filled 0
            (leftOver 64 (data.drop (64 - message.length % 64))) }
      (message ++ data) where
  counted := counted
  absorbed := by
    have place := Nat.mod_lt message.length (show 0 < 64 by decide)
    have length := context.kept_length message
    have whole :
        (context.kept message ++
          data.take (64 - message.length % 64)).length = 64 := by
      rw [List.length_append, length, List.length_take]
      omega
    have cut :
        context.kept message ++ data =
          (context.kept message ++ data.take (64 - message.length % 64)) ++
            data.drop (64 - message.length % 64) := by
      rw [List.append_assoc, List.take_append_drop]
    have rest :
        (leftOver 64 (data.drop (64 - message.length % 64))).length =
          (message ++ data).length % 64 := by
      rw [leftOver_length, List.length_drop, List.length_append]
      omega
    have fits :
        0 + (leftOver 64 (data.drop (64 - message.length % 64))).length ≤
          64 := by
      omega
    have copied := take_ofFn_blit filled fits
    rw [Nat.zero_add, List.take_zero, List.nil_append, rest] at copied
    have appended := holds.absorbed.append (by decide) data
    rw [cut, absorb_block (by decide) _ whole,
      leftOver_block (by decide) whole] at appended
    simp only [Sha1Ctx.kept] at appended ⊢
    rw [copied]
    exact appended

/-- `SHA1Update` takes in any piece. -/
theorem sha1Update_holds (holds : context.Holds message)
    (short : data.length ≤ sha1PieceLimit) :
    ∃ next, sha1Update context data = some next ∧
      next.Holds (message ++ data) := by
  have place := Nat.mod_lt message.length (show 0 < 64 by decide)
  have length := ofNat_length_toNat short
  have counted := holds.counted_append short
  have limit := short
  rw [sha1PieceLimit] at limit
  have sum :
      ((context.count0 >>> 3 &&& 63) + UInt32.ofNat data.length).toNat =
        message.length % 64 + data.length := by
    rw [UInt32.toNat_add, holds.place, length]
    exact Nat.mod_eq_of_lt (by omega)
  have start :
      ((64 : UInt32) - (context.count0 >>> 3 &&& 63)).toNat =
        64 - message.length % 64 := by
    rw [UInt32.toNat_sub_of_le, holds.place]
    · rfl
    · rw [UInt32.le_iff_toNat_le, holds.place]
      exact Nat.le_of_lt place
  by_cases reached : 64 ≤ message.length % 64 + data.length
  · have test :
        (context.count0 >>> 3 &&& 63) + UInt32.ofNat data.length > 63 := by
      rw [gt_iff_lt, UInt32.lt_iff_toNat_lt, sum]
      exact reached
    rcases sha1Blocks_eq short (data.length + 1)
        (SecureHash.compress context.state
          (context.kept message ++ data.take (64 - message.length % 64)))
        ((64 : UInt32) - (context.count0 >>> 3 &&& 63)) (by omega)
        (by omega) with
      ⟨last, bound, rest, looped⟩
    have left : (UInt32.ofNat data.length - last).toNat =
        data.length - last.toNat := by
      rw [UInt32.toNat_sub_of_le, length]
      rw [UInt32.le_iff_toNat_le, length]
      exact bound
    have copied :
        (data.drop last.toNat).take (data.length - last.toNat) =
          leftOver 64 (data.drop (64 - message.length % 64)) := by
      rw [List.take_of_length_le (by rw [List.length_drop]), rest, start]
    have whole :
        (context.kept message ++
          data.take (64 - message.length % 64)).length = 64 := by
      rw [List.length_append, context.kept_length, List.length_take]
      omega
    refine ⟨_, ?_, holds.append_long reached counted
      (blit context.buffer (message.length % 64)
        (data.take (64 - message.length % 64)))⟩
    simp only [sha1Update]
    rw [if_pos test]
    simp only [holds.place, start, context.filled_eq message reached,
      sha1Transform_eq_compress _ _ whole, looped, left, copied]
  · have few : message.length % 64 + data.length < 64 := by omega
    have test :
        ¬ (context.count0 >>> 3 &&& 63) + UInt32.ofNat data.length > 63 := by
      rw [gt_iff_lt, UInt32.lt_iff_toNat_lt, sum]
      exact Nat.not_lt.mpr (Nat.le_of_lt_succ few)
    refine ⟨_, ?_, holds.append_short few counted⟩
    simp only [sha1Update]
    rw [if_neg test, holds.place, length, List.take_length]

end Update

/-! ## Closing the hash -/

/-- The bytes of a word, most significant first. -/
theorem beBytes_word (word : UInt32) :
    beBytes 4 word.toNat =
      [(word >>> 24).toUInt8, (word >>> 16).toUInt8, (word >>> 8).toUInt8,
        (word >>> 0).toUInt8] := by
  have byte : ∀ place : UInt32, place.toNat < 32 →
      (word >>> place).toUInt8 =
        UInt8.ofNat (word.toNat / 2 ^ place.toNat) := by
    intro place bound
    apply UInt8.toNat_inj.mp
    rw [UInt32.toNat_toUInt8, UInt32.toNat_shiftRight,
      Nat.mod_eq_of_lt bound, Nat.shiftRight_eq_div_pow,
      UInt8.toNat_ofNat']
  rw [byte 24 (by decide), byte 16 (by decide), byte 8 (by decide),
    byte 0 (by decide)]
  simp [beBytes, leBytes, Nat.div_div_eq_div_mul]

/-- The count of bits is spelled in eight bytes. -/
theorem sha1Finalcount_eq {context : Sha1Ctx} {message : List UInt8}
    (holds : context.Holds message) :
    sha1Finalcount context = beBytes 8 (8 * message.length) := by
  have low := context.count0.toNat_lt
  have high :
      8 * message.length % 256 ^ 8 / 256 ^ 4 = context.count1.toNat := by
    show 8 * message.length % 2 ^ 64 / 2 ^ 32 = _
    rw [← holds.counted]
    omega
  have rest :
      8 * message.length % 256 ^ 8 % 256 ^ 4 = context.count0.toNat := by
    show 8 * message.length % 2 ^ 64 % 2 ^ 32 = _
    rw [← holds.counted]
    omega
  have words :
      sha1Finalcount context =
        beBytes 4 context.count1.toNat ++
          beBytes 4 context.count0.toNat := by
    rw [beBytes_word, beBytes_word]
    rfl
  rw [words, beBytes, beBytes, beBytes, ← List.reverse_append,
    ← leBytes_mod 8, leBytes_add 4 4, high, ← leBytes_mod 4 (_ % _), rest]

/-- The mask of the loop looks at the place in the last block. -/
theorem Sha1Ctx.Holds.masked {context : Sha1Ctx} {message : List UInt8}
    (holds : context.Holds message) :
    context.count0 &&& 504 = 448 ↔ message.length % 64 = 56 := by
  have value :
      (context.count0 &&& 504).toNat = message.length % 64 * 8 := by
    have bits : 8 * message.length % 2 ^ 32 =
        (message.length % 2 ^ 29) <<< 3 := by
      rw [Nat.shiftLeft_eq]
      omega
    rw [UInt32.toNat_and, holds.count0_toNat, bits]
    show _ &&& (2 ^ 6 - 1) <<< 3 = _
    rw [← Nat.shiftLeft_and_distrib, Nat.and_two_pow_sub_one_eq_mod,
      Nat.shiftLeft_eq]
    omega
  rw [← UInt32.toNat_inj, value]
  show message.length % 64 * 8 = 448 ↔ _
  omega

/-- The loop adds the zero bytes up to the length field. -/
theorem sha1Zeros_holds {context : Sha1Ctx} {message : List UInt8}
    (holds : context.Holds message) {zeros turns : Nat}
    (enough : zeros < turns) (few : zeros < 64)
    (closes : (message.length + zeros) % 64 = 56) :
    ∃ next, sha1Zeros turns context = some next ∧
      next.Holds (message ++ List.replicate zeros 0) := by
  induction zeros generalizing context message turns with
  | zero =>
      rcases Nat.exists_eq_succ_of_ne_zero (Nat.ne_of_gt enough) with
        ⟨more, rfl⟩
      refine ⟨context, ?_, ?_⟩
      · rw [sha1Zeros, if_neg]
        exact fun other => other (holds.masked.mpr closes)
      · rw [List.replicate_zero, List.append_nil]
        exact holds
  | succ zeros induction =>
      rcases Nat.exists_eq_succ_of_ne_zero (Nat.ne_of_gt
        (Nat.zero_lt_of_lt enough)) with ⟨more, rfl⟩
      have other : context.count0 &&& 504 ≠ 448 := by
        intro masked
        have there := holds.masked.mp masked
        omega
      rcases sha1Update_holds holds
          (show [(0 : UInt8)].length ≤ sha1PieceLimit by decide) with
        ⟨next, updated, held⟩
      have closer : ((message ++ [0]).length + zeros) % 64 = 56 := by
        rw [List.length_append, List.length_singleton]
        omega
      rcases induction held (Nat.lt_of_succ_lt_succ enough) (by omega)
          closer with
        ⟨last, looped, lastHeld⟩
      refine ⟨last, ?_, ?_⟩
      · rw [sha1Zeros, if_pos other, updated]
        exact looped
      · rw [List.replicate_succ, ← List.singleton_append,
          ← List.append_assoc]
        exact lastHeld

/-- The digest spells the five words of the state. -/
theorem ofFn_sha1Digest (context : Sha1Ctx) :
    List.ofFn (sha1Digest context) = SecureHash.digest context.state := by
  have words :
      context.state.toList =
        [context.state[0], context.state[1], context.state[2],
          context.state[3], context.state[4]] := by
    apply List.ext_getElem
    · rw [Vector.length_toList]
      rfl
    · intro place left right
      have bound : place < 5 := right
      interval_cases place <;> rfl
  rw [SecureHash.digest, words]
  simp only [List.flatMap_cons, List.flatMap_nil, beBytes_word]
  rfl

/-- `SHA1Final` returns the hash of what arrived. -/
theorem sha1Final_holds {context : Sha1Ctx} {message : List UInt8}
    (holds : context.Holds message) :
    ∃ digest, sha1Final context = some digest ∧
      List.ofFn digest = SecureHash.hash message := by
  rcases sha1Update_holds holds
      (show [(0x80 : UInt8)].length ≤ sha1PieceLimit by decide) with
    ⟨marked, first, markedHolds⟩
  have bound : SecureHash.zeroCount message.length < 64 :=
    Nat.mod_lt _ (by decide)
  have closes :
      ((message ++ [0x80]).length + SecureHash.zeroCount message.length) %
        64 = 56 := by
    rw [List.length_append, List.length_singleton, SecureHash.zeroCount]
    omega
  rcases sha1Zeros_holds markedHolds bound bound closes with
    ⟨filled, second, filledHolds⟩
  have short : (sha1Finalcount context).length ≤ sha1PieceLimit :=
    show 8 ≤ sha1PieceLimit by decide
  rcases sha1Update_holds filledHolds short with
    ⟨last, third, lastHolds⟩
  refine ⟨sha1Digest last, ?_, ?_⟩
  · rw [sha1Final, first, Option.bind_some, second, Option.bind_some, third,
      Option.map_some]
  · have whole :
        message ++ [0x80] ++
              List.replicate (SecureHash.zeroCount message.length) 0 ++
            sha1Finalcount context =
          message ++ SecureHash.padding message.length := by
      rw [sha1Finalcount_eq holds, SecureHash.padding]
      simp
    rw [ofFn_sha1Digest, lastHolds.absorbed.state_eq, whole,
      SecureHash.hash]

/-- Any number of pieces, one update each. -/
theorem sha1Update_pieces {context : Sha1Ctx} {message : List UInt8}
    (holds : context.Holds message) {pieces : List (List UInt8)}
    (short : ∀ piece ∈ pieces, piece.length ≤ sha1PieceLimit) :
    ∃ next, pieces.foldlM sha1Update context = some next ∧
      next.Holds (message ++ pieces.flatten) := by
  induction pieces generalizing context message with
  | nil =>
      refine ⟨context, rfl, ?_⟩
      rw [List.flatten_nil, List.append_nil]
      exact holds
  | cons piece pieces induction =>
      rcases sha1Update_holds holds (short piece List.mem_cons_self) with
        ⟨next, updated, nextHolds⟩
      rcases induction nextHolds
          (fun other member => short other (List.mem_cons_of_mem _ member))
        with ⟨last, folded, lastHolds⟩
      refine ⟨last, ?_, ?_⟩
      · rw [List.foldlM_cons, updated]
        exact folded
      · rw [List.flatten_cons, ← List.append_assoc]
        exact lastHolds

/-- The calls of the hash never loop, and give the hash of the message in
whatever pieces it arrives and whatever the memory held before. -/
theorem sha1_pieces (context : Sha1Ctx) (pieces : List (List UInt8))
    (short : ∀ piece ∈ pieces, piece.length ≤ sha1PieceLimit) :
    (pieces.foldlM sha1Update (sha1Init context) >>= sha1Final).map
        List.ofFn =
      some (SecureHash.hash pieces.flatten) := by
  rcases sha1Update_pieces (sha1Init_holds context) short with
    ⟨last, updated, holds⟩
  rcases sha1Final_holds holds with ⟨digest, closed, spelled⟩
  rw [updated]
  show (sha1Final last).map List.ofFn = _
  rw [closed, Option.map_some, spelled, List.nil_append]

/-- A text of three bytes in two pieces. -/
theorem sha1_pieces_abc :
    ([[0x61], [0x62, 0x63]].foldlM sha1Update
          (sha1Init ⟨.replicate 5 7, 1, 2, fun _ => 3⟩) >>=
        sha1Final).map List.ofFn =
      some (SecureHash.hash [0x61, 0x62, 0x63]) :=
  sha1_pieces _ [[0x61], [0x62, 0x63]] (by decide)

/-- The first test vector that the source names. -/
example :
    ((sha1Update (sha1Init ⟨.replicate 5 7, 1, 2, fun _ => 3⟩)
            [0x61, 0x62, 0x63]).bind sha1Final).map List.ofFn =
      some
        [0xA9, 0x99, 0x3E, 0x36, 0x47, 0x06, 0x81, 0x6A, 0xBA, 0x3E, 0x25,
          0x71, 0x78, 0x50, 0xC2, 0x6C, 0x9C, 0xD0, 0xD8, 0x9D] := by
  decide +kernel

/-! ## The hashes of the login -/

/-- The hash of a message as a digest. -/
def sha1 (message : List UInt8) : Digest := fun place =>
  (SecureHash.hash message).get
    (place.cast (SecureHash.hash_length message).symm)

theorem ofFn_sha1 (message : List UInt8) :
    List.ofFn (sha1 message) = SecureHash.hash message := by
  apply List.ext_getElem
  · rw [List.length_ofFn, SecureHash.hash_length]
  · intro place left right
    rw [List.getElem_ofFn]
    rfl

/-- How `slpClientSetCredentials` hashes the password. -/
def passwordDigest (stack : Sha1Ctx) (password : List UInt8) :
    Option Digest :=
  if password ≠ [] then
    (sha1Update (sha1Init stack) password).bind sha1Final
  else sha1Final (sha1Init stack)

/-- How `slpClientHandleAuthMe` hashes the challenge. -/
def challengeDigest (stack : Sha1Ctx) (passwordSha1 : Digest)
    (challenge : List UInt8) : Option Digest :=
  (sha1Update (sha1Init stack) (List.ofFn passwordSha1)).bind fun keyed =>
    if challenge.length > 0 then
      (sha1Update keyed challenge).bind sha1Final
    else sha1Final keyed

theorem sha1Final_eq_sha1 {context : Sha1Ctx} {message : List UInt8}
    (holds : context.Holds message) :
    sha1Final context = some (sha1 message) := by
  rcases sha1Final_holds holds with ⟨digest, closed, spelled⟩
  rw [closed, Option.some.injEq]
  exact List.ofFn_injective (spelled.trans (ofFn_sha1 message).symm)

/-- The stored digest is the hash of the password. -/
theorem passwordDigest_eq (stack : Sha1Ctx) {password : List UInt8}
    (short : password.length ≤ sha1PieceLimit) :
    passwordDigest stack password = some (sha1 password) := by
  unfold passwordDigest
  split
  · rcases sha1Update_holds (sha1Init_holds stack) short with
      ⟨next, updated, holds⟩
    rw [updated, Option.bind_some]
    exact sha1Final_eq_sha1 holds
  next empty =>
    rw [not_not.mp empty]
    exact sha1Final_eq_sha1 (sha1Init_holds stack)

/-- The digest of the answer is the hash of the stored one and the
challenge. -/
theorem challengeDigest_eq (stack : Sha1Ctx) (passwordSha1 : Digest)
    {challenge : List UInt8} (short : challenge.length ≤ sha1PieceLimit) :
    challengeDigest stack passwordSha1 challenge =
      some (sha1 (List.ofFn passwordSha1 ++ challenge)) := by
  have key : (List.ofFn passwordSha1).length ≤ sha1PieceLimit := by
    rw [List.length_ofFn]
    decide
  rcases sha1Update_holds (sha1Init_holds stack) key with
    ⟨keyed, updated, keyedHolds⟩
  rw [challengeDigest, updated, Option.bind_some]
  split
  · rcases sha1Update_holds keyedHolds short with
      ⟨next, fed, nextHolds⟩
    rw [fed, Option.bind_some]
    exact sha1Final_eq_sha1 nextHolds
  next empty =>
    rw [List.length_eq_zero_iff.mp (Nat.eq_zero_of_not_pos empty),
      List.append_nil]
    exact sha1Final_eq_sha1 keyedHolds

/-- The calls of the hash compute the digests that the client stores and
sends.  With a user name set, a challenge is answered with the hash of the
hashed password and the challenge, and with the whole name. -/
theorem login_answer (stack other : Sha1Ctx) (client : Client)
    (username password : CString 64) (challenge : List UInt8)
    (named : username.bytes ≠ [])
    (short : challenge.length ≤ sha1PieceLimit) :
    ∃ stored answer,
      passwordDigest stack password.bytes = some stored ∧
        (slpClientSetCredentials sha1 client username
          password).passwordSha1 = stored ∧
        challengeDigest other stored challenge = some answer ∧
        List.ofFn answer =
          SecureHash.hash (SecureHash.hash password.bytes ++ challenge) ∧
        slpClientHandleAuthMe sha1 true
            (slpClientSetCredentials sha1 client username password)
            (0 :: challenge) =
          ⟨[Tunnel.slpTypeAuthMe :: List.ofFn answer ++ username.bytes],
            true⟩ := by
  have fits : password.bytes.length ≤ sha1PieceLimit := by
    have room := password.fits
    rw [sha1PieceLimit]
    omega
  have set :
      slpClientSetCredentials sha1 client username password =
        { client with
          username := username.copied 64
          passwordSha1 := sha1 password.bytes
          hasCredentials := true } :=
    if_neg named
  have copied : (username.copied 64).bytes = username.bytes :=
    List.take_of_length_le (Nat.le_of_lt_succ username.fits)
  refine ⟨sha1 password.bytes,
    sha1 (List.ofFn (sha1 password.bytes) ++ challenge),
    passwordDigest_eq stack fits, by rw [set],
    challengeDigest_eq other _ short, ?_, ?_⟩
  · rw [ofFn_sha1, ofFn_sha1]
  · rw [set, slpClientHandleAuthMe, if_neg (by decide),
      if_neg (fun absent => Bool.noConfusion absent)]
    show Tunnel.slpClientSendRaw true (authMeAnswer sha1 (sha1 password.bytes)
      (username.copied 64).bytes challenge) = _
    rw [copied, authMeAnswer]
    rfl

/-- A name of one byte, a password of two, and a challenge of three. -/
theorem login_answer_short :
    ∃ stored answer,
      passwordDigest ⟨.replicate 5 7, 1, 2, fun _ => 3⟩ [1, 2] =
          some stored ∧
        (slpClientSetCredentials sha1 Client.zeroed
          ⟨[9], by decide, by decide⟩
          ⟨[1, 2], by decide, by decide⟩).passwordSha1 = stored ∧
        challengeDigest ⟨.replicate 5 4, 5, 6, fun _ => 7⟩ stored
          [3, 4, 5] = some answer ∧
        List.ofFn answer =
          SecureHash.hash (SecureHash.hash [1, 2] ++ [3, 4, 5]) ∧
        slpClientHandleAuthMe sha1 true
            (slpClientSetCredentials sha1 Client.zeroed
              ⟨[9], by decide, by decide⟩ ⟨[1, 2], by decide, by decide⟩)
            (0 :: [3, 4, 5]) =
          ⟨[Tunnel.slpTypeAuthMe :: List.ofFn answer ++ [9]], true⟩ :=
  login_answer ⟨.replicate 5 7, 1, 2, fun _ => 3⟩
    ⟨.replicate 5 4, 5, 6, fun _ => 7⟩ Client.zeroed
    ⟨[9], by decide, by decide⟩ ⟨[1, 2], by decide, by decide⟩ [3, 4, 5]
    (List.cons_ne_nil _ _) (by decide)

end SlpClient.Slp
