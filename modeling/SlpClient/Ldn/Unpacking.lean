import SlpClient.Ldn.Frames

/-!
# What the decoder accepts

`Decompress` reads a body to its end when the expansion fits in the buffer.
There is one more way to reach the end of the body: the last run of zeros
starts inside the buffer and goes past it.  The run is then cut, and the body
counts as read.  A frame whose header announces a full buffer is accepted so,
although it spells more bytes than the buffer has.
-/

namespace SlpClient.Ldn

open SlpClient.Lib.ZeroRuns

/--
The body ends in a run of zeros that starts inside the room and goes past it;
`lead` is what the body spells before that.
-/
def EndsPast (packed : List UInt8) (room : Nat) (lead : List UInt8) :
    Prop :=
  ∃ front count,
    packed = front ++ [0, count] ∧ expand front = some lead ∧
      lead.length < room ∧ room < lead.length + count.toNat + 1

/-- Such a body spells more than there is room for. -/
theorem EndsPast.expand_eq {packed lead : List UInt8} {room : Nat}
    (past : EndsPast packed room lead) :
    ∃ body, expand packed = some body ∧ room < body.length := by
  rcases past with ⟨front, count, rfl, spelled, -, beyond⟩
  refine ⟨lead ++ (List.replicate (count.toNat + 1) 0 ++ []), ?_, ?_⟩
  · rw [expand_append spelled, expand_zero_cons]
    rfl
  · simp only [List.length_append, List.length_replicate,
      List.length_nil]
    omega

/-- A well-formed beginning is unpacked before what follows it. -/
theorem decompress_append {front lead : List UInt8} {room : Nat}
    (expanded : expand front = some lead) (fits : lead.length ≤ room)
    (tail : List UInt8) :
    decompress (front ++ tail) room =
      (decompress tail (room - lead.length)).map (lead ++ ·) := by
  fun_induction expand front generalizing lead room with
  | case1 =>
      cases expanded
      simp
  | case2 => cases expanded
  | case3 count rest induction =>
      rcases Option.map_eq_some_iff.mp expanded with ⟨body, spelled, rfl⟩
      simp only [List.length_append, List.length_replicate] at fits ⊢
      obtain ⟨room, rfl⟩ : ∃ smaller, room = smaller + 1 :=
        ⟨room - 1, by omega⟩
      have within : body.length ≤ room - count.toNat := by omega
      have unpacked := induction spelled within
      have whole : min count.toNat room = count.toNat := by omega
      have left :
          room - count.toNat - body.length =
            room + 1 - (count.toNat + 1 + body.length) := by
        omega
      rw [List.cons_append, List.cons_append, decompress.eq_def]
      simp only [if_true, whole]
      rw [unpacked, left, Option.map_map]
      congr 1
      funext bytes
      simp [List.replicate_succ]
  | case4 byte rest nonzero induction =>
      rcases Option.map_eq_some_iff.mp expanded with ⟨body, spelled, rfl⟩
      simp only [List.length_cons] at fits ⊢
      obtain ⟨room, rfl⟩ : ∃ smaller, room = smaller + 1 :=
        ⟨room - 1, by omega⟩
      have unpacked := induction spelled (Nat.le_of_succ_le_succ fits)
      rw [List.cons_append, decompress.eq_def]
      simp only [nonzero, if_false]
      rw [unpacked, Option.map_map, Nat.add_sub_add_right]
      rfl

theorem EndsPast.zero_cons {packed lead : List UInt8} {room : Nat}
    {count : UInt8} (whole : count.toNat ≤ room)
    (past : EndsPast packed (room - count.toNat) lead) :
    EndsPast (0 :: count :: packed) (room + 1)
      (List.replicate (count.toNat + 1) 0 ++ lead) := by
  rcases past with ⟨front, last, rfl, spelled, starts, beyond⟩
  refine ⟨0 :: count :: front, last, rfl, ?_, ?_, ?_⟩
  · rw [expand_zero_cons, spelled]
    rfl
  · simp only [List.length_append, List.length_replicate]
    omega
  · simp only [List.length_append, List.length_replicate]
    omega

theorem EndsPast.byte_cons {packed lead : List UInt8} {room : Nat}
    {byte : UInt8} (nonzero : byte ≠ 0)
    (past : EndsPast packed room lead) :
    EndsPast (byte :: packed) (room + 1) (byte :: lead) := by
  rcases past with ⟨front, last, rfl, spelled, starts, beyond⟩
  refine
    ⟨byte :: front, last, rfl, ?_, Nat.succ_lt_succ starts, ?_⟩
  · rw [expand_byte_cons nonzero, spelled]
    rfl
  · simp only [List.length_cons]
    omega

/-- The decoder gets to the end in one of two ways. -/
theorem decompress_cases {packed body : List UInt8} {room : Nat}
    (decompressed : decompress packed room = some body) :
    expand packed = some body ∧ body.length ≤ room ∨
      body.length = room ∧ ∃ lead, EndsPast packed room lead := by
  fun_induction decompress packed room generalizing body with
  | case1 room =>
      cases decompressed
      exact .inl ⟨rfl, Nat.zero_le _⟩
  | case2 => cases decompressed
  | case3 => cases decompressed
  | case4 room count tail induction =>
      rcases Option.map_eq_some_iff.mp decompressed with
        ⟨rest, unpacked, rfl⟩
      by_cases whole : count.toNat ≤ room
      · rw [Nat.min_eq_left whole]
        rcases induction unpacked with
          ⟨spelled, fits⟩ | ⟨full, lead, past⟩
        · refine .inl ⟨?_, ?_⟩
          · rw [expand_zero_cons, spelled]
            rfl
          · simp only [List.length_cons, List.length_append,
              List.length_replicate]
            omega
        · refine .inr ⟨?_, _, past.zero_cons whole⟩
          simp only [List.length_cons, List.length_append,
            List.length_replicate]
          omega
      · have out : room - count.toNat = 0 := by omega
        rw [out] at unpacked
        cases tail with
        | nil =>
            cases unpacked
            refine .inr ⟨?_, [], [], count, rfl, rfl, ?_, ?_⟩
            · simp only [List.length_cons, List.length_append,
                List.length_replicate, List.length_nil]
              omega
            · exact Nat.succ_pos _
            · simp only [List.length_nil]
              omega
        | cons byte tail => simp [decompress] at unpacked
  | case5 byte rest room nonzero induction =>
      rcases Option.map_eq_some_iff.mp decompressed with
        ⟨tail, unpacked, rfl⟩
      rcases induction unpacked with
        ⟨spelled, fits⟩ | ⟨full, lead, past⟩
      · refine .inl ⟨?_, Nat.succ_le_succ fits⟩
        rw [expand_byte_cons nonzero, spelled]
        rfl
      · exact
          .inr ⟨congrArg Nat.succ full, _, past.byte_cons nonzero⟩

/-- A run that goes past the end is cut there. -/
theorem EndsPast.decompress_eq {packed lead : List UInt8} {room : Nat}
    (past : EndsPast packed room lead) :
    ∃ body, decompress packed room = some body ∧ body.length = room := by
  rcases past with ⟨front, count, rfl, spelled, starts, beyond⟩
  obtain ⟨left, enough⟩ : ∃ left, room - lead.length = left + 1 :=
    ⟨room - lead.length - 1, by omega⟩
  refine ⟨lead ++ 0 :: (List.replicate (min count.toNat left) 0 ++ []),
    ?_, ?_⟩
  · rw [decompress_append spelled starts.le, enough]
    simp [decompress]
  · simp only [List.length_append, List.length_cons,
      List.length_replicate, List.length_nil]
    omega

/-! ## Frames -/

/-- A packed frame is dispatched with what the decoder makes of its body. -/
theorem openFrame_packed_iff {payload : List UInt8}
    {header : LanPacketHeader} (read : readHeader payload = some header)
    (packed : header.compressed ≠ 0) {body : List UInt8} :
    openFrame payload = some (header, body) ↔
      decompress (wireBody header payload) NetworkInfo.codec.size =
          some body ∧
        body.length = header.decompressLength.toNat := by
  unfold openFrame readBody
  rw [read]
  simp only [packed, ne_eq, not_false_eq_true, if_true]
  cases decompress (wireBody header payload) NetworkInfo.codec.size with
  | none => simp
  | some bytes =>
      by_cases length : bytes.length = header.decompressLength.toNat
      · simp only [length, not_true, if_false, Option.map_some,
          Option.some.injEq, Prod.mk.injEq, true_and]
        constructor
        · rintro rfl
          exact ⟨rfl, length⟩
        · exact And.left
      · simp only [length, not_false_eq_true, if_true, Option.map_none,
          reduceCtorEq, Option.some.injEq, false_iff]
        rintro ⟨rfl, equal⟩
        exact length equal

/--
A packed frame is dispatched exactly when its body spells as many bytes as the
header announces and the buffer holds, and with these bytes, unless a full
buffer is announced for a body that ends past it.
-/
theorem openFrame_iff_expand (payload : List UInt8)
    (header : LanPacketHeader) (read : readHeader payload = some header)
    (packed : header.compressed ≠ 0) :
    (∀ body,
      openFrame payload = some (header, body) ↔
        expand (wireBody header payload) = some body ∧
          body.length = header.decompressLength.toNat ∧
          body.length ≤ NetworkInfo.codec.size) ↔
      ¬ (header.decompressLength.toNat = NetworkInfo.codec.size ∧
        ∃ lead,
          EndsPast (wireBody header payload) NetworkInfo.codec.size
            lead) := by
  constructor
  · rintro meets ⟨announced, lead, past⟩
    rcases past.decompress_eq with ⟨body, unpacked, full⟩
    rcases past.expand_eq with ⟨whole, spelled, longer⟩
    have accepted :=
      (meets body).mp
        ((openFrame_packed_iff read packed).mpr
          ⟨unpacked, full.trans announced.symm⟩)
    rw [spelled] at accepted
    rw [← Option.some.inj accepted.1] at full
    omega
  · intro avoids body
    rw [openFrame_packed_iff read packed]
    constructor
    · rintro ⟨unpacked, length⟩
      rcases decompress_cases unpacked with
        ⟨spelled, fits⟩ | ⟨full, past⟩
      · exact ⟨spelled, length, fits⟩
      · exact absurd ⟨length.symm.trans full, past⟩ avoids
    · rintro ⟨spelled, length, fits⟩
      exact ⟨decompress_of_expand spelled fits, length⟩

/-- A frame that announces three bytes and spells them. -/
def threeZeros : LanPacketHeader where
  magic := lanMagic
  type := 4
  compressed := 1
  length := 2
  decompressLength := 3
  seq := 1

theorem openFrame_threeZeros :
    openFrame (LanPacketHeader.codec.encode threeZeros ++ [0, 2]) =
      some (threeZeros, [0, 0, 0]) := by
  have small :
      ¬ (threeZeros.decompressLength.toNat = NetworkInfo.codec.size ∧
        ∃ lead,
          EndsPast
            (wireBody threeZeros
              (LanPacketHeader.codec.encode threeZeros ++ [0, 2]))
            NetworkInfo.codec.size lead) := by
    rintro ⟨announced, -⟩
    rw [networkInfo_size] at announced
    exact absurd announced (by decide)
  have body :
      wireBody threeZeros
          (LanPacketHeader.codec.encode threeZeros ++ [0, 2]) =
        [0, 2] := by
    decide
  apply
    ((openFrame_iff_expand
      (LanPacketHeader.codec.encode threeZeros ++ [0, 2]) threeZeros
      (by decide) (by decide)).mpr small _).mpr
  refine ⟨?_, rfl, ?_⟩
  · rw [body, expand_zero_cons]
    rfl
  · rw [networkInfo_size]
    decide

/-- A frame that announces a full buffer. -/
def fullBuffer : LanPacketHeader where
  magic := lanMagic
  type := 4
  compressed := 1
  length := 10
  decompressLength := 1152
  seq := 1

/-- Five runs of 256 zeros. -/
def fiveRuns : List UInt8 :=
  [0, 255, 0, 255, 0, 255, 0, 255, 0, 255]

theorem fiveRuns_endsPast :
    ∃ lead, EndsPast fiveRuns NetworkInfo.codec.size lead := by
  have run :
      ∀ {tail lead : List UInt8}, expand tail = some lead →
        expand (0 :: 255 :: tail) =
          some (List.replicate 256 0 ++ lead) := by
    intro tail lead spelled
    rw [expand_zero_cons, spelled]
    rfl
  refine ⟨_, [0, 255, 0, 255, 0, 255, 0, 255], 255, rfl,
    run (run (run (run rfl))), ?_, ?_⟩
  · rw [networkInfo_size]
    simp only [List.length_append, List.length_replicate, List.length_nil]
    decide
  · rw [networkInfo_size]
    simp only [List.length_append, List.length_replicate, List.length_nil]
    decide

/-- A frame that spells 1280 bytes is dispatched with 1152 bytes. -/
theorem openFrame_ne_expand :
    ¬ ∀ payload header, readHeader payload = some header →
      header.compressed ≠ 0 →
        ∀ body,
          openFrame payload = some (header, body) ↔
            expand (wireBody header payload) = some body ∧
              body.length = header.decompressLength.toNat ∧
              body.length ≤ NetworkInfo.codec.size := by
  intro claim
  rcases fiveRuns_endsPast with ⟨lead, past⟩
  rcases past.decompress_eq with ⟨body, unpacked, full⟩
  rcases past.expand_eq with ⟨whole, spelled, longer⟩
  have announced :
      body.length = fullBuffer.decompressLength.toNat := by
    rw [full, networkInfo_size]
    rfl
  have accepted :
      openFrame (LanPacketHeader.codec.encode fullBuffer ++ fiveRuns) =
        some (fullBuffer, body) := by
    rw [openFrame_encode_append fullBuffer fiveRuns rfl rfl]
    unfold readBody
    rw [if_pos (by decide), unpacked]
    simp only [announced, ne_eq, not_true, if_false, Option.map_some]
  have wire :
      wireBody fullBuffer
          (LanPacketHeader.codec.encode fullBuffer ++ fiveRuns) =
        fiveRuns := by
    decide
  have decoded :=
    (claim _ fullBuffer (by decide) (by decide) body).mp accepted
  rw [wire, spelled] at decoded
  rw [← Option.some.inj decoded.1] at full
  omega

end SlpClient.Ldn
