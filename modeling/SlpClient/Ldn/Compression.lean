import SlpClient.Lib.ZeroRuns

/-!
# Body compression of control frames

`Compress` and `Decompress` of `ldn_control.cpp`, bounded by the room left in
their output buffers.  Both report failure when input is left over; the
coder also fails when the last free byte would hold a zero without its count.

The two are connected through the unbounded format: what the coder writes
spells its input, and the decoder reads everything that the format spells
within its room.
-/

namespace SlpClient.Ldn

open SlpClient.Lib.ZeroRuns

/-- `Compress` into a buffer with `room` free bytes. -/
def compress : List UInt8 → Nat → Option (List UInt8)
  | [], _ => some []
  | _ :: _, 0 => none
  | byte :: rest, room + 1 =>
      if byte = 0 then
        match room with
        | 0 => none
        | room + 1 =>
            (compress (splitZeros 255 rest).2 room).map fun packed =>
              0 :: UInt8.ofNat (splitZeros 255 rest).1 :: packed
      else
        (compress rest room).map (byte :: ·)
termination_by bytes => bytes.length
decreasing_by
  · have shorter := splitZeros_length_le 255 rest
    simp only [List.length_cons]
    omega
  · simp

/-- `Decompress` into a buffer with `room` free bytes. -/
def decompress : List UInt8 → Nat → Option (List UInt8)
  | [], _ => some []
  | _ :: _, 0 => none
  | byte :: rest, room + 1 =>
      if byte = 0 then
        match rest with
        | [] => none
        | count :: tail =>
            (decompress tail (room - count.toNat)).map fun bytes =>
              0 :: (List.replicate (min count.toNat room) 0 ++ bytes)
      else
        (decompress rest room).map (byte :: ·)

/-- The output of the coder spells its input. -/
theorem expand_of_compress
    {body packed : List UInt8} {room : Nat}
    (compressed : compress body room = some packed) :
    expand packed = some body := by
  fun_induction compress body room generalizing packed with
  | case1 room =>
      cases compressed
      rfl
  | case2 => cases compressed
  | case3 => cases compressed
  | case4 rest room induction =>
      rcases Option.map_eq_some_iff.mp compressed with
        ⟨tail, tailCompressed, rfl⟩
      have count :
          (UInt8.ofNat (splitZeros 255 rest).1).toNat =
            (splitZeros 255 rest).1 := by
        have bound := splitZeros_le 255 rest
        simp only [UInt8.toNat_ofNat']
        omega
      rw [expand_zero_cons, induction tailCompressed, Option.map_some,
        count, List.replicate_succ, List.cons_append, splitZeros_append]
  | case5 byte rest room nonzero induction =>
      rcases Option.map_eq_some_iff.mp compressed with
        ⟨tail, tailCompressed, rfl⟩
      rw [expand_byte_cons nonzero, induction tailCompressed,
        Option.map_some]

/-- The coder never writes more than it has room for. -/
theorem compress_length_le
    {body packed : List UInt8} {room : Nat}
    (compressed : compress body room = some packed) :
    packed.length ≤ room := by
  fun_induction compress body room generalizing packed with
  | case1 room =>
      cases compressed
      simp
  | case2 => cases compressed
  | case3 => cases compressed
  | case4 rest room induction =>
      rcases Option.map_eq_some_iff.mp compressed with
        ⟨tail, tailCompressed, rfl⟩
      have tailLength := induction tailCompressed
      simp only [List.length_cons]
      omega
  | case5 byte rest room nonzero induction =>
      rcases Option.map_eq_some_iff.mp compressed with
        ⟨tail, tailCompressed, rfl⟩
      have tailLength := induction tailCompressed
      simp only [List.length_cons]
      omega

/-- The decoder reads every string that the format spells within its room. -/
theorem decompress_of_expand
    {packed body : List UInt8} {room : Nat}
    (expanded : expand packed = some body)
    (fits : body.length ≤ room) :
    decompress packed room = some body := by
  fun_induction expand packed generalizing body room with
  | case1 =>
      cases expanded
      simp [decompress]
  | case2 => cases expanded
  | case3 count tail induction =>
      rcases Option.map_eq_some_iff.mp expanded with
        ⟨rest, restExpanded, rfl⟩
      simp only [List.length_append, List.length_replicate] at fits
      obtain ⟨room, rfl⟩ : ∃ smaller, room = smaller + 1 :=
        ⟨room - 1, by omega⟩
      have restDecompressed :
          decompress tail (room - count.toNat) = some rest :=
        induction restExpanded (by omega)
      have noClip : min count.toNat room = count.toNat := by omega
      simp [decompress, restDecompressed, noClip, List.replicate_succ]
  | case4 byte rest nonzero induction =>
      rcases Option.map_eq_some_iff.mp expanded with
        ⟨tail, tailExpanded, rfl⟩
      simp only [List.length_cons] at fits
      obtain ⟨room, rfl⟩ : ∃ smaller, room = smaller + 1 :=
        ⟨room - 1, by omega⟩
      have tailDecompressed : decompress rest room = some tail :=
        induction tailExpanded (by omega)
      rw [decompress.eq_def]
      simp only [nonzero, if_false, tailDecompressed, Option.map_some]

/-- The decoder never writes more than it has room for. -/
theorem decompress_length_le
    {packed body : List UInt8} {room : Nat}
    (decompressed : decompress packed room = some body) :
    body.length ≤ room := by
  fun_induction decompress packed room generalizing body with
  | case1 room =>
      cases decompressed
      simp
  | case2 => cases decompressed
  | case3 => cases decompressed
  | case4 room count tail induction =>
      rcases Option.map_eq_some_iff.mp decompressed with
        ⟨rest, restDecompressed, rfl⟩
      have restLength := induction restDecompressed
      simp only [List.length_cons, List.length_append,
        List.length_replicate]
      omega
  | case5 byte rest room nonzero induction =>
      rcases Option.map_eq_some_iff.mp decompressed with
        ⟨tail, tailDecompressed, rfl⟩
      have tailLength := induction tailDecompressed
      simp only [List.length_cons]
      omega

/-- Decompression undoes compression whenever the body fits the decoder. -/
theorem decompress_compress
    {body packed : List UInt8} {room decoderRoom : Nat}
    (compressed : compress body room = some packed)
    (fits : body.length ≤ decoderRoom) :
    decompress packed decoderRoom = some body :=
  decompress_of_expand (expand_of_compress compressed) fits

end SlpClient.Ldn
