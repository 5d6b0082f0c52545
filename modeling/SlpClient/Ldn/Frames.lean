import SlpClient.Ldn.Types
import SlpClient.Ldn.Compression

/-!
# Control frames

The datagram that `SendFrame` builds and the checks by which `OnControlFrame`
takes it apart, up to the dispatch on the frame type.
-/

namespace SlpClient.Ldn

open SlpClient.Lib

/-- Frame types that the control plane sends and handles. -/
inductive LanPacketType where
  | scan
  | scanResp
  | connect
  | syncNetwork
  | relayHeartbeat
  | relayBye
deriving DecidableEq, Repr

namespace LanPacketType

/-- The type byte on the wire. -/
def toByte : LanPacketType → UInt8
  | scan => 0
  | scanResp => 1
  | connect => 2
  | syncNetwork => 3
  | relayHeartbeat => 4
  | relayBye => 5

/-- The `switch` over the type byte; unknown types have no handler. -/
def ofByte (byte : UInt8) : Option LanPacketType :=
  if byte = 0 then some scan
  else if byte = 1 then some scanResp
  else if byte = 2 then some connect
  else if byte = 3 then some syncNetwork
  else if byte = 4 then some relayHeartbeat
  else if byte = 5 then some relayBye
  else none

@[simp]
theorem ofByte_toByte (type : LanPacketType) :
    ofByte type.toByte = some type := by
  cases type <;> rfl

end LanPacketType

def lanMagic : UInt32 := 0x11451400

structure LanPacketHeader where
  magic : UInt32
  type : UInt8
  compressed : UInt8
  length : UInt16
  decompressLength : UInt16
  seq : UInt16
deriving DecidableEq

namespace LanPacketHeader

def codec : ByteCodec LanPacketHeader :=
  (ByteCodec.u32le.prod <| ByteCodec.u8.prod <| ByteCodec.u8.prod <|
    ByteCodec.u16le.prod <| ByteCodec.u16le.prod
      ByteCodec.u16le).ofEquiv
    { toFun header :=
        (header.magic, header.type, header.compressed, header.length,
          header.decompressLength, header.seq)
      invFun fields :=
        ⟨fields.1, fields.2.1, fields.2.2.1, fields.2.2.2.1,
          fields.2.2.2.2.1, fields.2.2.2.2.2⟩
      left_inv _ := rfl
      right_inv _ := rfl }

/-- `sizeof(LanPacketHeader)`. -/
@[simp]
theorem codec_size : codec.size = 12 := by
  simp [codec]

end LanPacketHeader

/-- The send counter after one more frame; zero is skipped on wrap. -/
def nextSeq (seq : UInt16) : UInt16 :=
  if seq + 1 = 0 then seq + 1 + 1 else seq + 1

/-- A stamped counter is never zero, whatever the counter was before. -/
theorem nextSeq_ne_zero (seq : UInt16) : nextSeq seq ≠ 0 := by
  unfold nextSeq
  split
  · rename_i wrapped
    rw [wrapped]
    decide
  · assumption

/-- The header of a frame before a body is attached. -/
def blankHeader (type : LanPacketType) (seq : UInt16) : LanPacketHeader where
  magic := lanMagic
  type := type.toByte
  compressed := 0
  length := 0
  decompressLength := 0
  seq := seq

/-- The datagram built for one frame: header and body, packed if it fits. -/
def frameBytes (type : LanPacketType) (seq : UInt16) (body : List UInt8) :
    List UInt8 :=
  if body.length > 0 then
    match compress body NetworkInfo.codec.size with
    | some packed =>
        LanPacketHeader.codec.encode
          { blankHeader type seq with
            compressed := 1
            decompressLength := UInt16.ofNat body.length
            length := UInt16.ofNat packed.length } ++ packed
    | none =>
        LanPacketHeader.codec.encode
          { blankHeader type seq with
            length := UInt16.ofNat body.length } ++ body
  else LanPacketHeader.codec.encode (blankHeader type seq)

/-- The header of a datagram, when it is long enough and has the magic. -/
def readHeader (payload : List UInt8) : Option LanPacketHeader :=
  if payload.length < LanPacketHeader.codec.size then none
  else
    let header :=
      LanPacketHeader.codec.decode
        (payload.take LanPacketHeader.codec.size)
    if header.magic ≠ lanMagic then none
    else if
        payload.length <
          LanPacketHeader.codec.size + header.length.toNat then
      none
    else some header

/-- The bytes of the body as they lie in the datagram. -/
def wireBody (header : LanPacketHeader) (payload : List UInt8) :
    List UInt8 :=
  (payload.drop LanPacketHeader.codec.size).take header.length.toNat

/-- The body handed to the handlers, unpacked when flagged so. -/
def readBody (header : LanPacketHeader) (wire : List UInt8) :
    Option (List UInt8) :=
  if header.compressed ≠ 0 then
    match decompress wire NetworkInfo.codec.size with
    | none => none
    | some body =>
        if body.length ≠ header.decompressLength.toNat then none
        else some body
  else some wire

/-- A datagram taken apart: header and body of an accepted frame. -/
def openFrame (payload : List UInt8) :
    Option (LanPacketHeader × List UInt8) :=
  match readHeader payload with
  | none => none
  | some header =>
      (readBody header (wireBody header payload)).map (header, ·)

/-! ## Opening what was built -/

/-- A header followed by exactly its body is accepted. -/
theorem openFrame_encode_append
    (header : LanPacketHeader) (wire : List UInt8)
    (magic : header.magic = lanMagic)
    (length : header.length.toNat = wire.length) :
    openFrame (LanPacketHeader.codec.encode header ++ wire) =
      (readBody header wire).map (header, ·) := by
  have headerLength := LanPacketHeader.codec.encode_length header
  have read :
      readHeader (LanPacketHeader.codec.encode header ++ wire) =
        some header := by
    unfold readHeader
    rw [List.take_left' headerLength, ByteCodec.decode_encode,
      List.length_append, headerLength]
    simp [magic, length]
  have body :
      wireBody header (LanPacketHeader.codec.encode header ++ wire) =
        wire := by
    unfold wireBody
    rw [List.drop_left' headerLength, length, List.take_length]
  simp [openFrame, read, body]

/-- Lengths up to `sizeof(NetworkInfo)` survive the 16-bit header fields. -/
theorem toNat_ofNat_length
    {bytes : List UInt8} (fits : bytes.length ≤ NetworkInfo.codec.size) :
    (UInt16.ofNat bytes.length).toNat = bytes.length := by
  rw [networkInfo_size] at fits
  rw [UInt16.toNat_ofNat']
  omega

/-- Every built frame opens to its type, counter and body. -/
theorem openFrame_frameBytes
    (type : LanPacketType) (seq : UInt16) (body : List UInt8)
    (fits : body.length ≤ NetworkInfo.codec.size) :
    ∃ header : LanPacketHeader,
      openFrame (frameBytes type seq body) = some (header, body) ∧
        header.type = type.toByte ∧ header.seq = seq := by
  have bodyLength := toNat_ofNat_length fits
  unfold frameBytes
  by_cases nonempty : body.length > 0
  · simp only [nonempty, if_true]
    cases packing : compress body NetworkInfo.codec.size with
    | none =>
        have opened :=
          openFrame_encode_append
            { blankHeader type seq with
              length := UInt16.ofNat body.length } body rfl bodyLength
        exact ⟨_, opened, rfl, rfl⟩
    | some packed =>
        have packedLength :=
          toNat_ofNat_length (compress_length_le packing)
        have opened :=
          openFrame_encode_append
            { blankHeader type seq with
              compressed := 1
              decompressLength := UInt16.ofNat body.length
              length := UInt16.ofNat packed.length }
            packed rfl packedLength
        have unpacked := decompress_compress packing fits
        simp only [readBody, unpacked, bodyLength, ne_eq, not_true,
          if_false] at opened
        exact ⟨_, opened, rfl, rfl⟩
  · have empty : body = [] := by
      simpa using nonempty
    subst empty
    refine ⟨blankHeader type seq, ?_, rfl, rfl⟩
    have opened :=
      openFrame_encode_append (blankHeader type seq) [] rfl rfl
    simpa [readBody, blankHeader] using opened

/-- A built frame is a header and at most `sizeof(NetworkInfo)` bytes. -/
theorem frameBytes_length_le
    (type : LanPacketType) (seq : UInt16) (body : List UInt8)
    (fits : body.length ≤ NetworkInfo.codec.size) :
    (frameBytes type seq body).length ≤
      LanPacketHeader.codec.size + NetworkInfo.codec.size := by
  unfold frameBytes
  split
  · split
    · rename_i packed packing
      have packedLength := compress_length_le packing
      rw [List.length_append, ByteCodec.encode_length]
      omega
    · rw [List.length_append, ByteCodec.encode_length]
      omega
  · simp

end SlpClient.Ldn
