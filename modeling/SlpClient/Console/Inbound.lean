import SlpClient.Ldn.Handlers
import SlpClient.Lib.Traced
import SlpClient.Tunnel.Fragments

/-!
# The inbound path and its memory

What `RunLoop` does with a datagram of the relay, with every array it indexes
on the way: the datagram itself, the data and the lengths of a fragment entry,
and the buffer for unpacked bodies.  Each read, each write and each pointer
that is passed on with a length is an event.  All of them lie inside the array
they address, whatever the datagram and the fragment table hold.
-/

namespace SlpClient.Inbound

open SlpClient.Lib
open SlpClient.Tunnel
open SlpClient.Ldn

/-! ## Memory -/

/-- The arrays of the inbound path. -/
inductive Buffer where
  | received
  | fragData (slot : Fin maxFragEntries)
  | fragLens (slot : Fin maxFragEntries)
  | decompressed
deriving DecidableEq

/-- Their sizes, for a datagram of the given length. -/
def Buffer.size (received : Nat) : Buffer → Nat
  | .received => received
  | .fragData _ => fragCapacity
  | .fragLens _ => maxTotalParts
  | .decompressed => NetworkInfo.codec.size

/-- A pointer into an array and the length that goes with it. -/
structure Region where
  buffer : Buffer
  offset : Nat
  length : Nat
deriving DecidableEq

/-- A whole array of a fragment entry. -/
def Region.data (slot : Fin maxFragEntries) : Region :=
  ⟨.fragData slot, 0, fragCapacity⟩

def Region.lens (slot : Fin maxFragEntries) : Region :=
  ⟨.fragLens slot, 0, maxTotalParts⟩

/-- The whole buffer for unpacked bodies. -/
def Region.decompressed : Region :=
  ⟨.decompressed, 0, NetworkInfo.codec.size⟩

inductive AccessKind where
  | read
  | write
  | pass
deriving DecidableEq

/-- Elements of a region that are read, written or passed on. -/
structure Access where
  kind : AccessKind
  region : Region
  index : Nat
  count : Nat
deriving DecidableEq

/-- The region lies in its array. -/
def Region.Whole (received : Nat) (region : Region) : Prop :=
  region.offset + region.length ≤ region.buffer.size received

/-- The elements lie in the region, and the region in its array. -/
def Access.Inside (received : Nat) (access : Access) : Prop :=
  access.index + access.count ≤ access.region.length ∧
    access.region.Whole received

/-- Code of the inbound path. -/
abbrev Code : Type → Type := Traced Access

def touch (kind : AccessKind) (region : Region) (index count : Nat) :
    Code Unit :=
  .log ⟨kind, region, index, count⟩

/-- A region and the bytes in it. -/
structure Span where
  buffer : Buffer
  offset : Nat
  bytes : List UInt8

namespace Span

def region (span : Span) : Region :=
  ⟨span.buffer, span.offset, span.bytes.length⟩

/-- As many bytes as asked for, whether or not they lie in the span. -/
def slice (span : Span) (index count : Nat) : List UInt8 :=
  (List.range count).map fun position =>
    span.bytes.getD (index + position) 0

/-- A pointer into the span with a length. -/
def sub (span : Span) (index count : Nat) : Span :=
  ⟨span.buffer, span.offset + index, span.slice index count⟩

def byte (span : Span) (index : Nat) : Code UInt8 := do
  touch .read span.region index 1
  pure (span.bytes.getD index 0)

def word16 (span : Span) (index : Nat) : Code UInt16 := do
  touch .read span.region index 2
  pure (rd16be span.bytes index)

def word32 (span : Span) (index : Nat) : Code UInt32 := do
  touch .read span.region index 4
  pure (rd32be span.bytes index)

end Span

/-! ## Packets -/

/-- `slpIpv4Valid`. -/
def slpIpv4Valid (packet : Span) : Code Bool :=
  if packet.bytes.length < 20 then pure false
  else do
    let version ← packet.byte 0
    if version >>> 4 ≠ 4 then pure false
    else
      let first ← packet.byte 0
      let ihl := (first &&& 0x0F).toNat * 4
      pure (decide (20 ≤ ihl) && decide (ihl ≤ packet.bytes.length))

/-- `slpIpv4TotalLen`. -/
def slpIpv4TotalLen (packet : Span) : Code Nat := do
  let total ← packet.word16 2
  pure
    (if total.toNat ≤ packet.bytes.length then total.toNat
      else packet.bytes.length)

/-- What `ProcessIpv4` calls, with the pointer that it passes on. -/
inductive Delivery where
  | onControlFrame (src : UInt32) (frame : Span)
  | routeIncomingData
      (src : UInt32) (sport : UInt16) (dst : UInt32) (dport : UInt16)
      (data : Span)

/-- The call without the place of its bytes. -/
def Delivery.upcall : Delivery → Upcall
  | .onControlFrame src frame => .onControlFrame src frame.bytes
  | .routeIncomingData src sport dst dport data =>
      .routeIncomingData src sport dst dport .udp data.bytes

/-- The part of `ProcessIpv4` after the checks of the IP header. -/
def processUdp (packet : Span) (uoff total : Nat) :
    Code (Option Delivery) := do
  let sport ← packet.word16 uoff
  let dport ← packet.word16 (uoff + 2)
  let ulen ← packet.word16 (uoff + 4)
  if ulen.toNat < 8 ∨ uoff + ulen.toNat > total then pure none
  else
    let src ← packet.word32 12
    let dst ← packet.word32 16
    touch .pass packet.region (uoff + 8) (ulen.toNat - 8)
    let data := packet.sub (uoff + 8) (ulen.toNat - 8)
    if dport = controlPort then pure (some (.onControlFrame src data))
    else pure (some (.routeIncomingData src sport dst dport data))

/-- `ProcessIpv4`. -/
def processIpv4 (packet : Span) : Code (Option Delivery) := do
  let valid ← slpIpv4Valid packet
  if valid = false then pure none
  else
    let first ← packet.byte 0
    let uoff := (first &&& 0x0F).toNat * 4
    if packet.bytes.length < uoff + 8 then pure none
    else
      let total ← slpIpv4TotalLen packet
      if total < uoff + 8 then pure none
      else
        let protocol ← packet.byte 9
        if protocol ≠ 17 then pure none
        else processUdp packet uoff total

/-! ## Fragments -/

/-- The loop that looks for a short part, up to the first one. -/
def shortPart (slot : Fin maxFragEntries) (lens : Nat → Nat) (pmtu : Nat) :
    Nat → Nat → Code Unit
  | _, 0 => pure ()
  | part, left + 1 => do
      touch .read (.lens slot) part 1
      if lens part ≠ pmtu then pure ()
      else shortPart slot lens pmtu (part + 1) left

/-- The end of `OnFrag` for a packet whose parts are all there. -/
def complete (slot : Fin maxFragEntries) (entry : FragEntry)
    (part : FragPart) : Code (FragEntry × Option Delivery) := do
  shortPart slot
    (fun index =>
      if inside : index < maxTotalParts then entry.lens ⟨index, inside⟩
      else 0)
    part.pmtu 0 (part.total - 1)
  touch .read (.lens slot) (part.total - 1) 1
  let rebuilt := (part.total - 1) * part.pmtu + entry.lens part.last
  let retired := { entry with active := false }
  if rebuilt ≤ fragCapacity then
    let data : Span := ⟨.fragData slot, 0, List.ofFn entry.data⟩
    let handed ← processIpv4 (data.sub 0 rebuilt)
    pure (retired, handed)
  else pure (retired, none)

/-- The rest of `OnFrag` once an entry is found. -/
def accept (slot : Fin maxFragEntries) (entry : FragEntry)
    (payload : Span) (clen : Nat) (part : FragPart) (tick : Nat) :
    Code (FragEntry × Option Delivery) :=
  if entry.seen ≠ ∅ ∧
      (entry.pmtu ≠ part.pmtu ∨ entry.totalParts ≠ part.total) then
    pure (entry, none)
  else
    let fixed := entry.fixGeometry part
    if part.part ∈ fixed.seen then pure (fixed, none)
    else do
      touch .read payload.region 16 clen
      touch .write (.data slot) (part.part * part.pmtu) clen
      touch .write (.lens slot) part.part 1
      let stored := fixed.store part tick
      if stored.seen = FragEntry.want part.total then
        complete slot stored part
      else pure (stored, none)

/-- `OnFrag`. -/
def onFrag (table : FragTable) (now later : Nat) (payload : Span) :
    Code (FragTable × Option Delivery) :=
  if payload.bytes.length < 16 then pure (table, none)
  else do
    let _src ← payload.word32 0
    let _id ← payload.word16 8
    let _part ← payload.byte 10
    let _total ← payload.byte 11
    let clen ← payload.word16 12
    let _pmtu ← payload.word16 14
    match openFrag payload.bytes with
    | none => pure (table, none)
    | some part =>
        match table.findFragEntry now part.src part.id with
        | (found, none) => pure (found, none)
        | (found, some slot) =>
            let accepted ←
              accept slot (found slot) payload clen.toNat part later
            pure (Function.update found slot accepted.1, accepted.2)

/-! ## Control frames -/

/-- Zeros written one by one. -/
def writeZeros (index : Nat) : Nat → Code Unit
  | 0 => pure ()
  | count + 1 => do
      touch .write .decompressed index 1
      writeZeros (index + 1) count

/-- The loop of `Decompress`: the input from `inIndex` on, and `room` free
bytes from `outIndex` on. -/
def decompressFrom (body : Region) :
    List UInt8 → Nat → Nat → Nat → Code (Option (List UInt8))
  | [], _, _, _ => pure (some [])
  | _ :: _, _, _, 0 => pure none
  | byte :: rest, inIndex, outIndex, room + 1 => do
      touch .read body inIndex 1
      touch .write .decompressed outIndex 1
      if byte = 0 then
        match rest with
        | [] => pure none
        | count :: tail =>
            touch .read body (inIndex + 1) 1
            writeZeros (outIndex + 1) (min count.toNat room)
            let more ←
              decompressFrom body tail (inIndex + 2)
                (outIndex + 1 + min count.toNat room) (room - count.toNat)
            pure
              (more.map fun bytes =>
                0 :: (List.replicate (min count.toNat room) 0 ++ bytes))
      else
        let more ←
          decompressFrom body rest (inIndex + 1) (outIndex + 1) room
        pure (more.map (byte :: ·))

/-- What a handler is called with, besides the sender. -/
structure Handled where
  type : LanPacketType
  body : List UInt8
  seq : UInt16

/-- The dispatch on the type.  `HandleScan` takes no body. -/
def dispatch (header : LanPacketHeader) (region : Region)
    (index count : Nat) (body : List UInt8) : Code (Option Handled) :=
  match LanPacketType.ofByte header.type with
  | none => pure none
  | some .scan => pure (some ⟨.scan, body, header.seq⟩)
  | some type => do
      touch .pass region index count
      pure (some ⟨type, body, header.seq⟩)

/-- `OnControlFrame` up to the call of the handler. -/
def onControlFrame (payload : Span) : Code (Option Handled) :=
  if payload.bytes.length < LanPacketHeader.codec.size then pure none
  else do
    touch .read payload.region 0 LanPacketHeader.codec.size
    let header :=
      LanPacketHeader.codec.decode
        (payload.bytes.take LanPacketHeader.codec.size)
    let length := header.length.toNat
    if header.magic ≠ lanMagic then pure none
    else if
        payload.bytes.length < LanPacketHeader.codec.size + length then
      pure none
    else
      let body := payload.sub LanPacketHeader.codec.size length
      if header.compressed ≠ 0 then
        let unpacked ←
          decompressFrom body.region body.bytes 0 0 NetworkInfo.codec.size
        match unpacked with
        | none => pure none
        | some bytes =>
            if bytes.length ≠ header.decompressLength.toNat then pure none
            else dispatch header .decompressed 0 bytes.length bytes
      else
        dispatch header payload.region LanPacketHeader.codec.size length
          body.bytes

/-! ## Datagrams -/

/-- `OnFrame`. -/
def onFrame (table : FragTable) (now later : Nat) (type : UInt8)
    (payload : Span) : Code (FragTable × Option Delivery) :=
  if type = slpTypeIpv4 then do
    let handed ← processIpv4 payload
    pure (table, handed)
  else if type = slpTypeIpv4Frag then onFrag table now later payload
  else pure (table, none)

/-- What `RunLoop` does with a datagram, up to the calls of `ProcessIpv4`. -/
def onDatagram (table : FragTable) (now later : Nat)
    (datagram : List UInt8) : Code (FragTable × Option Delivery) :=
  match datagram with
  | [] => pure (table, none)
  | _ :: payload => do
      let first ← (Span.mk .received 0 datagram).byte 0
      let type := first &&& 0x7F
      if type = slpTypePing then pure (table, none)
      else if type = slpTypeAuthMe then pure (table, none)
      else if payload = [] then pure (table, none)
      else onFrame table now later type ⟨.received, 1, payload⟩

/-- The whole inbound path: the table afterwards, the call made, and what a
control frame hands to its handler. -/
def inbound (table : FragTable) (now later : Nat) (datagram : List UInt8) :
    Code (FragTable × Option Delivery × Option Handled) := do
  let delivered ← onDatagram table now later datagram
  match delivered.2 with
  | some (.onControlFrame src frame) =>
      let handled ← onControlFrame frame
      pure (delivered.1, some (.onControlFrame src frame), handled)
  | other => pure (delivered.1, other, none)

/-! ## Accesses inside -/

variable {received : Nat}

theorem touch_inside {region : Region} (whole : region.Whole received)
    (kind : AccessKind) {index count : Nat}
    (fits : index + count ≤ region.length) :
    (touch kind region index count).Meets (Access.Inside received)
      fun _ => True :=
  .log ⟨fits, whole⟩

theorem data_whole (slot : Fin maxFragEntries) :
    (Region.data slot).Whole received :=
  (Nat.zero_add _).le

theorem lens_whole (slot : Fin maxFragEntries) :
    (Region.lens slot).Whole received :=
  (Nat.zero_add _).le

theorem decompressed_whole : Region.decompressed.Whole received := by
  simp only [Region.Whole, Region.decompressed, Buffer.size, Nat.zero_add,
    le_refl]

namespace Span

variable {span : Span} (whole : span.region.Whole received)

@[simp]
theorem slice_length (span : Span) (index count : Nat) :
    (span.slice index count).length = count := by
  simp [slice]

/-- Bytes of the span itself. -/
theorem slice_eq {span : Span} {index count : Nat}
    (fits : index + count ≤ span.bytes.length) :
    span.slice index count = (span.bytes.drop index).take count := by
  apply List.ext_getElem
  · simp
    omega
  · intro position inside _
    rw [slice_length] at inside
    simp only [slice, List.getElem_map, List.getElem_range,
      List.getElem_take, List.getElem_drop]
    rw [List.getD_eq_getElem?_getD, List.getElem?_eq_getElem (by omega)]
    rfl

include whole

theorem sub_whole {index count : Nat}
    (fits : index + count ≤ span.bytes.length) :
    (span.sub index count).region.Whole received := by
  unfold Region.Whole at whole ⊢
  simp only [region, sub, slice_length] at whole ⊢
  omega

theorem byte_inside {index : Nat} (fits : index < span.bytes.length) :
    (span.byte index).Meets (Access.Inside received)
      (· = span.bytes.getD index 0) :=
  .bind (touch_inside whole .read fits) fun _ _ => .pure rfl

theorem word16_inside {index : Nat} (fits : index + 2 ≤ span.bytes.length) :
    (span.word16 index).Meets (Access.Inside received)
      (· = rd16be span.bytes index) :=
  .bind (touch_inside whole .read fits) fun _ _ => .pure rfl

theorem word32_inside {index : Nat} (fits : index + 4 ≤ span.bytes.length) :
    (span.word32 index).Meets (Access.Inside received)
      (· = rd32be span.bytes index) :=
  .bind (touch_inside whole .read fits) fun _ _ => .pure rfl

end Span

/-! ### Packets -/

theorem slpIpv4Valid_iff (packet : List UInt8) :
    Tunnel.slpIpv4Valid packet = true ↔
      20 ≤ packet.length ∧ packet.getD 0 0 >>> 4 = 4 ∧
        20 ≤ headerLength packet ∧ headerLength packet ≤ packet.length := by
  simp only [Tunnel.slpIpv4Valid, Bool.and_eq_true, decide_eq_true_eq,
    beq_iff_eq, and_assoc]

theorem slpIpv4Valid_inside {packet : Span}
    (whole : packet.region.Whole received) :
    (slpIpv4Valid packet).Meets (Access.Inside received)
      (· = Tunnel.slpIpv4Valid packet.bytes) := by
  have valid := slpIpv4Valid_iff packet.bytes
  refine .ite (fun short => .pure ?_) fun long => ?_
  · refine (Bool.eq_false_iff.mpr fun accepted => ?_).symm
    have bounds := valid.mp accepted
    omega
  have nonempty : 0 < packet.bytes.length := by omega
  refine .bind (Span.byte_inside whole nonempty) fun version same => ?_
  subst same
  refine .ite (fun other => .pure ?_) fun four => ?_
  · exact
      (Bool.eq_false_iff.mpr fun accepted => other (valid.mp accepted).2.1).symm
  refine .bind (Span.byte_inside whole nonempty) fun first same => .pure ?_
  subst same
  rw [Bool.eq_iff_iff, valid, Bool.and_eq_true, decide_eq_true_eq,
    decide_eq_true_eq]
  exact ⟨fun bounds => ⟨by omega, not_not.mp four, bounds⟩,
    fun bounds => bounds.2.2⟩

theorem slpIpv4TotalLen_inside {packet : Span}
    (whole : packet.region.Whole received)
    (long : 20 ≤ packet.bytes.length) :
    (slpIpv4TotalLen packet).Meets (Access.Inside received)
      (· = Tunnel.slpIpv4TotalLen packet.bytes) := by
  refine .bind (Span.word16_inside whole (by omega)) fun total same => ?_
  subst same
  exact .pure rfl

theorem slpIpv4TotalLen_le (packet : List UInt8) :
    Tunnel.slpIpv4TotalLen packet ≤ packet.length := by
  unfold Tunnel.slpIpv4TotalLen
  dsimp only
  split
  · next fits => exact fits
  · exact le_rfl

/-- The pointer that a call of `ProcessIpv4` passes on. -/
def Delivery.span : Delivery → Span
  | .onControlFrame _ frame => frame
  | .routeIncomingData _ _ _ _ data => data

/-- The calls are those of the packet's bytes, and what they pass on lies in
its array. -/
def Delivers (received : Nat) (upcall : Option Upcall)
    (delivery : Option Delivery) : Prop :=
  delivery.map Delivery.upcall = upcall ∧
    ∀ made ∈ delivery, made.span.region.Whole received

theorem Delivers.none : Delivers received none none :=
  ⟨rfl, fun _ made => nomatch made⟩

theorem processUdp_inside {packet : Span}
    (whole : packet.region.Whole received) {uoff total : Nat}
    (long : 20 ≤ packet.bytes.length) (fits : uoff + 8 ≤ total)
    (shorter : total ≤ packet.bytes.length) :
    (processUdp packet uoff total).Meets (Access.Inside received)
      (Delivers received
        (if (rd16be packet.bytes (uoff + 4)).toNat < 8 ∨
            uoff + (rd16be packet.bytes (uoff + 4)).toNat > total then none
        else if rd16be packet.bytes (uoff + 2) = controlPort then
          some
            (.onControlFrame (rd32be packet.bytes 12)
              ((packet.bytes.drop (uoff + 8)).take
                ((rd16be packet.bytes (uoff + 4)).toNat - 8)))
        else
          some
            (.routeIncomingData (rd32be packet.bytes 12)
              (rd16be packet.bytes uoff) (rd32be packet.bytes 16)
              (rd16be packet.bytes (uoff + 2)) .udp
              ((packet.bytes.drop (uoff + 8)).take
                ((rd16be packet.bytes (uoff + 4)).toNat - 8))))) := by
  unfold processUdp
  refine .bind (Span.word16_inside whole (by omega)) fun sport same => ?_
  subst same
  refine .bind (Span.word16_inside whole (by omega)) fun dport same => ?_
  subst same
  refine .bind (Span.word16_inside whole (by omega)) fun ulen same => ?_
  subst same
  generalize (rd16be packet.bytes (uoff + 4)).toNat = ulen
  refine .ite (fun refused => .pure ?_) fun accepted => ?_
  · rw [if_pos refused]
    exact .none
  rw [if_neg accepted]
  have inside : uoff + 8 + (ulen - 8) ≤ packet.bytes.length := by omega
  have bytes := Span.slice_eq inside
  have passed := Span.sub_whole whole inside
  refine .bind (Span.word32_inside whole (by omega)) fun src same => ?_
  subst same
  refine .bind (Span.word32_inside whole (by omega)) fun dst same => ?_
  subst same
  refine .bind (touch_inside whole .pass inside) fun _ _ => ?_
  refine .ite (fun control => .pure ?_) fun other => .pure ?_
  · rw [if_pos control, ← bytes]
    refine ⟨rfl, fun made same => ?_⟩
    rw [← Option.some.inj same]
    exact passed
  · rw [if_neg other, ← bytes]
    refine ⟨rfl, fun made same => ?_⟩
    rw [← Option.some.inj same]
    exact passed

/-- Nothing in `ProcessIpv4` leaves the packet. -/
theorem processIpv4_inside {packet : Span}
    (whole : packet.region.Whole received) :
    (processIpv4 packet).Meets (Access.Inside received)
      (Delivers received (Tunnel.processIpv4 packet.bytes)) := by
  have shorter := slpIpv4TotalLen_le packet.bytes
  have ihl :
      (packet.bytes.getD 0 0 &&& 0x0F).toNat * 4 =
        headerLength packet.bytes :=
    rfl
  unfold processIpv4 Tunnel.processIpv4
  dsimp only
  refine .bind (slpIpv4Valid_inside whole) fun valid same => ?_
  subst same
  refine .ite (fun refused => .pure ?_) fun accepted => ?_
  · rw [if_pos (by rw [refused]; rfl)]
    exact .none
  rw [Bool.not_eq_false] at accepted
  rw [if_neg (by rw [accepted]; decide)]
  have bounds := (slpIpv4Valid_iff packet.bytes).mp accepted
  refine .bind (Span.byte_inside whole (by omega)) fun first same => ?_
  subst same
  rw [ihl]
  refine .ite (fun short => .pure ?_) fun long => ?_
  · rw [if_pos short]
    exact .none
  rw [if_neg long]
  refine .bind (slpIpv4TotalLen_inside whole bounds.1) fun total same => ?_
  subst same
  refine .ite (fun short => .pure ?_) fun longTotal => ?_
  · rw [if_pos short]
    exact .none
  rw [if_neg longTotal]
  refine .bind (Span.byte_inside whole (by omega)) fun protocol same => ?_
  subst same
  refine .ite (fun other => .pure ?_) fun udp => ?_
  · rw [if_pos other]
    exact .none
  rw [if_neg udp]
  exact processUdp_inside whole bounds.1 (not_lt.mp longTotal) shorter

/-! ### Fragments -/

theorem shortPart_inside (slot : Fin maxFragEntries) (lens : Nat → Nat)
    (pmtu : Nat) :
    ∀ {left part : Nat}, part + left ≤ maxTotalParts →
      (shortPart slot lens pmtu part left).Meets (Access.Inside received)
        fun _ => True
  | 0, _, _ => .pure trivial
  | left + 1, part, fits => by
      have here : part + 1 ≤ maxTotalParts := by omega
      have later : part + 1 + left ≤ maxTotalParts := by omega
      refine .bind (touch_inside (lens_whole slot) .read here) fun _ _ => ?_
      exact .ite (fun _ => .pure trivial)
        fun _ => shortPart_inside slot lens pmtu later

/-- The entry is left as `entry` says, and the buffer handed up, if any, is
taken apart. -/
def Leaves (received : Nat) (left : FragEntry × Option (List UInt8))
    (result : FragEntry × Option Delivery) : Prop :=
  result.1 = left.1 ∧
    Delivers received (left.2.bind Tunnel.processIpv4) result.2

theorem complete_inside (slot : Fin maxFragEntries) (entry : FragEntry)
    (part : FragPart) :
    (complete slot entry part).Meets (Access.Inside received)
      (Leaves received (entry.complete part)) := by
  have counted := part.total_le
  have positive : 0 < part.total := Nat.zero_lt_of_lt part.part_lt
  have scanned : 0 + (part.total - 1) ≤ maxTotalParts := by omega
  have last : part.total - 1 + 1 ≤ maxTotalParts := by omega
  unfold complete FragEntry.complete
  dsimp only
  refine .bind (shortPart_inside slot _ _ scanned) fun _ _ => ?_
  refine .bind (touch_inside (lens_whole slot) .read last) fun _ _ => ?_
  generalize (part.total - 1) * part.pmtu + entry.lens part.last = rebuilt
  refine .ite (fun fits => ?_) fun large => .pure ?_
  · rw [if_pos fits]
    have length : (List.ofFn entry.data).length = fragCapacity :=
      List.length_ofFn
    generalize List.ofFn entry.data = data at length
    have whole : (Span.mk (.fragData slot) 0 data).region.Whole received := by
      simp only [Region.Whole, Span.region, Buffer.size, length,
        Nat.zero_add, le_refl]
    have inside : 0 + rebuilt ≤ data.length := by omega
    have bytes :
        (Span.mk (.fragData slot) 0 data).slice 0 rebuilt =
          (data.drop 0).take rebuilt :=
      Span.slice_eq inside
    rw [List.drop_zero] at bytes
    refine .bind (processIpv4_inside (Span.sub_whole whole inside))
      fun handed delivers => .pure ⟨rfl, ?_⟩
    rw [Option.bind_some, ← bytes]
    exact delivers
  · rw [if_neg large]
    exact ⟨rfl, .none⟩

theorem accept_inside (slot : Fin maxFragEntries) (entry : FragEntry)
    {payload : Span} (whole : payload.region.Whole received)
    {part : FragPart} {clen : Nat}
    (carried : 16 + clen ≤ payload.bytes.length)
    (sized : clen ≤ part.pmtu) (tick : Nat) :
    (accept slot entry payload clen part tick).Meets (Access.Inside received)
      (Leaves received (entry.accept part tick)) := by
  have placed :
      part.part * part.pmtu + clen ≤ (Region.data slot).length := by
    have stride := part.pmtu_le
    have below : part.part.val ≤ 3 := by
      have bound := part.part.isLt
      unfold maxTotalParts at bound
      omega
    have start : part.part * part.pmtu ≤ 3 * part.pmtu :=
      Nat.mul_le_mul_right part.pmtu below
    simp only [Region.data, fragCapacity, maxTotalParts]
    omega
  unfold accept FragEntry.accept
  refine .ite (fun other => .pure ?_) fun same => ?_
  · rw [if_pos other]
    exact ⟨rfl, .none⟩
  rw [if_neg same]
  dsimp only
  refine .ite (fun again => .pure ?_) fun fresh => ?_
  · rw [if_pos again]
    exact ⟨rfl, .none⟩
  rw [if_neg fresh]
  refine .bind (touch_inside whole .read carried) fun _ _ => ?_
  refine .bind (touch_inside (data_whole slot) .write placed) fun _ _ => ?_
  refine .bind (touch_inside (lens_whole slot) .write part.part.isLt)
    fun _ _ => ?_
  refine .ite (fun all => ?_) fun missing => .pure ?_
  · rw [if_pos all]
    exact complete_inside slot _ part
  · rw [if_neg missing]
    exact ⟨rfl, .none⟩

/-- A part that is opened carries its chunk, and the chunk fits the stride. -/
theorem openFrag_sized {payload : List UInt8} {part : FragPart}
    (opened : openFrag payload = some part) :
    16 + (rd16be payload 12).toNat ≤ payload.length ∧
      (rd16be payload 12).toNat ≤ part.pmtu := by
  unfold openFrag at opened
  dsimp only at opened
  split at opened
  · exact absurd opened.symm (Option.some_ne_none _)
  split at opened
  · exact absurd opened.symm (Option.some_ne_none _)
  split at opened
  · exact absurd opened.symm (Option.some_ne_none _)
  split at opened
  · exact absurd opened.symm (Option.some_ne_none _)
  · next sized =>
      rw [← Option.some.inj opened]
      dsimp only
      omega

/-- The table is left as `OnFrag` leaves it, and the call is its call. -/
def LeavesTable (received : Nat) (left : FragTable × Option Upcall)
    (result : FragTable × Option Delivery) : Prop :=
  result.1 = left.1 ∧ Delivers received left.2 result.2

theorem onFrag_inside (table : FragTable) (now later : Nat) {payload : Span}
    (whole : payload.region.Whole received) :
    (onFrag table now later payload).Meets (Access.Inside received)
      (LeavesTable received
        ((table.onFrag now later payload.bytes).1,
          (table.onFrag now later payload.bytes).2.bind
            Tunnel.processIpv4)) := by
  unfold onFrag FragTable.onFrag
  refine .ite (fun short => .pure ?_) fun long => ?_
  · have refused : openFrag payload.bytes = none := if_pos short
    rw [refused]
    exact ⟨rfl, .none⟩
  refine .bind (Span.word32_inside whole (by omega)) fun _ _ => ?_
  refine .bind (Span.word16_inside whole (by omega)) fun _ _ => ?_
  refine .bind (Span.byte_inside whole (by omega)) fun _ _ => ?_
  refine .bind (Span.byte_inside whole (by omega)) fun _ _ => ?_
  refine .bind (Span.word16_inside whole (by omega)) fun clen same => ?_
  subst same
  refine .bind (Span.word16_inside whole (by omega)) fun _ _ => ?_
  cases opened : openFrag payload.bytes with
  | none => exact .pure ⟨rfl, .none⟩
  | some part =>
      have sizes := openFrag_sized opened
      dsimp only
      unfold FragTable.onPart
      rcases table.findFragEntry now part.src part.id with
        ⟨found, _ | slot⟩
      · exact .pure ⟨rfl, .none⟩
      · refine .bind
          (accept_inside slot (found slot) whole sizes.1 sizes.2 later)
          fun accepted left => .pure ⟨?_, left.2⟩
        dsimp only
        rw [left.1]

/-! ### Control frames -/

theorem writeZeros_inside :
    ∀ {count index : Nat}, index + count ≤ Region.decompressed.length →
      (writeZeros index count).Meets (Access.Inside received) fun _ => True
  | 0, _, _ => .pure trivial
  | count + 1, index, fits => by
      have here : index + 1 ≤ Region.decompressed.length := by omega
      have later : index + 1 + count ≤ Region.decompressed.length := by
        omega
      exact .bind (touch_inside decompressed_whole .write here)
        fun _ _ => writeZeros_inside later

/-- `Decompress` stays inside the body and inside its buffer. -/
theorem decompressFrom_inside {body : Region} (whole : body.Whole received)
    {input : List UInt8} {inIndex outIndex room : Nat}
    (carried : inIndex + input.length ≤ body.length)
    (fits : outIndex + room ≤ Region.decompressed.length) :
    (decompressFrom body input inIndex outIndex room).Meets
      (Access.Inside received) (· = decompress input room) := by
  fun_induction decompress input room generalizing inIndex outIndex with
  | case1 room =>
      unfold decompressFrom
      exact .pure rfl
  | case2 byte rest =>
      unfold decompressFrom
      exact .pure rfl
  | case3 room =>
      simp only [List.length_cons, List.length_nil] at carried
      have written : outIndex + 1 ≤ Region.decompressed.length := by omega
      unfold decompressFrom
      refine .bind (touch_inside whole .read carried) fun _ _ => ?_
      refine .bind (touch_inside decompressed_whole .write written)
        fun _ _ => ?_
      rw [if_pos rfl]
      exact .pure rfl
  | case4 room count tail induction =>
      simp only [List.length_cons] at carried
      have first : inIndex + 1 ≤ body.length := by omega
      have second : inIndex + 1 + 1 ≤ body.length := by omega
      have written : outIndex + 1 ≤ Region.decompressed.length := by omega
      have zeros :
          outIndex + 1 + min count.toNat room ≤
            Region.decompressed.length := by
        omega
      unfold decompressFrom
      refine .bind (touch_inside whole .read first) fun _ _ => ?_
      refine .bind (touch_inside decompressed_whole .write written)
        fun _ _ => ?_
      rw [if_pos rfl]
      refine .bind (touch_inside whole .read second) fun _ _ => ?_
      refine .bind (writeZeros_inside zeros) fun _ _ => ?_
      refine .bind (induction (by omega) (by omega)) fun more same => ?_
      subst same
      exact .pure rfl
  | case5 byte rest room nonzero induction =>
      simp only [List.length_cons] at carried
      have first : inIndex + 1 ≤ body.length := by omega
      have written : outIndex + 1 ≤ Region.decompressed.length := by omega
      unfold decompressFrom
      refine .bind (touch_inside whole .read first) fun _ _ => ?_
      refine .bind (touch_inside decompressed_whole .write written)
        fun _ _ => ?_
      rw [if_neg nonzero]
      refine .bind (induction (by omega) (by omega)) fun more same => ?_
      subst same
      exact .pure rfl

/-- What a handler is called with, as the control plane has it. -/
def Handled.opened (handled : Handled) :
    LanPacketType × List UInt8 × UInt16 :=
  (handled.type, handled.body, handled.seq)

theorem dispatch_inside (header : LanPacketHeader) {region : Region}
    (whole : region.Whole received) {index count : Nat}
    (fits : index + count ≤ region.length) (body : List UInt8) :
    (dispatch header region index count body).Meets (Access.Inside received)
      fun handled =>
        handled.map Handled.opened =
          (LanPacketType.ofByte header.type).map (·, body, header.seq) := by
  unfold dispatch
  cases LanPacketType.ofByte header.type with
  | none => exact .pure rfl
  | some type =>
      cases type with
      | scan => exact .pure rfl
      | _ =>
          exact .bind (touch_inside whole .pass fits) fun _ _ => .pure rfl

/-- `OnControlFrame` stays inside its datagram and inside the buffer for
unpacked bodies. -/
theorem onControlFrame_inside {payload : Span}
    (whole : payload.region.Whole received) :
    (onControlFrame payload).Meets (Access.Inside received)
      fun handled =>
        handled.map Handled.opened =
          LdnControl.openedFrame payload.bytes := by
  unfold onControlFrame LdnControl.openedFrame openFrame readHeader
  dsimp only
  refine .ite (fun short => .pure ?_) fun long => ?_
  · rw [if_pos short]
    rfl
  rw [if_neg long]
  have head :
      0 + LanPacketHeader.codec.size ≤ payload.region.length := by
    rw [Nat.zero_add]
    exact not_lt.mp long
  refine .bind (touch_inside whole .read head) fun _ _ => ?_
  generalize
    LanPacketHeader.codec.decode
      (payload.bytes.take LanPacketHeader.codec.size) = header
  refine .ite (fun foreign => .pure ?_) fun known => ?_
  · rw [if_pos foreign]
    rfl
  rw [if_neg known]
  refine .ite (fun cut => .pure ?_) fun carried => ?_
  · rw [if_pos cut]
    rfl
  rw [if_neg carried]
  have inside := not_lt.mp carried
  have wire :
      payload.slice LanPacketHeader.codec.size header.length.toNat =
        wireBody header payload.bytes :=
    Span.slice_eq inside
  have bodyWhole := Span.sub_whole whole inside
  dsimp only
  unfold readBody
  refine .ite (fun packed => ?_) fun plain => ?_
  · have bodyLength :
        0 + (payload.sub LanPacketHeader.codec.size
            header.length.toNat).bytes.length ≤
          (payload.sub LanPacketHeader.codec.size
            header.length.toNat).region.length :=
      (Nat.zero_add _).le
    have room :
        0 + NetworkInfo.codec.size ≤ Region.decompressed.length := by
      simp only [Region.decompressed, Nat.zero_add, le_refl]
    rw [if_pos packed]
    refine .bind (decompressFrom_inside bodyWhole bodyLength room)
      fun unpacked same => ?_
    subst same
    rw [show (payload.sub LanPacketHeader.codec.size
      header.length.toNat).bytes = wireBody header payload.bytes from wire]
    cases unpacking :
      decompress (wireBody header payload.bytes) NetworkInfo.codec.size with
    | none => exact .pure rfl
    | some bytes =>
        have fits : 0 + bytes.length ≤ Region.decompressed.length := by
          rw [Nat.zero_add]
          exact decompress_length_le unpacking
        dsimp only
        refine .ite (fun other => .pure ?_) fun same => ?_
        · rw [if_pos other]
          rfl
        rw [if_neg same]
        exact dispatch_inside header decompressed_whole fits bytes
  · rw [if_neg plain]
    rw [show (payload.sub LanPacketHeader.codec.size
      header.length.toNat).bytes = wireBody header payload.bytes from wire]
    exact dispatch_inside header whole inside _

/-! ### Datagrams -/

theorem onFrame_inside (table : FragTable) (now later : Nat) (type : UInt8)
    {payload : Span} (whole : payload.region.Whole received) :
    (onFrame table now later type payload).Meets (Access.Inside received)
      (LeavesTable received
        (table.onFrame now later type payload.bytes)) := by
  unfold onFrame FragTable.onFrame
  refine .ite (fun packet => ?_) fun _ => .ite (fun part => ?_)
    fun other => .pure ?_
  · rw [if_pos packet]
    exact .bind (processIpv4_inside whole)
      fun _ delivers => .pure ⟨rfl, delivers⟩
  · rw [if_neg ‹_›, if_pos part]
    exact onFrag_inside table now later whole
  · rw [if_neg ‹_›, if_neg other]
    exact ⟨rfl, .none⟩

theorem onDatagram_inside (table : FragTable) (now later : Nat)
    (datagram : List UInt8) :
    (onDatagram table now later datagram).Meets
      (Access.Inside datagram.length)
      (LeavesTable datagram.length
        (table.onDatagram now later datagram)) := by
  cases datagram with
  | nil => exact .pure ⟨rfl, .none⟩
  | cons first payload =>
      have datagramWhole :
          (Span.mk .received 0 (first :: payload)).region.Whole
            (first :: payload).length :=
        (Nat.zero_add _).le
      have payloadWhole :
          (Span.mk .received 1 payload).region.Whole
            (first :: payload).length :=
        (Nat.add_comm _ _).le
      unfold onDatagram FragTable.onDatagram
      dsimp only
      refine .bind (Span.byte_inside datagramWhole (Nat.succ_pos _))
        fun byte same => ?_
      subst same
      refine .ite (fun ping => .pure ?_) fun _ =>
        .ite (fun login => .pure ?_) fun _ =>
          .ite (fun empty => .pure ?_) fun _ => ?_
      · rw [if_pos ping]
        exact ⟨rfl, .none⟩
      · rw [if_neg ‹_›, if_pos login]
        exact ⟨rfl, .none⟩
      · rw [if_neg ‹_›, if_neg ‹_›, if_pos empty]
        exact ⟨rfl, .none⟩
      · rw [if_neg ‹_›, if_neg ‹_›, if_neg ‹_›]
        exact onFrame_inside table now later _ payloadWhole

/-- What the tunnel and the control plane make of a datagram. -/
def opened (table : FragTable) (now later : Nat) (datagram : List UInt8) :
    FragTable × Option Upcall ×
      Option (LanPacketType × List UInt8 × UInt16) :=
  let delivered := table.onDatagram now later datagram
  (delivered.1, delivered.2,
    match delivered.2 with
    | some (.onControlFrame _ frame) => LdnControl.openedFrame frame
    | _ => none)

/-- The inbound path stays inside its arrays, and does what the tunnel and the
control plane do. -/
theorem inbound_meets (table : FragTable) (now later : Nat)
    (datagram : List UInt8) :
    (inbound table now later datagram).Meets (Access.Inside datagram.length)
      fun result =>
        (result.1, result.2.1.map Delivery.upcall,
            result.2.2.map Handled.opened) =
          opened table now later datagram := by
  unfold inbound opened
  refine .bind (onDatagram_inside table now later datagram)
    fun delivered left => ?_
  rcases delivered with ⟨after, made⟩
  rcases left with ⟨same, upcall, passed⟩
  dsimp only at same upcall passed ⊢
  rw [← same, ← upcall]
  cases made with
  | none => exact .pure rfl
  | some delivery =>
      cases delivery with
      | routeIncomingData src sport dst dport data => exact .pure rfl
      | onControlFrame src frame =>
          refine .bind (onControlFrame_inside (passed _ rfl))
            fun handled found => .pure ?_
          dsimp only
          rw [found]
          rfl

/--
Whatever a datagram and the fragment table hold, every element that the
inbound path reads, writes or passes on lies in the packet, entry or buffer
that it addresses.
-/
theorem inbound_accesses_inside (table : FragTable) (now later : Nat)
    (datagram : List UInt8) :
    ∀ access ∈ (inbound table now later datagram).trace,
      access.Inside datagram.length :=
  (inbound_meets table now later datagram).1

/-- A heartbeat whose packed body unpacks to twelve zeros. -/
def packedDatagram : List UInt8 :=
  [1, 0x45, 0, 0, 42, 0, 0, 0, 0, 64, 17, 0, 0, 10, 13, 5, 5, 10, 13, 6, 6,
    0x2C, 0xBC, 0x2C, 0xBC, 0, 22, 0, 0,
    0x00, 0x14, 0x45, 0x11, 4, 1, 2, 0, 12, 0, 1, 0, 0, 11]

/-- The run of zeros is read at the end of the packet, written in the buffer
for unpacked bodies, and its handler gets the twelve bytes of that buffer. -/
theorem packedDatagram_inside :
    (Access.mk .read ⟨.received, 41, 2⟩ 1 1).Inside
        packedDatagram.length ∧
      (Access.mk .write .decompressed 11 1).Inside packedDatagram.length ∧
        (Access.mk .pass .decompressed 0 12).Inside
          packedDatagram.length :=
  have inside := inbound_accesses_inside .empty 0 0 packedDatagram
  ⟨inside _ (by decide +kernel), inside _ (by decide +kernel),
    inside _ (by decide +kernel)⟩

end SlpClient.Inbound
