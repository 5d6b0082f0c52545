import SlpClient.Bsd.Types
import SlpClient.Ldn.Types
import SlpClient.Lib.ByteCodec
import SlpClient.Lib.Chunks
import SlpClient.Net.Address

/-!
# Packets of the tunnel

`slp::tun::Send` wraps a datagram of a game into an IPv4 packet and hands it
to the relay client, which frames it whole or in parts.  `ProcessIpv4` is the
separate parser that opens a packet on the other console.
-/

namespace SlpClient.Tunnel

open SlpClient.Bsd
open SlpClient.Lib
open SlpClient.Net

/-! ## Byte helpers -/

/-- `Wr16be`. -/
def wr16be (value : UInt16) : List UInt8 :=
  beBytes 2 value.toNat

/-- `Wr32be`. -/
def wr32be (value : UInt32) : List UInt8 :=
  beBytes 4 value.toNat

/-- The 16-bit field at `offset`, most significant byte first. -/
def rd16be (bytes : List UInt8) (offset : Nat) : UInt16 :=
  UInt16.ofNat (beValue ((bytes.drop offset).take 2))

/-- `Rd32be`. -/
def rd32be (bytes : List UInt8) (offset : Nat) : UInt32 :=
  UInt32.ofNat (beValue ((bytes.drop offset).take 4))

@[simp]
theorem wr16be_length (value : UInt16) : (wr16be value).length = 2 :=
  beBytes_length ..

@[simp]
theorem wr32be_length (value : UInt32) : (wr32be value).length = 4 :=
  beBytes_length ..

/-- A 16-bit field is read as it was written. -/
theorem rd16be_of_take {bytes : List UInt8} {offset : Nat} {value : UInt16}
    (field : (bytes.drop offset).take 2 = wr16be value) :
    rd16be bytes offset = value := by
  have bound : value.toNat < 256 ^ 2 := value.toNat_lt
  rw [rd16be, field, wr16be, beValue_beBytes, Nat.mod_eq_of_lt bound,
    UInt16.ofNat_toNat]

/-- A 32-bit field is read as it was written. -/
theorem rd32be_of_take {bytes : List UInt8} {offset : Nat} {value : UInt32}
    (field : (bytes.drop offset).take 4 = wr32be value) :
    rd32be bytes offset = value := by
  have bound : value.toNat < 256 ^ 4 := value.toNat_lt
  rw [rd32be, field, wr32be, beValue_beBytes, Nat.mod_eq_of_lt bound,
    UInt32.ofNat_toNat]

/-- The sum of the big-endian 16-bit words, an odd last byte padded. -/
def wordSum : List UInt8 → Nat
  | [] => 0
  | [high] => high.toNat * 256
  | high :: low :: rest => high.toNat * 256 + low.toNat + wordSum rest

/-- `while (sum >> 16) sum = (sum & 0xFFFF) + (sum >> 16)`. -/
def foldCarries (sum : Nat) : Nat :=
  if sum / 65536 = 0 then sum
  else foldCarries (sum % 65536 + sum / 65536)
termination_by sum
decreasing_by omega

/-- `IpChecksum`. -/
def ipChecksum (bytes : List UInt8) : UInt16 :=
  UInt16.ofNat (65535 - foldCarries (wordSum bytes))

/-! ## Relay frames -/

/-- `SLP_MTU`: the largest packet that travels in one frame. -/
def slpMtu : Nat := 1400

/-- `SLP_TYPE_IPV4`. -/
def slpTypeIpv4 : UInt8 := 0x01

/-- `SLP_TYPE_PING`. -/
def slpTypePing : UInt8 := 0x02

/-- `SLP_TYPE_IPV4_FRAG`. -/
def slpTypeIpv4Frag : UInt8 := 0x03

/-- `SLP_TYPE_AUTH_ME`. -/
def slpTypeAuthMe : UInt8 := 0x04

/-- `slpFrameIpv4`; an empty frame stands for the result zero. -/
def slpFrameIpv4 (packet : List UInt8) : List UInt8 :=
  if packet.length = 0 then []
  else slpTypeIpv4 :: packet

/-- The body of a part: its head as `OnFrag` reads it back, and its chunk. -/
def fragBody (src dst : UInt32) (id : UInt16) (part total : UInt8)
    (bytes : List UInt8) : List UInt8 :=
  wr32be src ++ wr32be dst ++ wr16be id ++ [part, total] ++
    wr16be (UInt16.ofNat bytes.length) ++ wr16be (UInt16.ofNat slpMtu) ++
    bytes

/-- `slpFrameIpv4Frag`. -/
def slpFrameIpv4Frag (src dst : UInt32) (id : UInt16) (part total : UInt8)
    (bytes : List UInt8) : List UInt8 :=
  slpTypeIpv4Frag :: fragBody src dst id part total bytes

/-- `slpIpv4Src`. -/
def slpIpv4Src (packet : List UInt8) : UInt32 :=
  rd32be packet 12

/-- `slpIpv4Dst`. -/
def slpIpv4Dst (packet : List UInt8) : UInt32 :=
  rd32be packet 16

/--
What a call of the relay client leaves behind: the datagrams that `sendto`
wrote in full, in order, and the value returned.
-/
structure Relayed where
  datagrams : List (List UInt8)
  ok : Bool

/-- `slpClientSendRaw`, where `written` says whether `sendto` took it all. -/
def slpClientSendRaw (written : Bool) (frame : List UInt8) : Relayed :=
  if written then ⟨[frame], true⟩ else ⟨[], false⟩

/--
The fragmentation loop of `slpClientSendIpv4`.  `writes part` is the outcome
of the `sendto` of that part.
-/
def sendParts (writes : Nat → Bool) (packet : List UInt8) (id : UInt16)
    (total : UInt8) (offset part : Nat) : Relayed :=
  if offset < packet.length then
    let bytes := (packet.drop offset).take slpMtu
    let raw :=
      slpClientSendRaw (writes part)
        (slpFrameIpv4Frag (slpIpv4Src packet) (slpIpv4Dst packet) id
          (UInt8.ofNat part) total bytes)
    if raw.ok then
      let rest :=
        sendParts writes packet id total (offset + bytes.length) (part + 1)
      ⟨raw.datagrams ++ rest.datagrams, rest.ok⟩
    else ⟨raw.datagrams, false⟩
  else ⟨[], true⟩
termination_by packet.length - offset
decreasing_by
  simp only [slpMtu, List.length_take, List.length_drop]
  omega

/-- `slpClientSendIpv4`. -/
def slpClientSendIpv4 (writes : Nat → Bool) (packet : List UInt8) : Relayed :=
  if packet.length ≤ slpMtu then
    let frame := slpFrameIpv4 packet
    if frame.length = 0 then ⟨[], false⟩
    else slpClientSendRaw (writes 0) frame
  else
    let total := (packet.length + slpMtu - 1) / slpMtu
    if total > 255 then ⟨[], false⟩
    else
      sendParts writes packet (rd16be packet 4) (UInt8.ofNat total) 0 0

/-! ### What a successful send emits -/

/-- The body of part number `part` of a packet. -/
def partBody (packet : List UInt8) (part : Nat) : List UInt8 :=
  fragBody (slpIpv4Src packet) (slpIpv4Dst packet) (rd16be packet 4)
    (UInt8.ofNat part) (UInt8.ofNat (chunkCount slpMtu packet))
    (chunk slpMtu packet part)

/-- The frame of part number `part` of a packet. -/
def partFrame (packet : List UInt8) (part : Nat) : List UInt8 :=
  slpTypeIpv4Frag :: partBody packet part

/-- The fragmentation loop of a packet from part number `part` on. -/
def remainingParts (writes : Nat → Bool) (packet : List UInt8)
    (part : Nat) : Relayed :=
  sendParts writes packet (rd16be packet 4)
    (UInt8.ofNat (chunkCount slpMtu packet))
    (min (slpMtu * part) packet.length) part

/-- Past the last part the loop ends with success. -/
theorem remainingParts_done
    (writes : Nat → Bool) {packet : List UInt8} {part : Nat}
    (done : chunkCount slpMtu packet ≤ part) :
    remainingParts writes packet part = ⟨[], true⟩ := by
  have past : packet.length ≤ slpMtu * part := by
    by_contra short
    rw [not_le] at short
    have counted := div_lt_chunkCount (by decide : 0 < slpMtu) short
    rw [Nat.mul_div_cancel_left _ (by decide : 0 < slpMtu)] at counted
    omega
  unfold remainingParts sendParts
  rw [Nat.min_eq_right past, if_neg (lt_irrefl _)]

/-- One round of the loop sends one part and goes on to the next. -/
theorem remainingParts_next
    (writes : Nat → Bool) {packet : List UInt8} {part : Nat}
    (more : part < chunkCount slpMtu packet) :
    remainingParts writes packet part =
      if writes part then
        { datagrams :=
            partFrame packet part ::
              (remainingParts writes packet (part + 1)).datagrams
          ok := (remainingParts writes packet (part + 1)).ok }
      else ⟨[], false⟩ := by
  have starts := mul_lt_of_lt_chunkCount more
  have advanced :
      slpMtu * part + (chunk slpMtu packet part).length =
        min (slpMtu * (part + 1)) packet.length := by
    rw [chunk_length, Nat.mul_add]
    omega
  have unfolded : remainingParts writes packet part =
      sendParts writes packet (rd16be packet 4)
        (UInt8.ofNat (chunkCount slpMtu packet)) (slpMtu * part) part := by
    rw [remainingParts, Nat.min_eq_left starts.le]
  rw [unfolded, sendParts, if_pos starts]
  change
    (if (slpClientSendRaw (writes part) (partFrame packet part)).ok then
      _ else _) = _
  cases writes part with
  | false => rfl
  | true =>
      rw [show (packet.drop (slpMtu * part)).take slpMtu =
        chunk slpMtu packet part from rfl, advanced]
      rfl

/-- A loop that succeeds has sent every remaining part, in order. -/
theorem remainingParts_datagrams
    {writes : Nat → Bool} {packet : List UInt8} {part : Nat}
    (ok : (remainingParts writes packet part).ok = true) :
    (remainingParts writes packet part).datagrams =
      (List.range' part (chunkCount slpMtu packet - part)).map
        (partFrame packet) := by
  induction left : chunkCount slpMtu packet - part generalizing part with
  | zero =>
      rw [remainingParts_done writes (by omega)]
      rfl
  | succ left induction =>
      rw [remainingParts_next writes (by omega)] at ok ⊢
      by_cases written : writes part
      · rw [if_pos written] at ok ⊢
        rw [List.range'_succ, List.map_cons, induction ok (by omega)]
      · rw [if_neg written] at ok
        contradiction

/-- The loop succeeds when every datagram is written in full. -/
theorem remainingParts_ok
    {writes : Nat → Bool} (written : ∀ part, writes part = true)
    (packet : List UInt8) (part : Nat) :
    (remainingParts writes packet part).ok = true := by
  induction left : chunkCount slpMtu packet - part generalizing part with
  | zero => rw [remainingParts_done writes (by omega)]
  | succ left induction =>
      rw [remainingParts_next writes (by omega), if_pos (written part)]
      exact induction (part + 1) (by omega)

/-- A packet that fits one frame is sent whole. -/
theorem slpClientSendIpv4_whole
    (writes : Nat → Bool) {packet : List UInt8}
    (nonempty : 0 < packet.length) (short : packet.length ≤ slpMtu) :
    slpClientSendIpv4 writes packet =
      slpClientSendRaw (writes 0) (slpTypeIpv4 :: packet) := by
  have framed : slpFrameIpv4 packet = slpTypeIpv4 :: packet :=
    if_neg nonempty.ne'
  rw [slpClientSendIpv4, if_pos short, framed]
  rfl

/-- A longer packet goes through the fragmentation loop. -/
theorem slpClientSendIpv4_parts
    (writes : Nat → Bool) {packet : List UInt8}
    (long : slpMtu < packet.length)
    (counted : chunkCount slpMtu packet ≤ 255) :
    slpClientSendIpv4 writes packet = remainingParts writes packet 0 := by
  rw [slpClientSendIpv4, if_neg (not_le.mpr long)]
  exact if_neg (not_lt.mpr counted)

/-! ## Inbound packets -/

/-- Calls into the control plane and the proxy sockets. -/
inductive Upcall
  | onControlFrame (src : UInt32) (frame : List UInt8)
  | routeIncomingData
      (src : UInt32) (sport : UInt16) (dst : UInt32) (dport : UInt16)
      (protocol : ProtocolType) (data : List UInt8)
  deriving DecidableEq, Repr

/-- The header length that the first byte announces. -/
def headerLength (packet : List UInt8) : Nat :=
  (packet.getD 0 0 &&& 0x0F).toNat * 4

/-- `slpIpv4Valid`. -/
def slpIpv4Valid (packet : List UInt8) : Bool :=
  20 ≤ packet.length && packet.getD 0 0 >>> 4 == 4 &&
    20 ≤ headerLength packet && headerLength packet ≤ packet.length

/-- `slpIpv4TotalLen`. -/
def slpIpv4TotalLen (packet : List UInt8) : Nat :=
  let total := (rd16be packet 2).toNat
  if total ≤ packet.length then total else packet.length

/-- `ProcessIpv4`. -/
def processIpv4 (packet : List UInt8) : Option Upcall :=
  let uoff := headerLength packet
  let total := slpIpv4TotalLen packet
  if !slpIpv4Valid packet then none
  else if packet.length < uoff + 8 then none
  else if total < uoff + 8 then none
  else if packet.getD 9 0 ≠ 17 then none
  else
    let sport := rd16be packet uoff
    let dport := rd16be packet (uoff + 2)
    let ulen := (rd16be packet (uoff + 4)).toNat
    if ulen < 8 ∨ uoff + ulen > total then none
    else
      let src := rd32be packet 12
      let dst := rd32be packet 16
      let data := (packet.drop (uoff + 8)).take (ulen - 8)
      if dport = Ldn.controlPort then some (.onControlFrame src data)
      else some (.routeIncomingData src sport dst dport .udp data)

/-! ## Sending -/

/-- What `slp::tun::Send` reads of the runtime. -/
structure Runtime where
  running : Bool
  clientOpen : Bool

/-- The globals that `slp::tun::Send` uses: `g_local_ip` and `g_ip_id`. -/
structure Sender where
  localIp : UInt32
  ipId : UInt16

/-- The arguments of `slp::tun::Send`; it ignores the protocol. -/
structure SendCall where
  src : UInt32
  sport : UInt16
  dst : UInt32
  dport : UInt16
  data : List UInt8

/-- What a call of `slp::tun::Send` leaves behind. -/
structure Sent where
  sender : Sender
  relayed : Relayed
  delivered : Option Upcall

/-- The IPv4 header with the given checksum field. -/
def ipHeader (src dst : UInt32) (id total checksum : UInt16) : List UInt8 :=
  [0x45, 0x00] ++ wr16be total ++ wr16be id ++ [0x40, 0x00, 64, 17] ++
    wr16be checksum ++ wr32be src ++ wr32be dst

/-- The UDP header; the checksum is left out. -/
def udpHeader (sport dport udpLength : UInt16) : List UInt8 :=
  wr16be sport ++ wr16be dport ++ wr16be udpLength ++ [0, 0]

/-- The packet that `slp::tun::Send` builds. -/
def ipPacket (call : SendCall) (src : UInt32) (id : UInt16) : List UInt8 :=
  let total := UInt16.ofNat (20 + 8 + call.data.length)
  let blank := ipHeader src call.dst id total 0
  ipHeader src call.dst id total (ipChecksum blank) ++
    udpHeader call.sport call.dport (UInt16.ofNat (8 + call.data.length)) ++
    call.data

/-- The source address that peers see. -/
def Sender.presentedSrc (sender : Sender) (src : UInt32) : UInt32 :=
  if src = 0 then sender.localIp else src

/-- `slp::tun::Send`. -/
def Sender.send (sender : Sender) (runtime : Runtime) (writes : Nat → Bool)
    (call : SendCall) : Sent :=
  if call.data.length > 2000 then ⟨sender, ⟨[], false⟩, none⟩
  else if !runtime.running then ⟨sender, ⟨[], false⟩, none⟩
  else if !runtime.clientOpen then ⟨sender, ⟨[], false⟩, none⟩
  else if isLoopback call.dst then
    ⟨sender, ⟨[], true⟩,
      some
        (.routeIncomingData call.dst call.sport call.dst call.dport .udp
          call.data)⟩
  else
    ⟨{ sender with ipId := sender.ipId + 1 },
      slpClientSendIpv4 writes
        (ipPacket call (sender.presentedSrc call.src) sender.ipId),
      none⟩

end SlpClient.Tunnel
