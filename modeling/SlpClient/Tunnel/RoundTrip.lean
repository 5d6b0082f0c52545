import Mathlib.Data.List.Chain
import Mathlib.Data.List.ReduceOption
import SlpClient.Tunnel.Assembly

/-!
# Sending and receiving are inverse

What `slp::tun::Send` emits, split by `RunLoop` and fed to `OnFrame` of
another console in any order, comes out as one upcall with the addresses,
ports and payload that were sent.  This joins the packet builder, the framing
at the 1400-byte boundary, the reassembly and the separate packet parser.
-/

namespace SlpClient.Tunnel

open SlpClient.Lib
open SlpClient.Net

/-! ## Packets -/

/-- The upcall that a datagram from `src` is to cause. -/
def SendCall.upcall (call : SendCall) (src : UInt32) : Upcall :=
  if call.dport = Ldn.controlPort then .onControlFrame src call.data
  else
    .routeIncomingData src call.sport call.dst call.dport .udp call.data

theorem ipPacket_length (call : SendCall) (src : UInt32) (id : UInt16) :
    (ipPacket call src id).length = 28 + call.data.length := by
  simp [ipPacket, ipHeader, udpHeader]
  omega

theorem slpIpv4Src_ipPacket
    (call : SendCall) (src : UInt32) (id : UInt16) :
    slpIpv4Src (ipPacket call src id) = src :=
  rd32be_of_take rfl

theorem identification_ipPacket
    (call : SendCall) (src : UInt32) (id : UInt16) :
    rd16be (ipPacket call src id) 4 = id :=
  rd16be_of_take rfl

/-- `ProcessIpv4` reads a built packet as the datagram it was built from. -/
theorem processIpv4_ipPacket
    (call : SendCall) (src : UInt32) (id : UInt16)
    (short : call.data.length ≤ 2000) :
    processIpv4 (ipPacket call src id) = some (call.upcall src) := by
  have length := ipPacket_length call src id
  have srcField : rd32be (ipPacket call src id) 12 = src :=
    rd32be_of_take rfl
  have dstField : rd32be (ipPacket call src id) 16 = call.dst :=
    rd32be_of_take rfl
  have sportField : rd16be (ipPacket call src id) 20 = call.sport :=
    rd16be_of_take rfl
  have dportField : rd16be (ipPacket call src id) 22 = call.dport :=
    rd16be_of_take rfl
  have totalField :
      (rd16be (ipPacket call src id) 2).toNat =
        28 + call.data.length := by
    have field :
        rd16be (ipPacket call src id) 2 =
          UInt16.ofNat (20 + 8 + call.data.length) :=
      rd16be_of_take rfl
    rw [field, UInt16.toNat_ofNat']
    exact Nat.mod_eq_of_lt (by omega)
  have udpField :
      (rd16be (ipPacket call src id) 24).toNat =
        8 + call.data.length := by
    have field :
        rd16be (ipPacket call src id) 24 =
          UInt16.ofNat (8 + call.data.length) :=
      rd16be_of_take rfl
    rw [field, UInt16.toNat_ofNat']
    exact Nat.mod_eq_of_lt (by omega)
  have dataField : (ipPacket call src id).drop 28 = call.data := rfl
  have versionByte : (ipPacket call src id).getD 0 0 = 0x45 := rfl
  have protocolByte : (ipPacket call src id).getD 9 0 = 17 := rfl
  generalize ipPacket call src id = packet at *
  have header : headerLength packet = 20 := by
    unfold headerLength
    rw [versionByte]
    rfl
  have valid : slpIpv4Valid packet = true := by
    unfold slpIpv4Valid
    rw [versionByte, header, length]
    simp only [Bool.and_eq_true, decide_eq_true_eq]
    exact ⟨⟨⟨by omega, rfl⟩, le_rfl⟩, by omega⟩
  have total : slpIpv4TotalLen packet = 28 + call.data.length := by
    unfold slpIpv4TotalLen
    rw [totalField, length]
    exact if_pos le_rfl
  unfold processIpv4 SendCall.upcall
  dsimp only
  rw [header, valid, total, length, protocolByte, udpField, srcField,
    dstField, sportField, dportField]
  rw [if_neg (by decide), if_neg (by omega), if_neg (by omega),
    if_neg (by decide), if_neg (by omega), Nat.add_sub_cancel_left,
    dataField, List.take_length]
  split <;> rfl

/-! ## Parts of one datagram -/

/-- Frames arrive within the timeout of each other. -/
def WithinTimeout (arrivals : List Arrival) : Prop :=
  arrivals.IsChain
    (fun earlier next => next.now - earlier.later ≤ fragTimeoutTicks)

/-- `RunLoop` hands the body of a part to `OnFrag`. -/
theorem relayMachine_partFrame
    (table : FragTable) {arrival : Arrival} {datagram : Datagram}
    {part : Fin maxTotalParts} (inside : part < datagram.parts)
    (framed : arrival.bytes = partFrame datagram.bytes part) :
    relayMachine.step table arrival =
      ((table.onPart arrival.now arrival.later
          (datagram.fragPart part inside)).1,
        (table.onPart arrival.now arrival.later
          (datagram.fragPart part inside)).2.bind processIpv4) := by
  change table.onDatagram arrival.now arrival.later arrival.bytes = _
  have opened :
      table.onFrag arrival.now arrival.later
          (partBody datagram.bytes part) =
        table.onPart arrival.now arrival.later
          (datagram.fragPart part inside) := by
    unfold FragTable.onFrag
    rw [datagram.openFrag_partBody part inside]
  rw [framed, ← opened]
  rfl

/-- A whole packet goes to `ProcessIpv4` and leaves the table alone. -/
theorem relayMachine_whole
    (table : FragTable) {arrival : Arrival} {packet : List UInt8}
    (nonempty : packet ≠ [])
    (framed : arrival.bytes = slpTypeIpv4 :: packet) :
    relayMachine.step table arrival = (table, processIpv4 packet) := by
  change table.onDatagram arrival.now arrival.later arrival.bytes = _
  rw [framed]
  unfold FragTable.onDatagram
  dsimp only
  rw [if_neg (by decide), if_neg (by decide), if_neg nonempty]
  rfl

/-- Different parts travel in different frames. -/
theorem partFrame_injective
    {datagram : Datagram} {left right : Fin maxTotalParts}
    (leftInside : left < datagram.parts)
    (rightInside : right < datagram.parts)
    (equal :
      partFrame datagram.bytes left = partFrame datagram.bytes right) :
    left = right :=
  Datagram.partBody_injective leftInside rightInside
    (List.cons.inj equal).2

/-- The arrivals bring exactly the parts that are not in `seen`, once. -/
structure BringsRest (datagram : Datagram)
    (seen : Finset (Fin maxTotalParts)) (arrivals : List Arrival) :
    Prop where
  distinct : (arrivals.map Arrival.bytes).Nodup
  framed :
    ∀ arrival ∈ arrivals,
      ∃ part : Fin maxTotalParts,
        part < datagram.parts ∧
          arrival.bytes = partFrame datagram.bytes part
  rest :
    ∀ part : Fin maxTotalParts, part < datagram.parts →
      (part ∉ seen ↔
        partFrame datagram.bytes part ∈ arrivals.map Arrival.bytes)

section BringsRest

variable
    {datagram : Datagram}
    {seen : Finset (Fin maxTotalParts)}
    {arrival : Arrival}
    {later : List Arrival}
    {part : Fin maxTotalParts}

/-- After one of the parts, the others are left. -/
theorem BringsRest.tail
    (brings : BringsRest datagram seen (arrival :: later))
    (inside : part < datagram.parts)
    (framed : arrival.bytes = partFrame datagram.bytes part) :
    BringsRest datagram (insert part seen) later where
  distinct := (List.nodup_cons.mp brings.distinct).2
  framed other arrives :=
    brings.framed other (List.mem_cons_of_mem _ arrives)
  rest := by
    intro other otherInside
    have whole := brings.rest other otherInside
    rw [List.map_cons, List.mem_cons] at whole
    have headNew := (List.nodup_cons.mp brings.distinct).1
    rw [Finset.mem_insert, not_or]
    constructor
    · rintro ⟨differs, unseen⟩
      rcases whole.mp unseen with head | tail
      · rw [framed] at head
        exact absurd (partFrame_injective otherInside inside head) differs
      · exact tail
    · intro tail
      refine ⟨?_, whole.mpr (Or.inr tail)⟩
      rintro rfl
      rw [framed] at headNew
      exact headNew tail

/-- A part that is brought was not there. -/
theorem BringsRest.unseen
    (brings : BringsRest datagram seen (arrival :: later))
    (inside : part < datagram.parts)
    (framed : arrival.bytes = partFrame datagram.bytes part) :
    part ∉ seen := by
  rw [brings.rest part inside, ← framed]
  exact List.mem_cons_self

/-- The datagram is complete exactly when nothing is left to bring. -/
theorem BringsRest.complete_iff
    {arrivals : List Arrival} (brings : BringsRest datagram seen arrivals)
    (counted : seen ⊆ FragEntry.want datagram.parts) :
    seen = FragEntry.want datagram.parts ↔ arrivals = [] := by
  constructor
  · intro full
    cases arrivals with
    | nil => rfl
    | cons arrival later =>
        rcases brings.framed arrival List.mem_cons_self with
          ⟨part, inside, framed⟩
        have member : part ∈ FragEntry.want datagram.parts := by
          simpa [FragEntry.want] using inside
        rw [← full] at member
        exact absurd member (brings.unseen inside framed)
  · rintro rfl
    apply Finset.Subset.antisymm counted
    intro part member
    have inside : part.val < datagram.parts := by
      simpa [FragEntry.want] using member
    by_contra unseen
    have brought := (brings.rest part inside).mp unseen
    simp at brought

end BringsRest

/-- The remaining parts of a tracked datagram hand it up exactly once. -/
theorem outputs_rest_of_tracks
    {datagram : Datagram} {slot : Fin maxFragEntries}
    {seen : Finset (Fin maxTotalParts)} {table : FragTable}
    {last : Arrival} {arrivals : List Arrival}
    (tracked :
      FragTable.Tracks datagram slot seen last.later table)
    (brings : BringsRest datagram seen arrivals)
    (unfinished : arrivals ≠ [])
    (timely : WithinTimeout (last :: arrivals)) :
    (relayMachine.outputs table arrivals).reduceOption =
      (processIpv4 datagram.bytes).toList := by
  induction arrivals generalizing table seen last with
  | nil => exact absurd rfl unfinished
  | cons arrival rest induction =>
      rcases brings.framed arrival List.mem_cons_self with
        ⟨part, inside, framed⟩
      have missing := brings.unseen inside framed
      have tail := brings.tail inside framed
      have counted :
          insert part seen ⊆ FragEntry.want datagram.parts := by
        rw [← tracked.seen_eq]
        apply Finset.insert_subset _ tracked.carries.seen
        simpa [FragEntry.want] using inside
      have soon : arrival.now - last.later ≤ fragTimeoutTicks :=
        (List.isChain_cons_cons.mp timely).1
      have timelyRest : WithinTimeout (arrival :: rest) :=
        (List.isChain_cons_cons.mp timely).2
      rw [Machine.outputs_cons]
      unfold Machine.next Machine.output
      rw [relayMachine_partFrame table inside framed]
      by_cases done : rest = []
      · subst done
        have full := (tail.complete_iff counted).mpr rfl
        rw [(tracked.onPart_last soon missing full).2]
        change [processIpv4 datagram.bytes].reduceOption = _
        cases processIpv4 datagram.bytes <;> rfl
      · have partly :=
          mt (tail.complete_iff counted).mp done
        rcases tracked.onPart_missing soon missing partly with
          ⟨stored, nothing⟩
        rw [nothing]
        exact induction stored tail done timelyRest

/-- All parts of a datagram without an entry hand it up exactly once. -/
theorem outputs_of_absent
    {datagram : Datagram} {table : FragTable} {arrivals : List Arrival}
    (absent : table.Absent datagram)
    (room :
      ∃ slot,
        (table slot).active = false ∨ (table slot).lastTick < int64Max)
    (brings : BringsRest datagram ∅ arrivals)
    (timely : WithinTimeout arrivals) :
    (relayMachine.outputs table arrivals).reduceOption =
      (processIpv4 datagram.bytes).toList := by
  cases arrivals with
  | nil =>
      have full := (brings.complete_iff (Finset.empty_subset _)).mpr rfl
      have started : (⟨0, by decide⟩ : Fin maxTotalParts) ∈
          FragEntry.want datagram.parts := by
        have parted := datagram.one_lt_parts
        simp [FragEntry.want]
        omega
      rw [← full] at started
      exact absurd started (Finset.notMem_empty _)
  | cons arrival rest =>
      rcases brings.framed arrival List.mem_cons_self with
        ⟨part, inside, framed⟩
      have tail := brings.tail inside framed
      have unfinished : rest ≠ [] := by
        intro done
        have full := (tail.complete_iff (by
          apply Finset.insert_subset _ (Finset.empty_subset _)
          simpa [FragEntry.want] using inside)).mpr done
        exact FragTable.singleton_ne_want datagram part full
      have expired := absent.expire arrival.now
      have found :
          ((table.expire arrival.now).reuseSlot
            (List.finRange maxFragEntries) none int64Max).isSome := by
        apply FragTable.reuseSlot_isSome
        rcases room with ⟨slot, candidate⟩
        refine Or.inr ⟨slot, List.mem_finRange slot, ?_⟩
        unfold FragTable.expire FragEntry.expire
        split
        · exact Or.inl rfl
        · exact candidate
      rcases Option.isSome_iff_exists.mp found with ⟨slot, reused⟩
      rcases FragTable.onPart_first expired reused with
        ⟨tracked, nothing⟩
      rw [Machine.outputs_cons]
      unfold Machine.next Machine.output
      rw [relayMachine_partFrame table inside framed, nothing]
      exact outputs_rest_of_tracks tracked tail unfinished timely

/-! ## Sending and receiving -/

/-- What a call that reaches the relay client hands to it. -/
theorem Sender.send_relayed
    {sender : Sender} {runtime : Runtime} {writes : Nat → Bool}
    {call : SendCall} (remote : isLoopback call.dst = false)
    (ok : (sender.send runtime writes call).relayed.ok = true) :
    call.data.length ≤ 2000 ∧
      (sender.send runtime writes call).relayed =
        slpClientSendIpv4 writes
          (ipPacket call (sender.presentedSrc call.src)
            sender.ipId) := by
  unfold Sender.send at ok ⊢
  by_cases long : call.data.length > 2000
  · rw [if_pos long] at ok
    contradiction
  · rw [if_neg long] at ok ⊢
    refine ⟨not_lt.mp long, ?_⟩
    by_cases stopped : (!runtime.running) = true
    · rw [if_pos stopped] at ok
      contradiction
    · rw [if_neg stopped] at ok ⊢
      by_cases closed : (!runtime.clientOpen) = true
      · rw [if_pos closed] at ok
        contradiction
      · rw [if_neg closed, if_neg (by rw [remote]; decide)]

/-- A call succeeds when every frame is written in full. -/
theorem Sender.send_ok
    {sender : Sender} {runtime : Runtime} {writes : Nat → Bool}
    {call : SendCall} (running : runtime.running = true)
    (clientOpen : runtime.clientOpen = true)
    (remote : isLoopback call.dst = false)
    (written : ∀ part, writes part = true)
    (short : call.data.length ≤ 2000) :
    (sender.send runtime writes call).relayed.ok = true := by
  have length :=
    ipPacket_length call (sender.presentedSrc call.src) sender.ipId
  unfold Sender.send
  rw [if_neg (not_lt.mpr short), running, clientOpen, remote,
    if_neg (by decide), if_neg (by decide), if_neg (by decide)]
  dsimp only
  generalize
    ipPacket call (sender.presentedSrc call.src) sender.ipId = packet
    at *
  by_cases whole : packet.length ≤ slpMtu
  · rw [slpClientSendIpv4_whole writes (by omega) whole, slpClientSendRaw,
      if_pos (written 0)]
  · rw [not_le] at whole
    have counted : chunkCount slpMtu packet ≤ 255 := by
      change (packet.length + 1400 - 1) / 1400 ≤ 255
      omega
    rw [slpClientSendIpv4_parts writes whole counted]
    exact remainingParts_ok written packet 0

/-- The fragments of a datagram bring every part once. -/
theorem bringsRest_of_perm
    {datagram : Datagram} {arrivals : List Arrival}
    (reordered :
      (arrivals.map Arrival.bytes).Perm
        ((List.range datagram.parts).map (partFrame datagram.bytes))) :
    BringsRest datagram ∅ arrivals where
  distinct := by
    rw [reordered.nodup_iff]
    have bodies := datagram.fragments_nodup
    rw [Datagram.fragments_eq] at bodies
    have framed := bodies.map (List.cons_injective (a := slpTypeIpv4Frag))
    rw [List.map_map] at framed
    exact framed
  framed := by
    intro arrival arrives
    have member := reordered.mem_iff.mp (List.mem_map_of_mem arrives)
    rcases List.mem_map.mp member with ⟨part, counted, equal⟩
    have inside := List.mem_range.mp counted
    exact
      ⟨⟨part, inside.trans_le datagram.parts_le⟩, inside, equal.symm⟩
  rest := by
    intro part inside
    rw [reordered.mem_iff]
    simp only [Finset.notMem_empty, not_false_eq_true, true_iff]
    exact List.mem_map.mpr ⟨part, List.mem_range.mpr inside, rfl⟩

/--
Whatever a console sends through the tunnel to another one, the receiver of
the emitted datagrams, in any order, makes exactly one upcall: to the control
plane or to the proxy sockets, with the addresses, ports and payload sent.
The receiver has no entry for the source and identification, has a slot to
take, and lets no entry expire between the datagrams.
-/
theorem send_onDatagram_roundTrip
    (sender : Sender) (runtime : Runtime) (writes : Nat → Bool)
    (call : SendCall) (remote : isLoopback call.dst = false)
    (ok : (sender.send runtime writes call).relayed.ok = true)
    (table : FragTable) (arrivals : List Arrival)
    (reordered :
      (arrivals.map Arrival.bytes).Perm
        (sender.send runtime writes call).relayed.datagrams)
    (absent :
      ∀ slot,
        (table slot).holdsKey (sender.presentedSrc call.src)
          sender.ipId = false)
    (room :
      ∃ slot,
        (table slot).active = false ∨ (table slot).lastTick < int64Max)
    (timely : WithinTimeout arrivals) :
    (relayMachine.outputs table arrivals).reduceOption =
      [call.upcall (sender.presentedSrc call.src)] := by
  rcases Sender.send_relayed remote ok with ⟨short, relayed⟩
  rw [relayed] at ok reordered
  generalize presented : sender.presentedSrc call.src = src at *
  have processed := processIpv4_ipPacket call src sender.ipId short
  have length := ipPacket_length call src sender.ipId
  have source := slpIpv4Src_ipPacket call src sender.ipId
  have identified := identification_ipPacket call src sender.ipId
  generalize ipPacket call src sender.ipId = packet at *
  have nonempty : 0 < packet.length := by omega
  by_cases whole : packet.length ≤ slpMtu
  · rw [slpClientSendIpv4_whole writes nonempty whole] at ok reordered
    have written : writes 0 = true := by
      by_contra failed
      rw [slpClientSendRaw, if_neg failed] at ok
      contradiction
    rw [slpClientSendRaw, if_pos written, List.perm_singleton]
      at reordered
    rcases List.map_eq_singleton_iff.mp reordered with
      ⟨arrival, rfl, framed⟩
    have step :=
      relayMachine_whole table (List.length_pos_iff.mp nonempty) framed
    rw [Machine.outputs_cons]
    unfold Machine.output
    rw [step, processed]
    rfl
  · rw [not_le] at whole
    let datagram : Datagram :=
      ⟨packet, whole, by
        change packet.length ≤ 5600
        omega⟩
    have counted : chunkCount slpMtu packet ≤ 255 :=
      datagram.parts_le.trans (by decide)
    rw [slpClientSendIpv4_parts writes whole counted] at ok reordered
    rw [remainingParts_datagrams ok, Nat.sub_zero,
      ← List.range_eq_range'] at reordered
    have unknown : table.Absent datagram := by
      intro slot
      change (table slot).holdsKey (slpIpv4Src packet) (rd16be packet 4) = _
      rw [source, identified]
      exact absent slot
    have delivered :=
      outputs_of_absent unknown room (bringsRest_of_perm reordered) timely
    rw [delivered]
    change (processIpv4 packet).toList = _
    rw [processed]
    rfl

/-- One byte more than fits a single frame, from an unbound socket. -/
def sampleCall : SendCall where
  src := 0
  sport := 49152
  dst := 0x0A0D0102
  dport := 30000
  data := List.replicate 1373 7

def sampleSender : Sender where
  localIp := 0x0A0D2502
  ipId := 65535

theorem sampleCall_ok :
    (sampleSender.send ⟨true, true⟩ (fun _ => true) sampleCall).relayed.ok =
      true := by
  apply Sender.send_ok rfl rfl (by decide) (fun _ => rfl)
  unfold sampleCall
  rw [List.length_replicate]
  decide

/-- Its frames, the last one first. -/
def sampleFrames : List Arrival :=
  (sampleSender.send ⟨true, true⟩ (fun _ => true)
    sampleCall).relayed.datagrams.reverse.map (fun bytes => ⟨0, 0, bytes⟩)

theorem send_onDatagram_roundTrip_reversed :
    (relayMachine.outputs FragTable.empty sampleFrames).reduceOption =
      [.routeIncomingData 0x0A0D2502 49152 0x0A0D0102 30000 .udp
        (List.replicate 1373 7)] := by
  have unread :
      sampleFrames.map Arrival.bytes =
        (sampleSender.send ⟨true, true⟩ (fun _ => true)
          sampleCall).relayed.datagrams.reverse := by
    unfold sampleFrames
    rw [List.map_map]
    exact List.map_id _
  have timely : WithinTimeout sampleFrames := by
    apply List.Pairwise.isChain
    apply List.pairwise_map.mpr
    exact List.pairwise_of_forall (fun _ _ => Nat.zero_le _)
  have reordered := List.reverse_perm
    (sampleSender.send ⟨true, true⟩ (fun _ => true)
      sampleCall).relayed.datagrams
  rw [← unread] at reordered
  have upcall :
      sampleCall.upcall (sampleSender.presentedSrc sampleCall.src) =
        .routeIncomingData 0x0A0D2502 49152 0x0A0D0102 30000 .udp
          (List.replicate 1373 7) :=
    if_neg (by decide)
  rw [← upcall]
  exact
    send_onDatagram_roundTrip sampleSender ⟨true, true⟩ (fun _ => true)
      sampleCall (by decide) sampleCall_ok FragTable.empty sampleFrames
      reordered (fun _ => rfl) ⟨⟨0, by decide⟩, Or.inl rfl⟩ timely

end SlpClient.Tunnel
