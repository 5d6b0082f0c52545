import SlpClient.Bsd.Datagrams
import SlpClient.Bsd.Shapes

/-!
# Late delivery

A datagram that no proxy socket matches waits in the ring of the manager.  A
socket that is bound to its port later is given the datagrams that wait for
the port and protocol.  The ring is a list of at most sixteen packets: it
gives up its oldest one for a new one, and a delivery takes the matching ones
out and leaves the others, both in the order of their arrival.

Direct delivery also looks at the address a socket is bound to.  Late
delivery does not, so the two rules agree only on some binds.
-/

namespace SlpClient.Bsd

open SlpClient.Lib
open SlpClient.Net

/-- The registry walked in the order in which it lists its sockets. -/
def WalkOrder.listed : WalkOrder where
  walk := id
  perm := List.Perm.refl

/-! ## The ring of waiting packets -/

/-- Calls of the manager that use the ring. -/
inductive PendingCall
  | route (known : Bool) (order : WalkOrder) (incoming : Incoming)
  | deliver (fd : Int) (port : UInt16) (protocol : ProtocolType)

/-- A datagram that passes the filter and matches no socket. -/
def PendingCall.Waits (service : Service) : PendingCall → Prop
  | .route known order incoming =>
      (isLanModePort incoming.destPort || known) = true ∧
        service.findAllSocketsByDestination order incoming.destIp
          incoming.destPort incoming.protocol = []
  | .deliver _ _ _ => True

namespace Plane

/-- The calls on the plane, with what they place in receive rings. -/
def pendingMachine : Machine Plane PendingCall (List Placement) where
  step plane call :=
    match call with
    | .route known order incoming =>
        plane.routeIncomingData known order incoming
    | .deliver fd port protocol =>
        plane.deliverPendingPackets fd port protocol

end Plane

namespace PendingList

/-- What the calls are on a list of at most sixteen packets. -/
def machine : Machine (List PendingPacket) PendingCall (List Placement) where
  step pending call :=
    match call with
    | .route _ _ incoming =>
        (pushBounded 16 pending incoming.pending, [])
    | .deliver fd port protocol =>
        (pending.filter fun packet => !packet.isFor port protocol,
          (pending.filter (PendingPacket.isFor port protocol)).map
            (PendingPacket.placedAt · fd))

end PendingList

namespace Plane

variable {plane : Plane} {service : Service} {pending : List PendingPacket}

/-- The ring of a plane holds a list of packets. -/
structure Keeps (plane : Plane) (service : Service)
    (pending : List PendingPacket) : Prop where
  sockets : plane.service = service
  contents : plane.pending.toList = pending

/-- The filter lets the datagram through. -/
theorem not_dropped {known : Bool} {incoming : Incoming}
    (passes : (isLanModePort incoming.destPort || known) = true) :
    ¬ (!isLanModePort incoming.destPort && !known) = true := by
  rw [← Bool.not_or, passes]
  exact Bool.false_ne_true

/-- A datagram that waits is appended to the list. -/
theorem Keeps.route (keeps : plane.Keeps service pending) {known : Bool}
    {order : WalkOrder} {incoming : Incoming}
    (waits : (PendingCall.route known order incoming).Waits service) :
    plane.routeIncomingData known order incoming =
      ({ plane with pending := plane.pending.push incoming.pending }, []) := by
  rcases waits with ⟨passes, unmatched⟩
  unfold routeIncomingData
  rw [if_neg (not_dropped passes), keeps.sockets]
  exact if_pos unmatched

/-- A delivery takes the matching packets out of the list. -/
theorem Keeps.deliver (keeps : plane.Keeps service pending) (fd : Int)
    (port : UInt16) (protocol : ProtocolType) :
    (plane.deliverPendingPackets fd port protocol).1.Keeps service
        (pending.filter fun packet => !packet.isFor port protocol) ∧
      (plane.deliverPendingPackets fd port protocol).2 =
        (pending.filter (PendingPacket.isFor port protocol)).map
          (PendingPacket.placedAt · fd) := by
  unfold deliverPendingPackets
  split
  · rename_i none
    have empty : pending = [] := by
      rw [← keeps.contents, ← List.length_eq_zero_iff, Ring.length_toList]
      exact none
    subst empty
    exact ⟨keeps, rfl⟩
  · dsimp only
    rw [Ring.swept_taken, keeps.contents]
    refine ⟨⟨?_, ?_⟩, rfl⟩
    · exact (foldl_place_service ..).trans keeps.sockets
    · rw [foldl_place_pending, Ring.toList_sweep, keeps.contents]

/-- Every call does to the ring what it does to the list. -/
theorem Keeps.step (keeps : plane.Keeps service pending)
    {call : PendingCall} (waits : call.Waits service) :
    (pendingMachine.next plane call).Keeps service
        (PendingList.machine.next pending call) ∧
      pendingMachine.output plane call =
        PendingList.machine.output pending call := by
  cases call with
  | route known order incoming =>
      change
        (plane.routeIncomingData known order incoming).1.Keeps service _ ∧
          (plane.routeIncomingData known order incoming).2 = _
      rw [keeps.route waits]
      refine ⟨⟨keeps.sockets, ?_⟩, rfl⟩
      show (plane.pending.push incoming.pending).toList = _
      rw [Ring.toList_push, keeps.contents]
      rfl
  | deliver fd port protocol => exact keeps.deliver fd port protocol

/-- What a call places reaches the receive rings. -/
theorem next_inboxes (plane : Plane) (call : PendingCall) (fd : Int) :
    (pendingMachine.next plane call).inboxes fd =
      ((pendingMachine.output plane call).filter fun placement =>
          placement.fd == fd).foldl received (plane.inboxes fd) := by
  cases call with
  | route known order incoming =>
      change
        (plane.routeIncomingData known order incoming).1.inboxes fd =
          ((plane.routeIncomingData known order incoming).2.filter
            _).foldl received (plane.inboxes fd)
      unfold routeIncomingData
      split
      · rfl
      · dsimp only
        split
        · rfl
        · exact foldl_place_inboxes _ plane fd
  | deliver fd' port protocol =>
      change
        (plane.deliverPendingPackets fd' port protocol).1.inboxes fd =
          ((plane.deliverPendingPackets fd' port protocol).2.filter
            _).foldl received (plane.inboxes fd)
      unfold deliverPendingPackets
      split
      · rfl
      · exact foldl_place_inboxes _ _ fd

theorem run_inboxes (plane : Plane) (calls : List PendingCall) (fd : Int) :
    (pendingMachine.run plane calls).inboxes fd =
      ((pendingMachine.outputs plane calls).flatten.filter fun placement =>
          placement.fd == fd).foldl received (plane.inboxes fd) := by
  induction calls generalizing plane with
  | nil => rfl
  | cons call rest induction =>
      rw [Machine.run_cons, induction, next_inboxes,
        Machine.outputs_cons, List.flatten_cons, List.filter_append,
        List.foldl_append]

/--
Wherever the ring starts, datagrams that wait and deliveries do to it what
they do to a list of at most sixteen packets.  What a delivery takes out of
the list reaches the receive ring of its socket, in the order of arrival, and
nothing else does; the indices of the ring always agree.
-/
theorem ring_refines_pendingList (plane : Plane)
    {calls : List PendingCall}
    (waits : ∀ call ∈ calls, call.Waits plane.service) :
    (pendingMachine.run plane calls).pending.toList =
        PendingList.machine.run plane.pending.toList calls ∧
      pendingMachine.outputs plane calls =
        PendingList.machine.outputs plane.pending.toList calls ∧
      (∀ fd,
        (pendingMachine.run plane calls).inboxes fd =
          ((PendingList.machine.outputs plane.pending.toList
            calls).flatten.filter fun placement =>
              placement.fd == fd).foldl received (plane.inboxes fd)) ∧
      (pendingMachine.run plane calls).pending.tail.val =
        ((pendingMachine.run plane calls).pending.head.val +
          (pendingMachine.run plane calls).pending.count) % 16 ∧
      (pendingMachine.run plane calls).pending.count ≤ 16 := by
  have initially : plane.Keeps plane.service plane.pending.toList :=
    ⟨rfl, rfl⟩
  have refined :=
    Machine.refinement
      (fun state pending call
        (keeps : Keeps state plane.service pending)
        (waits : call.Waits plane.service) => keeps.step waits)
      initially waits
  refine ⟨refined.1.contents, refined.2, ?_, ?_, ?_⟩
  · intro fd
    rw [← refined.2]
    exact run_inboxes plane calls fd
  · exact congrArg Fin.val (pendingMachine.run plane calls).pending.tail_eq
  · exact (pendingMachine.run plane calls).pending.count_le

/-- Three datagrams for two ports, before any socket is bound. -/
def earlyCalls : List PendingCall :=
  [.route true .listed ⟨0x0A0D0003, 49152, 0x0A0D2502, 30000, .udp, [1]⟩,
    .route true .listed ⟨0x0A0D0003, 49152, 0x0A0D2502, 1234, .udp, [2]⟩,
    .route true .listed ⟨0x0A0D0004, 49153, 0x0A0D2502, 30000, .udp, [3]⟩,
    .deliver 5 30000 .udp]

/-- The two of the bound port are delivered in the order they came in. -/
theorem earlyCalls_delivered :
    (∀ call ∈ earlyCalls, call.Waits (initial 0).service) ∧
      pendingMachine.outputs (initial 0) earlyCalls =
        [[], [], [],
          [⟨5, 0x0A0D0003, 49152, 30000, [1]⟩,
            ⟨5, 0x0A0D0004, 49153, 30000, [3]⟩]] := by
  have waits :
      ∀ call ∈ earlyCalls, call.Waits (initial 0).service := by
    intro call member
    simp only [earlyCalls, List.mem_cons, List.not_mem_nil,
      or_false] at member
    rcases member with rfl | rfl | rfl | rfl
    · exact ⟨rfl, rfl⟩
    · exact ⟨rfl, rfl⟩
    · exact ⟨rfl, rfl⟩
    · trivial
  exact
    ⟨waits, (ring_refines_pendingList (initial 0) waits).2.1.trans
      (by decide)⟩

end Plane

/-! ## The destination rule -/

namespace Service

/-- The proxy branch of `Bind` answers zero only when it has bound. -/
theorem bindSocket_of_success {service bound : Service} {fd : Int}
    {socket : ProxySocket} {addr : SockAddrIn} {protocol : ProtocolType}
    (succeeds :
      service.bindSocket fd socket addr protocol = (bound, .words 0 0)) :
    ∃ port,
      bound.sockets.lookup fd =
        some (socket.boundTo { addr with port := port }) := by
  unfold bindSocket at succeeds
  split at succeeds
  · simp [BsdErrno.code] at succeeds
  · rename_i ports port claimed
    unfold ProxySocket.bind at succeeds
    split_ifs at succeeds
    · simp [BsdErrno.code] at succeeds
    · simp [BsdErrno.code] at succeeds
    · dsimp only at succeeds
      rw [Prod.mk.injEq] at succeeds
      refine ⟨port, ?_⟩
      rw [← succeeds.1, markProxy_sockets]
      exact AList.lookup_insert ..

/-- A bind that ends with a bound proxy has bound the candidate. -/
theorem boundAs_eq_some {service : Service} {fd : Int}
    {buffer : List UInt8} {port : UInt16} {protocol : ProtocolType}
    (bound : service.boundAs fd buffer = some (port, protocol)) :
    ∃ addr entry,
      service.intercepted fd buffer promotes = some (addr, entry) ∧
        entry.protocol = protocol ∧
        (service.bind fd buffer).1.sockets.lookup fd =
          some
            (((service.candidate fd entry).allowBroadcast
              entry.broadcast).boundTo
                { service.bindAddress addr with port := port }) := by
  unfold boundAs at bound
  split at bound
  · rename_i after tracked answered found
    cases taken : service.intercepted fd buffer promotes with
    | none =>
        unfold bind at answered
        rw [taken] at answered
        simp at answered
    | some result =>
        rcases result with ⟨addr, entry⟩
        have known := (intercepted_eq_some taken).1
        rw [found, Option.some.injEq] at known
        subst known
        rw [answered]
        have ended := answered
        unfold bind at ended
        rw [taken] at ended
        dsimp only at ended
        rw [bindProxy_eq] at ended
        split at ended
        · simp [BsdErrno.code] at ended
        · rcases bindSocket_of_success ended with ⟨given, lookup⟩
          rw [lookup, Option.map_some, Option.some.injEq,
            Prod.mk.injEq] at bound
          have same : given = port := bound.1
          exact ⟨addr, tracked, rfl, bound.2, by rw [lookup, same]⟩
  · exact absurd bound.symm (Option.some_ne_none _)

end Service

namespace Plane

/-- The waiting packets that a step hands to a socket, with the socket. -/
def handed (plane : Plane) : PlaneInput → List (Int × PendingPacket)
  | .request (.command command) =>
      match plane.service.delivers command with
      | none => []
      | some (fd, port, protocol) =>
          (plane.pending.swept (PendingPacket.isFor port protocol)).taken.map
            (fd, ·)
  | _ => []

/-- What a request places in receive rings are the packets handed over. -/
theorem placed_eq_handed (plane : Plane) (request : Request) :
    (machine.output plane (.request request)).placed =
      (plane.handed (.request request)).map fun handed =>
        handed.2.placedAt handed.1 := by
  cases request with
  | recvFrom fd flags capacity => rfl
  | recv fd flags capacity => rfl
  | command command =>
      change (plane.execute command).2.placed = _
      unfold execute handed
      dsimp only
      cases plane.service.delivers command with
      | none => rfl
      | some delivers =>
          rcases delivers with ⟨fd, port, protocol⟩
          dsimp only
          have keeps :
              (plane.renewed (plane.service.execute command).1).Keeps
                (plane.service.execute command).1 plane.pending.toList :=
            ⟨rfl, rfl⟩
          rw [(keeps.deliver fd port protocol).2, Ring.swept_taken,
            List.map_map]
          rfl

/-- Waiting packets go to sockets that direct delivery would select. -/
def FollowsRule (plane : Plane) (input : PlaneInput) : Prop :=
  ∀ fd packet, (fd, packet) ∈ plane.handed input →
    (machine.next plane input).service.acceptsAt packet.destIp
      packet.destPort packet.protocol fd = true

/--
The socket that is bound has the protocol of every packet that waits for the
port, and the address it is bound to is any address or the destination of the
packet, unless the packet is a broadcast.
-/
def BindsForWaiting (plane : Plane) (input : PlaneInput) : Prop :=
  ∀ fd buffer, input = .request (.command (.bind fd buffer)) →
    ∀ port protocol addr entry,
      plane.service.boundAs fd buffer = some (port, protocol) →
        plane.service.intercepted fd buffer Service.promotes =
            some (addr, entry) →
          ∀ packet ∈ plane.pending.toList,
            packet.isFor port protocol = true →
              (plane.service.candidate fd entry).protocol =
                  packet.protocol ∧
                ((plane.service.bindAddress addr).addr = 0 ∨
                  (plane.service.bindAddress addr).addr = packet.destIp ∨
                  isBroadcast packet.destIp = true)

/-- A bound socket accepts a packet for its port by protocol and address. -/
theorem acceptsAt_bound_iff {service after : Service} {fd : Int}
    {entry : SocketInfo} {addr : SockAddrIn} {port : UInt16}
    {protocol : ProtocolType} {packet : PendingPacket}
    (bound :
      after.sockets.lookup fd =
        some
          (((service.candidate fd entry).allowBroadcast
            entry.broadcast).boundTo { addr with port := port }))
    (isFor : packet.isFor port protocol = true) :
    after.acceptsAt packet.destIp packet.destPort packet.protocol fd =
        true ↔
      (service.candidate fd entry).protocol = packet.protocol ∧
        (addr.addr = 0 ∨ addr.addr = packet.destIp ∨
          isBroadcast packet.destIp = true) := by
  unfold PendingPacket.isFor at isFor
  rw [Bool.and_eq_true, beq_iff_eq, beq_iff_eq] at isFor
  unfold Service.acceptsAt
  rw [bound, Option.any_some, isFor.2]
  simp [ProxySocket.accepts, ProxySocket.boundTo,
    ProxySocket.allowBroadcast_protocol, or_assoc]

theorem next_bind_service (plane : Plane) (fd : Int)
    (buffer : List UInt8) :
    (machine.next plane (.request (.command (.bind fd buffer)))).service =
      (plane.service.bind fd buffer).1 := by
  change (plane.execute (.bind fd buffer)).1.service = _
  unfold execute
  dsimp only
  split
  · rfl
  · rename_i fd' port protocol _
    have keeps :
        (plane.renewed (plane.service.execute (.bind fd buffer)).1).Keeps
          (plane.service.bind fd buffer).1 plane.pending.toList :=
      ⟨rfl, rfl⟩
    exact (keeps.deliver fd' port protocol).1.sockets

/-- A command hands over what waits for the port that it binds. -/
theorem mem_handed_command_iff {plane : Plane} {command : Service.Command}
    {fd : Int} {packet : PendingPacket} :
    (fd, packet) ∈ plane.handed (.request (.command command)) ↔
      ∃ port protocol,
        plane.service.delivers command = some (fd, port, protocol) ∧
          packet ∈ plane.pending.toList ∧
          packet.isFor port protocol = true := by
  unfold handed
  dsimp only
  cases delivers : plane.service.delivers command with
  | none =>
      constructor
      · intro member
        exact absurd member List.not_mem_nil
      · rintro ⟨port, protocol, some, -⟩
        exact absurd some.symm (Option.some_ne_none _)
  | some target =>
      rcases target with ⟨target, port, protocol⟩
      dsimp only
      rw [Ring.swept_taken, List.mem_map]
      constructor
      · rintro ⟨other, taken, same⟩
        rw [Prod.mk.injEq] at same
        rcases same with ⟨rfl, rfl⟩
        exact ⟨port, protocol, rfl, List.mem_filter.mp taken⟩
      · rintro ⟨port', protocol', same, waits⟩
        rw [Option.some.injEq, Prod.mk.injEq, Prod.mk.injEq] at same
        rcases same with ⟨rfl, rfl, rfl⟩
        exact ⟨packet, List.mem_filter.mpr waits, rfl⟩

/-- Only a bind hands waiting packets over. -/
theorem mem_handed_iff {plane : Plane} {input : PlaneInput} {fd : Int}
    {packet : PendingPacket} :
    (fd, packet) ∈ plane.handed input ↔
      ∃ buffer port protocol,
        input = .request (.command (.bind fd buffer)) ∧
          plane.service.boundAs fd buffer = some (port, protocol) ∧
          packet ∈ plane.pending.toList ∧
          packet.isFor port protocol = true := by
  constructor
  · intro member
    match input with
    | .request (.command command) =>
        rcases mem_handed_command_iff.mp member with
          ⟨port, protocol, delivers, waits⟩
        rcases Service.delivers_eq_some_iff.mp delivers with
          ⟨buffer, rfl, boundAs⟩
        exact ⟨buffer, port, protocol, rfl, boundAs, waits⟩
    | .request (.recvFrom ..) => exact absurd member List.not_mem_nil
    | .request (.recv ..) => exact absurd member List.not_mem_nil
    | .route .. => exact absurd member List.not_mem_nil
  · rintro ⟨buffer, port, protocol, rfl, boundAs, waits⟩
    have delivers :=
      Service.delivers_eq_some_iff.mpr ⟨buffer, rfl, boundAs⟩
    exact mem_handed_command_iff.mpr ⟨port, protocol, delivers, waits⟩

/-- Late and direct delivery agree on a step exactly when its bind fits. -/
theorem followsRule_iff (plane : Plane) (input : PlaneInput) :
    plane.FollowsRule input ↔ plane.BindsForWaiting input := by
  constructor
  · rintro follows fd buffer rfl port protocol addr entry boundAs taken
      packet waiting isFor
    have accepted :=
      follows fd packet
        (mem_handed_iff.mpr
          ⟨buffer, port, protocol, rfl, boundAs, waiting, isFor⟩)
    rcases Service.boundAs_eq_some boundAs with
      ⟨addr', entry', taken', -, bound⟩
    rw [taken, Option.some.injEq, Prod.mk.injEq] at taken'
    rcases taken' with ⟨rfl, rfl⟩
    rw [next_bind_service] at accepted
    exact (acceptsAt_bound_iff bound isFor).mp accepted
  · intro fits fd packet member
    rcases mem_handed_iff.mp member with
      ⟨buffer, port, protocol, rfl, boundAs, waiting, isFor⟩
    rcases Service.boundAs_eq_some boundAs with
      ⟨addr, entry, taken, -, bound⟩
    rw [next_bind_service]
    exact
      (acceptsAt_bound_iff bound isFor).mpr
        (fits fd buffer rfl port protocol addr entry boundAs taken packet
          waiting isFor)

/--
All along a run, late delivery gives packets only to sockets that direct
delivery would select, exactly when every socket that is bound while packets
wait for its port has their protocol, and is bound to any address or to their
destination, broadcasts apart.
-/
theorem eachStep_followsRule_iff (plane : Plane)
    (inputs : List PlaneInput) :
    machine.EachStep FollowsRule plane inputs ↔
      machine.EachStep BindsForWaiting plane inputs := by
  have keeps (plane : Plane) (input : PlaneInput) (_ _ : True)
      (_ : plane.BindsForWaiting input) : True :=
    trivial
  exact
    Machine.eachStep_iff_eachStep keeps
      (fun plane input _ _ => followsRule_iff plane input) trivial
      fun _ _ => trivial

/-- The address `10.13.37.2:30000`. -/
def ownAddress : List UInt8 :=
  [16, 2, 117, 48, 10, 13, 37, 2, 0, 0, 0, 0, 0, 0, 0, 0]

/-- A datagram for `10.13.0.9` comes in, then a socket is bound elsewhere. -/
def strayDatagram : List PlaneInput :=
  [.route true .listed ⟨0x0A0D0003, 49152, 0x0A0D0009, 30000, .udp, [1]⟩,
    .request (.command (.socket 1 2 17 ⟨true, 5, 0⟩)),
    .request (.command (.bind 5 ownAddress))]

/-- The socket is given a datagram that direct delivery keeps from it. -/
theorem strayDatagram_breaks_rule :
    ¬ machine.EachStep FollowsRule (initial 0) strayDatagram := by
  rintro ⟨-, -, follows, -⟩
  have accepted :=
    follows 5
      (Incoming.pending
        ⟨0x0A0D0003, 49152, 0x0A0D0009, 30000, .udp, [1]⟩)
      (List.mem_cons_self ..)
  exact absurd accepted (by decide)

end Plane

end SlpClient.Bsd
