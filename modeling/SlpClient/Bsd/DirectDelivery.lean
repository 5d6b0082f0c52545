import SlpClient.Bsd.LateDelivery

/-!
# Direct delivery

`RouteIncomingData` looks up at most eight sockets for a datagram and gives
each of them a copy.  Which eight they are depends on the order of the
registry.  So every socket that accepts a destination is served exactly when
no more than eight do; for a broadcast these are all UDP sockets on the port.
-/

namespace SlpClient.Bsd

open SlpClient.Lib
open SlpClient.Net

/-! ## The sockets that are served -/

namespace Inbox

/-- A ring that was given a packet is another one. -/
theorem incomingData_ne (inbox : Inbox) (source : SockAddrIn)
    (data : List UInt8) : inbox.incomingData source data ≠ inbox := by
  intro same
  have ring :
      inbox.ring.push (.clamped source data) = inbox.ring :=
    congrArg Inbox.ring same
  exact inbox.ring.push_ne _ (by decide) ring

end Inbox

namespace Service

variable (service : Service) (order : WalkOrder) (destIp : UInt32)
  (destPort : UInt16) (protocol : ProtocolType)

/-- The registered sockets that accept a destination, as they are walked. -/
def acceptors : List Int :=
  (order.walk service.sockets.keys).filter
    (service.acceptsAt destIp destPort protocol)

variable {service destIp destPort protocol}

theorem mem_acceptors {fd : Int} :
    fd ∈ service.acceptors order destIp destPort protocol ↔
      service.acceptsAt destIp destPort protocol fd = true := by
  unfold acceptors
  rw [List.mem_filter, (order.perm _).mem_iff]
  apply and_iff_right_of_imp
  intro accepts
  unfold acceptsAt at accepts
  cases found : service.sockets.lookup fd with
  | none =>
      rw [found] at accepts
      exact absurd accepts Bool.false_ne_true
  | some socket =>
      have listed : (service.sockets.lookup fd).isSome := by
        rw [found]
        rfl
      exact AList.lookup_isSome.mp listed

theorem acceptors_nodup :
    (service.acceptors order destIp destPort protocol).Nodup := by
  apply List.Nodup.filter
  exact (order.perm _).nodup_iff.mpr service.sockets.keys_nodup

/-- How many sockets accept a destination does not depend on the walk. -/
theorem acceptors_length :
    (service.acceptors order destIp destPort protocol).length =
      (service.sockets.keys.filter
        (service.acceptsAt destIp destPort protocol)).length :=
  ((order.perm _).filter _).length_eq

/-- Whoever is served accepts. -/
theorem acceptsAt_of_served {fd : Int}
    (served :
      fd ∈ service.findAllSocketsByDestination order destIp destPort
        protocol) :
    service.acceptsAt destIp destPort protocol fd = true :=
  (mem_acceptors order).mp (List.mem_of_mem_take served)

/-- Nobody is served when nobody accepts. -/
theorem served_eq_nil_iff :
    service.findAllSocketsByDestination order destIp destPort protocol =
        [] ↔
      ∀ fd, service.acceptsAt destIp destPort protocol fd = false := by
  change
    (service.acceptors order destIp destPort protocol).take maxTargets = []
      ↔ _
  rw [List.take_eq_nil_iff, or_iff_right (by decide),
    List.eq_nil_iff_forall_not_mem]
  apply forall_congr'
  intro fd
  rw [mem_acceptors, Bool.not_eq_true]

variable (service destIp destPort protocol)

/-- Everybody who accepts is served exactly when there are at most eight. -/
theorem served_iff :
    (∀ fd, service.acceptsAt destIp destPort protocol fd = true →
        fd ∈ service.findAllSocketsByDestination order destIp destPort
          protocol) ↔
      (service.sockets.keys.filter
        (service.acceptsAt destIp destPort protocol)).length ≤
          maxTargets := by
  change
    (∀ fd, service.acceptsAt destIp destPort protocol fd = true →
        fd ∈ (service.acceptors order destIp destPort protocol).take
          maxTargets) ↔ _
  rw [← acceptors_length order]
  constructor
  · intro served
    have covered :
        service.acceptors order destIp destPort protocol ⊆
          (service.acceptors order destIp destPort protocol).take
            maxTargets :=
      fun fd member => served fd ((mem_acceptors order).mp member)
    have counted :=
      (List.subperm_of_subset (acceptors_nodup order) covered).length_le
    exact counted.trans (List.length_take_le ..)
  · intro few fd accepts
    rw [List.take_of_length_le few]
    exact (mem_acceptors order).mpr accepts

end Service

namespace Plane

/-- The receive rings after a datagram that passed the filter. -/
theorem routeIncomingData_inboxes (plane : Plane) {known : Bool}
    (order : WalkOrder) {incoming : Incoming}
    (passes : (isLanModePort incoming.destPort || known) = true)
    (fd : Int) :
    (plane.routeIncomingData known order incoming).1.inboxes fd =
      if fd ∈ plane.service.findAllSocketsByDestination order
          incoming.destIp incoming.destPort incoming.protocol then
        (plane.inboxes fd).incomingData
          (.inet incoming.sourceIp incoming.sourcePort) incoming.data
      else plane.inboxes fd := by
  have placed :
      (plane.routeIncomingData known order incoming).1.inboxes fd =
        (((plane.service.findAllSocketsByDestination order
          incoming.destIp incoming.destPort incoming.protocol).map
            incoming.placedAt).filter fun placement =>
              placement.fd == fd).foldl received (plane.inboxes fd) := by
    unfold routeIncomingData
    rw [if_neg (not_dropped passes)]
    dsimp only
    split
    · rename_i none
      rw [none]
      rfl
    · exact foldl_place_inboxes _ plane fd
  have own :
      ((plane.service.findAllSocketsByDestination order incoming.destIp
          incoming.destPort incoming.protocol).map
            incoming.placedAt).filter (fun placement =>
              placement.fd == fd) =
        if fd ∈ plane.service.findAllSocketsByDestination order
            incoming.destIp incoming.destPort incoming.protocol then
          [incoming.placedAt fd]
        else [] := by
    have distinct :
        (plane.service.findAllSocketsByDestination order incoming.destIp
          incoming.destPort incoming.protocol).Nodup :=
      (Service.acceptors_nodup order).sublist (List.take_sublist ..)
    rw [List.filter_map]
    show
      ((plane.service.findAllSocketsByDestination order incoming.destIp
        incoming.destPort incoming.protocol).filter (· == fd)).map
          incoming.placedAt = _
    rw [List.filter_beq, distinct.count]
    split <;> rfl
  rw [placed, own]
  split <;> rfl

/-- The pending ring after a datagram that passed the filter. -/
theorem routeIncomingData_pending (plane : Plane) {known : Bool}
    (order : WalkOrder) {incoming : Incoming}
    (passes : (isLanModePort incoming.destPort || known) = true) :
    (plane.routeIncomingData known order incoming).1.pending =
      if plane.service.findAllSocketsByDestination order incoming.destIp
          incoming.destPort incoming.protocol = [] then
        plane.pending.push incoming.pending
      else plane.pending := by
  unfold routeIncomingData
  rw [if_neg (not_dropped passes)]
  dsimp only
  split
  · rfl
  · exact foldl_place_pending ..

/-- A datagram that the filter stops changes nothing. -/
theorem routeIncomingData_dropped (plane : Plane) {known : Bool}
    (order : WalkOrder) {incoming : Incoming}
    (stops : (isLanModePort incoming.destPort || known) = false) :
    plane.routeIncomingData known order incoming = (plane, []) := by
  unfold routeIncomingData
  rw [← Bool.not_or, stops]
  rfl

end Plane

/-! ## Broadcasts -/

/-- `SockAddrIn` as it lies in memory, with its zeroed padding. -/
def SockAddrIn.bytes (address : SockAddrIn) : List UInt8 :=
  address.len :: address.family :: beBytes 2 address.port.toNat ++
    beBytes 4 address.addr.toNat ++ List.replicate 8 0

/-- The bytes of a source are its port and address in network order. -/
theorem SockAddrIn.bytes_inet (ip : UInt32) (port : UInt16) :
    (inet ip port).bytes =
      [16, 2] ++ beBytes 2 port.toNat ++ beBytes 4 ip.toNat ++
        List.replicate 8 0 :=
  rfl

/-- A registered UDP socket on a port. -/
def Service.listens (service : Service) (port : UInt16) (fd : Int) :
    Bool :=
  (service.sockets.lookup fd).any fun socket =>
    socket.protocol == .udp && socket.localAddr.port == port

/-- A broadcast is accepted on its port, whatever the address. -/
theorem Service.acceptsAt_broadcast {service : Service} {destIp : UInt32}
    (broadcast : destIp &&& 0xFF = 0xFF) (port : UInt16) :
    service.acceptsAt destIp port .udp = service.listens port := by
  funext fd
  unfold acceptsAt listens
  congr 1
  funext socket
  unfold ProxySocket.accepts isBroadcast
  simp [broadcast]

namespace Plane

/--
The payload is enqueued, with the source in network order, at every UDP
socket on the destination port and at no other socket.
-/
def ReachesListeners (plane after : Plane) (incoming : Incoming) : Prop :=
  ∀ fd,
    (plane.service.listens incoming.destPort fd = true →
      ∃ source : SockAddrIn,
        source.bytes =
            [16, 2] ++ beBytes 2 incoming.sourcePort.toNat ++
              beBytes 4 incoming.sourceIp.toNat ++ List.replicate 8 0 ∧
          after.inboxes fd =
            (plane.inboxes fd).incomingData source incoming.data) ∧
      (plane.service.listens incoming.destPort fd = false →
        after.inboxes fd = plane.inboxes fd)

/--
A broadcast that passes the filter reaches every UDP socket on its port, and
no other, exactly when no more than eight sockets share the port.
-/
theorem broadcast_reachesListeners_iff (plane : Plane) {known : Bool}
    (order : WalkOrder) {incoming : Incoming}
    (udp : incoming.protocol = .udp)
    (broadcast : incoming.destIp &&& 0xFF = 0xFF)
    (passes : (isLanModePort incoming.destPort || known) = true) :
    plane.ReachesListeners (plane.routeIncomingData known order incoming).1
        incoming ↔
      (plane.service.sockets.keys.filter
        (plane.service.listens incoming.destPort)).length ≤ 8 := by
  have accepts :
      plane.service.acceptsAt incoming.destIp incoming.destPort
          incoming.protocol =
        plane.service.listens incoming.destPort := by
    rw [udp, Service.acceptsAt_broadcast broadcast]
  have served :=
    plane.service.served_iff order incoming.destIp incoming.destPort
      incoming.protocol
  have rings := plane.routeIncomingData_inboxes order passes
  rw [accepts] at served
  rw [← show Service.maxTargets = 8 from rfl, ← served]
  constructor
  · intro reaches fd listens
    by_contra skipped
    rcases (reaches fd).1 listens with ⟨source, -, enqueued⟩
    rw [rings, if_neg skipped] at enqueued
    exact Inbox.incomingData_ne _ _ _ enqueued.symm
  · intro all fd
    constructor
    · intro listens
      refine ⟨_, SockAddrIn.bytes_inet _ _, ?_⟩
      rw [rings, if_pos (all fd listens)]
    · intro silent
      rw [rings, if_neg]
      intro target
      have listens := Service.acceptsAt_of_served order target
      rw [accepts, silent] at listens
      exact Bool.false_ne_true listens

/-- A game opens a UDP socket and binds it to `10.13.37.2:30000`. -/
def listening (fd : Int) : List PlaneInput :=
  [.request (.command (.socket 1 2 17 ⟨true, fd, 0⟩)),
    .request (.command (.bind fd ownAddress))]

/-- The plane after a game has opened `count` sockets on one port. -/
def crowd (count : Nat) : Plane :=
  machine.run (initial 0x0A0D2502)
    ((List.range count).flatMap fun fd => listening fd)

/-- A browse broadcast of another console. -/
def browse : Incoming :=
  ⟨0x0A0D0003, 30000, 0x0A0DFFFF, 30000, .udp, [1, 2, 3]⟩

/-- Two sockets on the port both get the broadcast. -/
theorem pair_reached :
    (crowd 2).ReachesListeners
      ((crowd 2).routeIncomingData true .listed browse).1 browse := by
  apply (broadcast_reachesListeners_iff (crowd 2) .listed _ _ _).mpr
  · decide
  · rfl
  · decide
  · rfl

/-- Of nine sockets on the port one gets nothing. -/
theorem ninth_listener_missed :
    ¬ (crowd 9).ReachesListeners
      ((crowd 9).routeIncomingData true .listed browse).1 browse := by
  intro reaches
  have listens : (crowd 9).service.listens 30000 0 = true := by
    decide
  rcases (reaches 0).1 listens with ⟨source, -, enqueued⟩
  rw [routeIncomingData_inboxes _ _ rfl, if_neg (by decide)] at enqueued
  exact Inbox.incomingData_ne _ _ _ enqueued.symm

end Plane

end SlpClient.Bsd
