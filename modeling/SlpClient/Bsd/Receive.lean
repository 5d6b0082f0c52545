import SlpClient.Bsd.Service
import SlpClient.Lib.Ring

/-!
# Receiving on proxy sockets

`RouteIncomingData` hands a datagram of the tunnel to the proxy sockets that
match its destination.  Each of them keeps the datagrams it was handed in a
ring, from which the game receives.  A datagram without a match waits in a
ring of the manager until a proxy socket is bound to its port.

`VirtualToGame` is the identity, because address translation is off.  A
receive that blocks is modelled at the moment at which its wait ends.
-/

namespace SlpClient.Bsd

open SlpClient.Lib
open SlpClient.Net

/-! ## Packets -/

/-- The arguments of `RouteIncomingData`. -/
structure Incoming where
  sourceIp : UInt32
  sourcePort : UInt16
  destIp : UInt32
  destPort : UInt16
  protocol : ProtocolType
  data : List UInt8
deriving DecidableEq

/-- `ReceivedPacket`; its buffer has `PROXY_SOCKET_MAX_PAYLOAD` bytes. -/
structure ReceivedPacket where
  source : SockAddrIn
  data : List UInt8
  data_le : data.length ≤ ProxySocket.maxPayload
deriving DecidableEq

/-- The packet that is stored for these bytes. -/
def ReceivedPacket.clamped (source : SockAddrIn) (data : List UInt8) :
    ReceivedPacket where
  source := source
  data := data.take ProxySocket.maxPayload
  data_le := List.length_take_le ..

/-- `PendingPayloadMax`. -/
def pendingPayloadMax : Nat := 1400

/-- `PendingPacket`. -/
structure PendingPacket where
  sourceIp : UInt32
  sourcePort : UInt16
  destIp : UInt32
  destPort : UInt16
  protocol : ProtocolType
  data : List UInt8
  data_le : data.length ≤ pendingPayloadMax
deriving DecidableEq

/-- The packet that is stored when no socket matches. -/
def Incoming.pending (incoming : Incoming) : PendingPacket where
  sourceIp := incoming.sourceIp
  sourcePort := incoming.sourcePort
  destIp := incoming.destIp
  destPort := incoming.destPort
  protocol := incoming.protocol
  data := incoming.data.take pendingPayloadMax
  data_le := List.length_take_le ..

/-- The packets that `DeliverPendingPackets` looks for. -/
def PendingPacket.isFor (port : UInt16) (protocol : ProtocolType)
    (packet : PendingPacket) : Bool :=
  packet.protocol == protocol && packet.destPort == port

/-- A payload that is placed in the receive ring of a proxy socket. -/
structure Placement where
  fd : Int
  sourceIp : UInt32
  sourcePort : UInt16
  destPort : UInt16
  data : List UInt8
deriving DecidableEq

def Incoming.placedAt (incoming : Incoming) (fd : Int) : Placement where
  fd := fd
  sourceIp := incoming.sourceIp
  sourcePort := incoming.sourcePort
  destPort := incoming.destPort
  data := incoming.data

def PendingPacket.placedAt (packet : PendingPacket) (fd : Int) :
    Placement where
  fd := fd
  sourceIp := packet.sourceIp
  sourcePort := packet.sourcePort
  destPort := packet.destPort
  data := packet.data

/-! ## The receive queue of a proxy socket -/

/-- The receive ring of a socket has a first slot. -/
scoped instance receiveSlots_neZero : NeZero 32 :=
  ⟨by decide⟩

/-- So has the queue of packets that no socket took. -/
scoped instance pendingSlots_neZero : NeZero 16 :=
  ⟨by decide⟩

/-- `m_rx_ring` with its indices, and `m_receive_event`. -/
structure Inbox where
  ring : Ring 32 ReceivedPacket
  receiveEvent : Bool

/-- What a receive answers. -/
inductive Received
  | forwarded
  | failed (errno : BsdErrno)
  | packet (source : SockAddrIn) (data : List UInt8)
deriving DecidableEq

namespace Inbox

/-- The queue of a new socket. -/
def empty : Inbox where
  ring := .blank ⟨⟨0, 0, 0, 0⟩, [], Nat.zero_le _⟩
  receiveEvent := false

/-- `IncomingData`. -/
def incomingData (inbox : Inbox) (source : SockAddrIn)
    (data : List UInt8) : Inbox where
  ring := inbox.ring.push (.clamped source data)
  receiveEvent := true

/-- `HasPendingData` of a proxy socket. -/
def hasPendingData (inbox : Inbox) : Bool :=
  decide (0 < inbox.ring.count)

/-- `MSG_PEEK`. -/
def isPeek (flags : UInt32) : Bool :=
  flags &&& 0x2 != 0

/-- `consume_front`, on a queue with packets. -/
def consumeFront (inbox : Inbox) (occupied : 0 < inbox.ring.count)
    (capacity : Nat) (peek : Bool) : Inbox × Received :=
  let slot := inbox.ring.slots inbox.ring.head
  let left := if peek then inbox.ring else inbox.ring.pop occupied
  ({ ring := left
     receiveEvent := if left.count = 0 then false else inbox.receiveEvent },
    .packet slot.source (slot.data.take capacity))

/--
`ProxySocket::RecvFrom` into a buffer of `capacity` bytes.  No command shuts
a proxy socket down, and a closed one is not registered.
-/
def recvFrom (inbox : Inbox) (flags : UInt32) (capacity : Nat) :
    Inbox × Received :=
  if occupied : 0 < inbox.ring.count then
    inbox.consumeFront occupied capacity (isPeek flags)
  else (inbox, .failed .again)

end Inbox

/-! ## The plane -/

/-- The sockets with their receive queues, and the pending packets. -/
structure Plane where
  service : Service
  inboxes : Int → Inbox
  pending : Ring 16 PendingPacket

/-- An order in which the registry is walked. -/
structure WalkOrder where
  walk : List Int → List Int
  perm : ∀ fds, (walk fds).Perm fds

/-- The last octet, or the last two, are all ones. -/
def isBroadcast (ip : UInt32) : Bool :=
  ip &&& 0x000000FF == 0x000000FF || ip &&& 0x0000FFFF == 0x0000FFFF

/-- The checks of `FindAllSocketsByDestination` on one socket. -/
def ProxySocket.accepts (socket : ProxySocket) (destIp : UInt32)
    (destPort : UInt16) (protocol : ProtocolType) : Bool :=
  socket.protocol == protocol && socket.localAddr.port == destPort &&
    (socket.localAddr.addr == 0 || socket.localAddr.addr == destIp ||
      isBroadcast destIp)

namespace Service

/-- The socket of `fd` is registered and accepts the destination. -/
def acceptsAt (service : Service) (destIp : UInt32) (destPort : UInt16)
    (protocol : ProtocolType) (fd : Int) : Bool :=
  (service.sockets.lookup fd).any fun socket =>
    socket.accepts destIp destPort protocol

/-- `kMaxSockets`. -/
def maxTargets : Nat := 8

/-- `FindAllSocketsByDestination`. -/
def findAllSocketsByDestination (service : Service) (order : WalkOrder)
    (destIp : UInt32) (destPort : UInt16) (protocol : ProtocolType) :
    List Int :=
  ((order.walk service.sockets.keys).filter
    (service.acceptsAt destIp destPort protocol)).take maxTargets

/-- The port and protocol of a `Bind` that ends with a bound proxy. -/
def boundAs (service : Service) (fd : Int) (buffer : List UInt8) :
    Option (UInt16 × ProtocolType) :=
  match service.bind fd buffer, service.info.lookup fd with
  | (bound, .words 0 0), some entry =>
      (bound.sockets.lookup fd).map fun socket =>
        (socket.localAddr.port, entry.protocol)
  | _, _ => none

/-- The port and protocol for which a command delivers pending packets. -/
def delivers (service : Service) :
    Command → Option (Int × UInt16 × ProtocolType)
  | .bind fd buffer => (service.boundAs fd buffer).map fun bound => (fd, bound)
  | _ => none

/-- Only a bind that leaves a proxy bound delivers packets. -/
theorem delivers_eq_some_iff {service : Service} {command : Command}
    {fd : Int} {bound : UInt16 × ProtocolType} :
    service.delivers command = some (fd, bound) ↔
      ∃ buffer, command = .bind fd buffer ∧
        service.boundAs fd buffer = some bound := by
  constructor
  · intro delivering
    cases command with
    | bind named buffer =>
        rcases Option.map_eq_some_iff.mp delivering with
          ⟨found, boundAs, same⟩
        cases same
        exact ⟨buffer, rfl, boundAs⟩
    | _ => contradiction
  · rintro ⟨buffer, rfl, boundAs⟩
    exact Option.map_eq_some_iff.mpr ⟨bound, boundAs, rfl⟩

/-- The proxy socket that a receive on `fd` uses. -/
def receiver (service : Service) (fd : Int) : Option ProxySocket :=
  if (service.info.lookup fd).any SocketInfo.isProxy then
    service.sockets.lookup fd
  else none

end Service

/-- What games ask of their sockets. -/
inductive Request
  | command (command : Service.Command)
  | recvFrom (fd : Int) (flags : UInt32) (capacity : Nat)
  | recv (fd : Int) (flags : UInt32) (capacity : Nat)

/-- The size of the buffer of a receive. -/
def Request.capacity : Request → Option Nat
  | .command _ => none
  | .recvFrom _ _ capacity => some capacity
  | .recv _ _ capacity => some capacity

/-- Requests of the games, and arriving datagrams. -/
inductive PlaneInput
  | request (request : Request)
  | route (known : Bool) (order : WalkOrder) (incoming : Incoming)

/-- What is placed in receive rings, and what is answered. -/
structure PlaneOutput where
  placed : List Placement
  answer : Option Answer
  received : Option Received

namespace Plane

/-- No socket and no packet. -/
def initial (localIp : UInt32) : Plane where
  service := .initial localIp
  inboxes _ := .empty
  pending := .blank ⟨0, 0, 0, 0, .unspecified, [], Nat.zero_le _⟩

/-- A payload is queued at its socket. -/
def place (plane : Plane) (placement : Placement) : Plane :=
  { plane with
    inboxes :=
      Function.update plane.inboxes placement.fd
        ((plane.inboxes placement.fd).incomingData
          (.inet placement.sourceIp placement.sourcePort)
          placement.data) }

/--
`RouteIncomingData`; `known` is what `IsKnownSessionPeerPublic` answers.  It
returns whether anything was placed, which no caller uses.
-/
def routeIncomingData (plane : Plane) (known : Bool) (order : WalkOrder)
    (incoming : Incoming) : Plane × List Placement :=
  if !isLanModePort incoming.destPort && !known then (plane, [])
  else
    let targets :=
      plane.service.findAllSocketsByDestination order incoming.destIp
        incoming.destPort incoming.protocol
    if targets = [] then
      ({ plane with pending := plane.pending.push incoming.pending }, [])
    else
      let placed := targets.map incoming.placedAt
      (placed.foldl place plane, placed)

/-- `DeliverPendingPackets`. -/
def deliverPendingPackets (plane : Plane) (fd : Int) (port : UInt16)
    (protocol : ProtocolType) : Plane × List Placement :=
  if plane.pending.count = 0 then (plane, [])
  else
    let placed :=
      (plane.pending.swept (PendingPacket.isFor port protocol)).taken.map
        (PendingPacket.placedAt · fd)
    (placed.foldl place
      { plane with
        pending := plane.pending.sweep (PendingPacket.isFor port protocol) },
      placed)

/-- The queues of sockets that a command created or closed are empty. -/
def renewed (plane : Plane) (service : Service) : Plane :=
  { plane with
    service := service
    inboxes := fun fd =>
      if (plane.service.sockets.lookup fd).isSome ∧
          (service.sockets.lookup fd).isSome then
        plane.inboxes fd
      else .empty }

/-- A socket command; a bound proxy is given the packets that wait for it. -/
def execute (plane : Plane) (command : Service.Command) :
    Plane × PlaneOutput :=
  let executed := plane.service.execute command
  let renewed := plane.renewed executed.1
  match plane.service.delivers command with
  | none => (renewed, ⟨[], some executed.2, none⟩)
  | some (fd, port, protocol) =>
      let delivered := renewed.deliverPendingPackets fd port protocol
      (delivered.1, ⟨delivered.2, some executed.2, none⟩)

/-- A receive of a game on a socket that `ready` accepts. -/
def receive (plane : Plane) (fd : Int) (ready : ProxySocket → Bool)
    (flags : UInt32) (capacity : Nat) : Plane × Received :=
  match plane.service.receiver fd with
  | none => (plane, .forwarded)
  | some socket =>
      if ready socket then
        let received := (plane.inboxes fd).recvFrom flags capacity
        ({ plane with
            inboxes := Function.update plane.inboxes fd received.1 },
          received.2)
      else (plane, .failed .notConn)

/-- `RecvFrom`. -/
def recvFrom (plane : Plane) (fd : Int) (flags : UInt32) (capacity : Nat) :
    Plane × Received :=
  plane.receive fd (fun _ => true) flags capacity

/-- `Recv`; `Read` is a `Recv` without flags. -/
def recv (plane : Plane) (fd : Int) (flags : UInt32) (capacity : Nat) :
    Plane × Received :=
  plane.receive fd (fun socket => socket.state == .connected) flags capacity

/-- The sockets and the manager, driven by the tunnel and the games. -/
def machine : Machine Plane PlaneInput PlaneOutput where
  step plane input :=
    match input with
    | .route known order incoming =>
        let routed := plane.routeIncomingData known order incoming
        (routed.1, ⟨routed.2, none, none⟩)
    | .request (.command command) => plane.execute command
    | .request (.recvFrom fd flags capacity) =>
        let received := plane.recvFrom fd flags capacity
        (received.1, ⟨[], none, some received.2⟩)
    | .request (.recv fd flags capacity) =>
        let received := plane.recv fd flags capacity
        (received.1, ⟨[], none, some received.2⟩)

/-! ## Placing -/

@[simp]
theorem foldl_place_service (placed : List Placement) (plane : Plane) :
    (placed.foldl place plane).service = plane.service := by
  induction placed generalizing plane with
  | nil => rfl
  | cons placement rest induction => exact induction (plane.place placement)

theorem foldl_place_pending (placed : List Placement) (plane : Plane) :
    (placed.foldl place plane).pending = plane.pending := by
  induction placed generalizing plane with
  | nil => rfl
  | cons placement rest induction => exact induction (plane.place placement)

/-- The receive ring of a socket after a placement. -/
def received (inbox : Inbox) (placement : Placement) : Inbox :=
  inbox.incomingData (.inet placement.sourceIp placement.sourcePort)
    placement.data

/-- A receive ring is given what is placed at its socket, in order. -/
theorem foldl_place_inboxes (placed : List Placement) (plane : Plane)
    (fd : Int) :
    (placed.foldl place plane).inboxes fd =
      (placed.filter fun placement => placement.fd == fd).foldl received
        (plane.inboxes fd) := by
  induction placed generalizing plane with
  | nil => rfl
  | cons placement rest induction =>
      rw [List.foldl_cons, induction, List.filter_cons]
      by_cases here : placement.fd = fd
      · subst here
        rw [if_pos (beq_self_eq_true _), List.foldl_cons]
        congr 1
        exact Function.update_self ..
      · rw [if_neg (by simpa using here)]
        congr 1
        exact Function.update_of_ne (Ne.symm here) ..

end Plane

end SlpClient.Bsd
