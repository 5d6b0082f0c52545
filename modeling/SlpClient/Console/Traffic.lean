import SlpClient.Bsd.Datagrams
import SlpClient.Ldn.Commands
import SlpClient.Tunnel.Fragments
import SlpClient.Tunnel.RoundTrip

/-!
# A console

The parts of one console together: the control plane, the fragment table, the
sending half of the tunnel, and the sockets.  Datagrams of the relay go
through the tunnel to the control plane or to the sockets; what is sent to a
loopback address comes back to the sockets.

The payload of a datagram that a game receives is the whole payload exactly
when no ring on its way was too small for it.
-/

namespace SlpClient

open SlpClient.Lib
open SlpClient.Bsd
open SlpClient.Ldn
open SlpClient.Tunnel

/-! ## The parts -/

/-- The state of all parts. -/
structure Console where
  ldn : System
  table : FragTable
  sender : Sender
  plane : Plane

/--
Datagrams of the relay, calls of `slp::tun::Send`, everything that happens in
the control plane, and requests of the games to their sockets.
-/
inductive ConsoleInput
  | relay (env : Env) (order : WalkOrder) (arrival : Tunnel.Arrival)
  | send (env : Env) (order : WalkOrder) (writes : Nat → Bool)
      (call : Tunnel.SendCall)
  | ldn (env : Env) (event : Event)
  | request (request : Request)

/-- What the control plane does, and what the sockets answer. -/
structure ConsoleOutput where
  effects : List (List Effect)
  traffic : List PlaneOutput

namespace Console

/-- A console that has just started, with its address. -/
def initial (mtu localIp : UInt32) : Console where
  ldn := .initial mtu
  table := .empty
  sender := ⟨localIp, 0⟩
  plane := .initial localIp

/-- A call of `slp::tun::Send`. -/
def sent (console : Console) (env : Env) (writes : Nat → Bool)
    (call : Tunnel.SendCall) : Sent :=
  console.sender.send ⟨env.running, env.clientOpen⟩ writes call

/-- The frame that an upcall of the tunnel gives to the control plane. -/
def upcallEvents (env : Env) : Option Upcall → List (Env × Event)
  | some (.onControlFrame src frame) => [(env, .frame src frame)]
  | _ => []

/-- The datagram that an upcall of the tunnel gives to the sockets. -/
def upcallTraffic (console : Console) (env : Env) (order : WalkOrder) :
    Option Upcall → List PlaneInput
  | some (.routeIncomingData src sport dst dport protocol data) =>
      [.route (console.ldn.control.isKnownSessionPeerPublic env src).1
        order ⟨src, sport, dst, dport, protocol, data⟩]
  | _ => []

/-- What an input gives to the control plane. -/
def events (console : Console) : ConsoleInput → List (Env × Event)
  | .relay env _ arrival =>
      upcallEvents env (relayMachine.output console.table arrival)
  | .send env _ writes call =>
      upcallEvents env (console.sent env writes call).delivered
  | .ldn env event => [(env, event)]
  | .request _ => []

/-- What an input gives to the sockets. -/
def traffic (console : Console) : ConsoleInput → List PlaneInput
  | .relay env order arrival =>
      console.upcallTraffic env order
        (relayMachine.output console.table arrival)
  | .send env order writes call =>
      console.upcallTraffic env order
        (console.sent env writes call).delivered
  | .ldn _ _ => []
  | .request request => [.request request]

/-- The fragment table after an input. -/
def nextTable (console : Console) : ConsoleInput → FragTable
  | .relay _ _ arrival => relayMachine.next console.table arrival
  | _ => console.table

/-- The sending half of the tunnel after an input. -/
def nextSender (console : Console) : ConsoleInput → Sender
  | .send env _ writes call => (console.sent env writes call).sender
  | _ => console.sender

/-- The parts together. -/
def machine : Machine Console ConsoleInput ConsoleOutput where
  step console input :=
    ({ ldn := System.machine.run console.ldn (console.events input)
       table := console.nextTable input
       sender := console.nextSender input
       plane := Plane.machine.run console.plane (console.traffic input) },
      { effects :=
          System.machine.outputs console.ldn (console.events input)
        traffic :=
          Plane.machine.outputs console.plane (console.traffic input) })

/-- The control plane after a run. -/
theorem run_ldn (mtu localIp : UInt32) (inputs : List ConsoleInput) :
    (machine.run (initial mtu localIp) inputs).ldn =
      System.machine.run (.initial mtu)
        (machine.fed events (initial mtu localIp) inputs) :=
  Machine.part_run (fun _ _ => rfl) (initial mtu localIp) inputs

/-- The sockets after a run. -/
theorem run_plane (mtu localIp : UInt32) (inputs : List ConsoleInput) :
    (machine.run (initial mtu localIp) inputs).plane =
      Plane.machine.run (.initial localIp)
        (machine.fed traffic (initial mtu localIp) inputs) :=
  Machine.part_run (fun _ _ => rfl) (initial mtu localIp) inputs

/-! ## Whole datagrams -/

/-- The queues of whole datagrams after a run of a console. -/
def idealAfter (mtu localIp : UInt32) (inputs : List ConsoleInput) :
    Ideal :=
  Ideal.machine.run (.initial localIp)
    (machine.fed traffic (initial mtu localIp) inputs)

/-- After every run of a console its rings represent the queues. -/
theorem run_plane_represents (mtu localIp : UInt32)
    (inputs : List ConsoleInput) :
    Represents (machine.run (initial mtu localIp) inputs).plane
      (idealAfter mtu localIp inputs) := by
  rw [run_plane]
  exact run_represents localIp _

/-- The console answers the request with the whole datagram. -/
def ReturnsWhole (console : Console) (request : Request)
    (arrived : Arrived) : Prop :=
  (machine.output console (.request request)).traffic.map
      PlaneOutput.received =
    [some
      (.packet
        (.inet arrived.incoming.sourceIp arrived.incoming.sourcePort)
        arrived.incoming.data)]

theorem returnsWhole_iff_limit (mtu localIp : UInt32)
    (inputs : List ConsoleInput) {request : Request} {arrived : Arrived}
    {capacity : Nat} (into : request.capacity = some capacity)
    (returns :
      Ideal.machine.output (idealAfter mtu localIp inputs)
          (.request request) =
        some arrived)
    (room : arrived.incoming.data.length ≤ capacity) :
    ReturnsWhole (machine.run (initial mtu localIp) inputs) request
        arrived ↔
      arrived.incoming.data.length ≤ arrived.limit :=
  List.singleton_inj.trans
    ((run_plane_represents mtu localIp inputs).output_whole_iff into
      returns room)

/--
After every run of a console, a receive with room for the whole datagram that
it hands back returns the whole payload exactly when the payload has at most
2000 bytes, or at most 1400 if the datagram waited for its socket.
-/
theorem returnsWhole_iff (mtu localIp : UInt32)
    (inputs : List ConsoleInput) {request : Request} {arrived : Arrived}
    {capacity : Nat} (into : request.capacity = some capacity)
    (returns :
      Ideal.machine.output (idealAfter mtu localIp inputs)
          (.request request) =
        some arrived)
    (room : arrived.incoming.data.length ≤ capacity) :
    ReturnsWhole (machine.run (initial mtu localIp) inputs) request
        arrived ↔
      arrived.incoming.data.length ≤
        (if arrived.late then 1400 else 2000) := by
  have limit :
      arrived.limit = if arrived.late then 1400 else 2000 :=
    rfl
  rw [← limit]
  exact returnsWhole_iff_limit mtu localIp inputs into returns room

/-! ### A browse reply before and after the socket is bound -/

/-- The walk in the order of the registry. -/
def registryOrder : WalkOrder :=
  ⟨fun fds => fds, fun _ => .refl _⟩

/-- The frame of the relay that carries a datagram of a peer. -/
def relayed (call : Tunnel.SendCall) : ConsoleInput :=
  .relay (Env.at 0) registryOrder
    ⟨0, 0, slpTypeIpv4 :: ipPacket call call.src 0⟩

/-- The arguments of `RouteIncomingData` for it. -/
def relayedIncoming (call : Tunnel.SendCall) : Incoming :=
  ⟨call.src, call.sport, call.dst, call.dport, .udp, call.data⟩

theorem output_relayed (table : FragTable) {call : Tunnel.SendCall}
    (short : call.data.length ≤ 2000) :
    relayMachine.output table
        ⟨0, 0, slpTypeIpv4 :: ipPacket call call.src 0⟩ =
      some (call.upcall call.src) := by
  have nonempty : ipPacket call call.src 0 ≠ [] :=
    List.ne_nil_of_length_pos (by rw [ipPacket_length]; omega)
  rw [Machine.output, relayMachine_whole table nonempty rfl,
    processIpv4_ipPacket _ _ _ short]

/-- A datagram for a game goes to the sockets. -/
theorem traffic_relayed (console : Console) {call : Tunnel.SendCall}
    (short : call.data.length ≤ 2000)
    (game : call.dport ≠ controlPort) :
    console.traffic (relayed call) =
        [.route
          (console.ldn.control.isKnownSessionPeerPublic (Env.at 0)
            call.src).1
          registryOrder (relayedIncoming call)] ∧
      console.events (relayed call) = [] := by
  have upcall :
      call.upcall call.src =
        .routeIncomingData call.src call.sport call.dst call.dport .udp
          call.data := by
    rw [Tunnel.SendCall.upcall, if_neg game]
  have output := output_relayed console.table short
  rw [upcall] at output
  constructor
  · show console.upcallTraffic _ _ (relayMachine.output _ _) = _
    rw [output]
    rfl
  · show upcallEvents _ (relayMachine.output _ _) = _
    rw [output]
    rfl

/-- A peer answers on the browse port of the LAN mode. -/
def browseReply (data : List UInt8) : Tunnel.SendCall where
  src := 0x0A0D0003
  sport := 30000
  dst := 0x0A0D0002
  dport := 30000
  data := data

/-- A game opens its browse socket. -/
def browseSocket : List ConsoleInput :=
  [.request (.command (.socket 0 2 17 ⟨true, 5, 0⟩)),
    .request
      (.command
        (.bind 5 [16, 2, 0x75, 0x30, 0, 0, 0, 0, 0, 0, 0, 0, 0, 0, 0, 0]))]

theorem traffic_browseReply (console : Console) {data : List UInt8}
    (short : data.length ≤ 2000) :
    console.traffic (relayed (browseReply data)) =
      [.route
        (console.ldn.control.isKnownSessionPeerPublic (Env.at 0)
          0x0A0D0003).1
        registryOrder (relayedIncoming (browseReply data))] :=
  (console.traffic_relayed short (show (30000 : UInt16) ≠ _ by decide)).1

/-- The answer reaches a socket that is bound already. -/
def browseInTime (data : List UInt8) : List ConsoleInput :=
  browseSocket ++ [relayed (browseReply data)]

/-- The answer comes before the socket is bound, and waits. -/
def browseTooEarly (data : List UInt8) : List ConsoleInput :=
  relayed (browseReply data) :: browseSocket

theorem browseInTime_returns {data : List UInt8}
    (short : data.length ≤ 2000) :
    Ideal.machine.output (idealAfter 1400 0x0A0D0002 (browseInTime data))
        (.request (.recvFrom 5 0 2000)) =
      some ⟨relayedIncoming (browseReply data), false⟩ := by
  unfold idealAfter browseInTime browseSocket
  simp only [List.cons_append, List.nil_append, Machine.fed,
    traffic_browseReply _ short]
  rfl

theorem browseTooEarly_returns {data : List UInt8}
    (short : data.length ≤ 2000) :
    Ideal.machine.output
        (idealAfter 1400 0x0A0D0002 (browseTooEarly data))
        (.request (.recvFrom 5 0 2000)) =
      some ⟨relayedIncoming (browseReply data), true⟩ := by
  unfold idealAfter browseTooEarly browseSocket
  simp only [Machine.fed, traffic_browseReply _ short]
  rfl

/-- A short answer is returned whole. -/
theorem browseInTime_returnsWhole :
    ReturnsWhole
      (machine.run (initial 1400 0x0A0D0002) (browseInTime [1, 2, 3]))
      (.recvFrom 5 0 2000) ⟨relayedIncoming (browseReply [1, 2, 3]), false⟩ :=
  (returnsWhole_iff 1400 0x0A0D0002 (browseInTime [1, 2, 3]) rfl
    (browseInTime_returns (by decide)) (by decide)).2 (by decide)

/-- A browse reply of 1569 bytes that had to wait loses its end. -/
theorem browseTooEarly_not_returnsWhole :
    Ideal.machine.output
          (idealAfter 1400 0x0A0D0002
            (browseTooEarly (List.replicate 1541 7)))
          (.request (.recvFrom 5 0 2000)) =
        some ⟨relayedIncoming (browseReply (List.replicate 1541 7)), true⟩ ∧
      (List.replicate 1541 (7 : UInt8)).length ≤ 2000 ∧
      ¬ ReturnsWhole
        (machine.run (initial 1400 0x0A0D0002)
          (browseTooEarly (List.replicate 1541 7)))
        (.recvFrom 5 0 2000)
        ⟨relayedIncoming (browseReply (List.replicate 1541 7)), true⟩ := by
  have room : (List.replicate 1541 (7 : UInt8)).length ≤ 2000 := by
    rw [List.length_replicate]
    omega
  have returns := browseTooEarly_returns room
  refine ⟨returns, room, ?_⟩
  intro whole
  have within :
      (List.replicate 1541 (7 : UInt8)).length ≤ pendingPayloadMax :=
    (returnsWhole_iff_limit _ _ _ rfl returns room).1 whole
  rw [List.length_replicate, pendingPayloadMax] at within
  omega

end Console

end SlpClient
