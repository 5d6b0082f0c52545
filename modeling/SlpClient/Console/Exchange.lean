import SlpClient.Bsd.DirectDelivery
import SlpClient.Bsd.Frames
import SlpClient.Bsd.ReceiveQueue
import SlpClient.Console.Traffic

/-!
# From one game to another

A game sends through a socket, the console wraps the payload into a packet and
hands it to the relay in one datagram or in parts, and the console of another
game puts it together and routes it to its sockets.  Meanwhile that console
goes on with everything else: frames and ticks, commands, requests of its
games, and whole packets of other peers.
-/

namespace SlpClient

open SlpClient.Lib
open SlpClient.Bsd
open SlpClient.Ldn
open SlpClient.Net
open SlpClient.Tunnel

/-! ## The sending game -/

namespace Bsd

/--
The arguments with which `ProxySocket::SendTo` reaches `slp::tun::Send`.  The
translation of addresses on the way is switched off.
-/
def ProxySocket.tunnelled (socket : ProxySocket) (data : List UInt8)
    (dest : SockAddrIn) : Option Tunnel.SendCall :=
  if socket.state = .created then none
  else if data.length > ProxySocket.maxPayload then none
  else
    some
      { src := socket.localAddr.addr
        sport := socket.localAddr.port
        dst := dest.addr
        dport := dest.port
        data := data }

/-- A send of a proxy socket reaches the tunnel when it matters what the
tunnel answers. -/
theorem ProxySocket.tunnelled_isSome_iff (socket : ProxySocket)
    (data : List UInt8) (dest : SockAddrIn) :
    (socket.tunnelled data dest).isSome = true ↔
      socket.sendTo data.length true ≠ socket.sendTo data.length false := by
  unfold ProxySocket.tunnelled ProxySocket.sendTo
  by_cases unbound : socket.state = .created
  · rw [if_pos unbound, if_pos unbound, if_pos unbound]
    exact iff_of_false Bool.false_ne_true fun differs => differs rfl
  · rw [if_neg unbound, if_neg unbound, if_neg unbound]
    by_cases long : data.length > ProxySocket.maxPayload
    · rw [if_pos long, if_pos long, if_pos long]
      exact iff_of_false Bool.false_ne_true fun differs => differs rfl
    · rw [if_neg long, if_neg long, if_neg long]
      refine iff_of_true rfl ?_
      show (data.length : Int) ≠ -BsdErrno.netUnreach.code
      have refused : -BsdErrno.netUnreach.code < 0 := by decide
      exact ne_of_gt (lt_of_lt_of_le refused (Int.natCast_nonneg _))

namespace Service

/-- What a `SendTo` of a game hands to `slp::tun::Send`. -/
def tunnelled (service : Service) (fd : Int) (buffer data : List UInt8) :
    Option Tunnel.SendCall :=
  match service.promoteSender fd buffer with
  | (_, some _) => none
  | (promoted, none) =>
      if toLan buffer || (service.info.lookup fd).any SocketInfo.isProxy then
        match promoted.sockets.lookup fd, SockAddrIn.read buffer with
        | some socket, some dest => socket.tunnelled data dest
        | _, _ => none
      else none

/-- Different results of a proxy socket are different answers. -/
theorem words_injective {first second : Int}
    (same :
      (if first < 0 then Answer.words (-1) (-first)
        else .words first 0) =
        if second < 0 then Answer.words (-1) (-second)
        else .words second 0) :
    first = second := by
  split at same
  · split at same
    · exact neg_inj.mp (Answer.words.inj same).2
    next positive =>
      exact
        absurd (Int.not_lt.mp positive)
          (by rw [← (Answer.words.inj same).1]; decide)
  next positive =>
    split at same
    · exact
        absurd (Int.not_lt.mp positive)
          (by rw [(Answer.words.inj same).1]; decide)
    · exact (Answer.words.inj same).1

/-- A `SendTo` reaches the tunnel exactly when its answer depends on what the
tunnel answers. -/
theorem tunnelled_isSome_iff (service : Service) (fd : Int)
    (buffer data : List UInt8) :
    (service.tunnelled fd buffer data).isSome = true ↔
      (service.sendTo fd buffer data.length true).2 ≠
        (service.sendTo fd buffer data.length false).2 := by
  unfold tunnelled sendTo
  generalize service.promoteSender fd buffer = promotion
  rcases promotion with ⟨promoted, unfailed | errno⟩
  · dsimp only
    split
    · dsimp only
      unfold sendProxy
      cases promoted.sockets.lookup fd with
      | none =>
          exact iff_of_false Bool.false_ne_true fun differs => differs rfl
      | some socket =>
          cases SockAddrIn.read buffer with
          | none =>
              exact
                iff_of_false Bool.false_ne_true fun differs => differs rfl
          | some dest =>
              dsimp only
              rw [socket.tunnelled_isSome_iff data dest]
              constructor
              · intro differs same
                exact differs (words_injective same)
              · intro differs same
                rw [same] at differs
                exact differs rfl
    · exact iff_of_false Bool.false_ne_true fun differs => differs rfl
  · exact iff_of_false Bool.false_ne_true fun differs => differs rfl

/-- A send that reaches the tunnel: the socket that sends, and the answer. -/
theorem tunnelled_eq_some {service : Service} {fd : Int}
    {buffer data : List UInt8} {call : Tunnel.SendCall}
    (asks : service.tunnelled fd buffer data = some call) :
    call.data = data ∧
      (service.sendTo fd buffer data.length true).2 =
        .words data.length 0 ∧
      ∃ socket,
        (service.sendTo fd buffer data.length true).1.sockets.lookup fd =
            some socket ∧
          call.src = socket.localAddr.addr ∧
            call.sport = socket.localAddr.port := by
  unfold tunnelled at asks
  unfold sendTo
  generalize service.promoteSender fd buffer = promotion at asks ⊢
  rcases promotion with ⟨promoted, unfailed | errno⟩
  · dsimp only at asks ⊢
    split at asks
    next proxied =>
      rw [if_pos proxied]
      unfold sendProxy
      cases found : promoted.sockets.lookup fd with
      | none => simp [found] at asks
      | some socket =>
          cases read : SockAddrIn.read buffer with
          | none => simp [found, read] at asks
          | some dest =>
              rw [found, read] at asks
              dsimp only at asks ⊢
              unfold ProxySocket.tunnelled at asks
              split at asks
              · contradiction
              next ready =>
                split at asks
                · contradiction
                next short =>
                  rw [Option.some.injEq] at asks
                  subst asks
                  have result :
                      socket.sendTo data.length true = data.length := by
                    unfold ProxySocket.sendTo
                    rw [if_neg ready, if_neg short]
                    rfl
                  refine ⟨rfl, ?_, socket, rfl, rfl, rfl⟩
                  rw [result, if_neg (Int.not_lt.mpr (Int.natCast_nonneg _))]
    · contradiction
  · contradiction

end Service

end Bsd

/-! ## On the relay -/

namespace Tunnel

/-- A send is relayed as one datagram, or as the parts of a long packet. -/
theorem Sender.send_forms {sender : Sender} {runtime : Runtime}
    {writes : Nat → Bool} {call : Tunnel.SendCall}
    (remote : isLoopback call.dst = false)
    (ok : (sender.send runtime writes call).relayed.ok = true) :
    (sender.send runtime writes call).relayed.datagrams =
        [slpTypeIpv4 ::
          ipPacket call (sender.presentedSrc call.src) sender.ipId] ∨
      ∃ datagram : Datagram,
        datagram.bytes =
            ipPacket call (sender.presentedSrc call.src) sender.ipId ∧
          (sender.send runtime writes call).relayed.datagrams =
            (List.range datagram.parts).map (partFrame datagram.bytes) := by
  rcases Sender.send_relayed remote ok with ⟨short, relayed⟩
  rw [relayed] at ok ⊢
  have length := ipPacket_length call (sender.presentedSrc call.src)
    sender.ipId
  generalize
    ipPacket call (sender.presentedSrc call.src) sender.ipId = packet at *
  by_cases whole : packet.length ≤ slpMtu
  · refine .inl ?_
    rw [slpClientSendIpv4_whole writes (by omega) whole] at ok ⊢
    unfold slpClientSendRaw at ok ⊢
    split at ok
    next written => rw [if_pos written]
    · contradiction
  · rw [not_le] at whole
    have fits : packet.length ≤ fragCapacity := by
      show packet.length ≤ 5600
      omega
    let datagram : Datagram := ⟨packet, whole, fits⟩
    have counted : chunkCount slpMtu packet ≤ 255 :=
      datagram.parts_le.trans (by decide)
    refine .inr ⟨datagram, rfl, ?_⟩
    rw [slpClientSendIpv4_parts writes whole counted] at ok ⊢
    rw [remainingParts_datagrams ok, Nat.sub_zero, ← List.range_eq_range']
    rfl

/-- A datagram of the relay that touches the fragment table. -/
def isFragment (bytes : List UInt8) : Bool :=
  bytes.head?.any fun first => first &&& 0x7F == slpTypeIpv4Frag

/-- Any other datagram leaves the fragment table alone. -/
theorem relayMachine_next_of_not_fragment (table : FragTable)
    {arrival : Arrival} (whole : isFragment arrival.bytes = false) :
    relayMachine.next table arrival = table := by
  show (table.onDatagram arrival.now arrival.later arrival.bytes).1 = table
  cases opened : arrival.bytes with
  | nil => rfl
  | cons first payload =>
      rw [opened] at whole
      have other : first &&& 0x7F ≠ slpTypeIpv4Frag :=
        bne_iff_ne.mp (bne_iff_ne.mpr (beq_eq_false_iff_ne.mp whole))
      unfold FragTable.onDatagram
      dsimp only
      split
      · rfl
      · split
        · rfl
        · split
          · rfl
          · unfold FragTable.onFrame
            rw [if_neg other]
            split
            · rfl
            · rfl

/-- A fragment table that takes this packet in: no other packet has its key,
a slot can be claimed, and no part comes too late. -/
structure Receivable (table : FragTable) (src : UInt32) (id : UInt16)
    (arrivals : List Arrival) : Prop where
  absent : ∀ slot, (table slot).holdsKey src id = false
  room :
    ∃ slot, (table slot).active = false ∨ (table slot).lastTick < int64Max
  timely : WithinTimeout arrivals

/-- What was sent comes out of the tunnel once. -/
theorem Sender.send_upcalls {sender : Sender} {runtime : Runtime}
    {writes : Nat → Bool} {call : Tunnel.SendCall}
    (remote : isLoopback call.dst = false)
    (ok : (sender.send runtime writes call).relayed.ok = true)
    {table : FragTable} {arrivals : List Arrival}
    (brought :
      (arrivals.map Arrival.bytes).Perm
        (sender.send runtime writes call).relayed.datagrams)
    (receivable :
      Receivable table (sender.presentedSrc call.src) sender.ipId
        arrivals) :
    (relayMachine.outputs table arrivals).reduceOption =
      [call.upcall (sender.presentedSrc call.src)] := by
  have short := (Sender.send_relayed remote ok).1
  have processed :=
    processIpv4_ipPacket call (sender.presentedSrc call.src) sender.ipId
      short
  rcases Sender.send_forms remote ok with single | ⟨datagram, bytes, parts⟩
  · rw [single, List.perm_singleton] at brought
    rcases List.map_eq_singleton_iff.mp brought with
      ⟨arrival, rfl, framed⟩
    have nonempty :
        ipPacket call (sender.presentedSrc call.src) sender.ipId ≠ [] :=
      List.ne_nil_of_length_pos (by rw [ipPacket_length]; omega)
    rw [Machine.outputs_cons, Machine.output,
      relayMachine_whole table nonempty framed, processed]
    rfl
  · rw [parts] at brought
    have src : datagram.src = sender.presentedSrc call.src := by
      rw [Datagram.src, bytes, slpIpv4Src_ipPacket]
    have id : datagram.id = sender.ipId := by
      rw [Datagram.id, bytes, identification_ipPacket]
    have unknown : table.Absent datagram := by
      intro slot
      rw [src, id]
      exact receivable.absent slot
    rw [outputs_of_absent unknown receivable.room
      (bringsRest_of_perm brought) receivable.timely, bytes, processed]
    rfl

end Tunnel

/-! ## The receiving console -/

/-- The datagram for the sockets that an upcall brings. -/
def Tunnel.Upcall.incoming : Upcall → Option Incoming
  | .routeIncomingData src sport dst dport protocol data =>
      some ⟨src, sport, dst, dport, protocol, data⟩
  | .onControlFrame _ _ => none

/-- The datagram of the relay that an input brings. -/
def ConsoleInput.arrival : ConsoleInput → Option Tunnel.Arrival
  | .relay _ _ arrival => some arrival
  | _ => none

/-- One of these datagrams of the relay, or any part of a packet. -/
def ConsoleInput.brings (datagrams : List (List UInt8))
    (input : ConsoleInput) : Option Tunnel.Arrival :=
  input.arrival.filter fun arrival =>
    isFragment arrival.bytes || datagrams.contains arrival.bytes

namespace Console

/-- What these datagrams of the relay bring for the sockets. -/
def routed (datagrams : List (List UInt8)) (console : Console)
    (input : ConsoleInput) : List Incoming :=
  ((input.brings datagrams).bind fun arrival =>
    (relayMachine.output console.table arrival).bind
      Upcall.incoming).toList

section Brought

variable {datagrams : List (List UInt8)}

theorem brings_eq_some {input : ConsoleInput} {arrival : Tunnel.Arrival}
    (brings : input.brings datagrams = some arrival) :
    ∃ env order, input = .relay env order arrival := by
  have arrives := (Option.filter_eq_some_iff.mp brings).1
  cases input with
  | relay env order received =>
      rw [ConsoleInput.arrival, Option.some.injEq] at arrives
      exact ⟨env, order, by rw [arrives]⟩
  | _ => contradiction

/-- Nothing else touches the fragment table. -/
theorem table_of_brings_none (console : Console) {input : ConsoleInput}
    (brings : input.brings datagrams = none) :
    (machine.next console input).table = console.table := by
  cases input with
  | relay env order arrival =>
      have other := Option.filter_eq_none_iff.mp brings arrival rfl
      rw [Bool.or_eq_true, not_or, Bool.not_eq_true] at other
      exact relayMachine_next_of_not_fragment console.table other.1
  | _ => rfl

/-- What is brought for the sockets in a run is what the tunnel hands up. -/
theorem fed_routed (console : Console) (inputs : List ConsoleInput) :
    machine.fed (routed datagrams) console inputs =
      (relayMachine.outputs console.table
          (inputs.filterMap
            (ConsoleInput.brings datagrams))).reduceOption.filterMap
        Upcall.incoming := by
  induction inputs generalizing console with
  | nil => rfl
  | cons input rest induction =>
      rw [Machine.fed, induction (machine.next console input)]
      cases brings : input.brings datagrams with
      | none =>
          rw [List.filterMap_cons_none brings, routed, brings,
            table_of_brings_none console brings]
          rfl
      | some arrival =>
          rcases brings_eq_some brings with ⟨env, order, rfl⟩
          rw [List.filterMap_cons_some brings, Machine.outputs_cons, routed,
            brings]
          show
            ((relayMachine.output console.table arrival).bind
                  Upcall.incoming).toList ++
                (relayMachine.outputs
                  (relayMachine.next console.table arrival)
                  (rest.filterMap
                    (ConsoleInput.brings
                      datagrams))).reduceOption.filterMap
                  Upcall.incoming = _
          cases relayMachine.output console.table arrival with
          | none => rfl
          | some upcall =>
              show _ = List.filterMap Upcall.incoming (upcall :: _)
              cases incoming : upcall.incoming with
              | none =>
                  rw [List.filterMap_cons_none incoming]
                  show (upcall.incoming).toList ++ _ = _
                  rw [incoming]
                  rfl
              | some datagram =>
                  rw [List.filterMap_cons_some incoming]
                  show (upcall.incoming).toList ++ _ = _
                  rw [incoming]
                  rfl

/-- An input that brings a datagram routes it. -/
theorem traffic_of_routed {console : Console} {input : ConsoleInput}
    {incoming : Incoming}
    (brings : console.routed datagrams input = [incoming]) :
    ∃ env order arrival,
      input = .relay env order arrival ∧
        console.traffic input =
          [.route
            (console.ldn.control.isKnownSessionPeerPublic env
              incoming.sourceIp).1
            order incoming] := by
  unfold routed at brings
  cases arrives : input.brings datagrams with
  | none =>
      rw [arrives] at brings
      contradiction
  | some arrival =>
      rcases brings_eq_some arrives with ⟨env, order, rfl⟩
      rw [arrives] at brings
      refine ⟨env, order, arrival, rfl, ?_⟩
      show
        console.upcallTraffic env order
          (relayMachine.output console.table arrival) = _
      cases output : relayMachine.output console.table arrival with
      | none =>
          rw [Option.bind_some, output] at brings
          contradiction
      | some upcall =>
          rw [Option.bind_some, output] at brings
          cases upcall with
          | onControlFrame src frame => contradiction
          | routeIncomingData src sport dst dport protocol data =>
              rw [← List.singleton_inj.mp brings]
              rfl

end Brought

/-! ## The receiving game -/

/-- The socket gets the datagram with this input, behind what waits. -/
structure Receives (console : Console) (input : ConsoleInput)
    (reader : Int) (source : SockAddrIn) (data : List UInt8) : Prop where
  queued :
    ((machine.next console input).plane.inboxes reader).queue =
      pushBounded 32 (console.plane.inboxes reader).queue (source, data)
  read :
    (console.plane.inboxes reader).queue = [] →
      (console.plane.service.receiver reader).isSome →
        ∀ flags capacity, data.length ≤ capacity →
          ((machine.next console input).plane.recvFrom reader flags
              capacity).2 =
            .packet source data

/-- A receive on a ring with one datagram returns it. -/
theorem recvFrom_of_queue {plane : Plane} {reader : Int}
    (proxied : (plane.service.receiver reader).isSome)
    {source : SockAddrIn} {data : List UInt8}
    (queue : (plane.inboxes reader).queue = [(source, data)])
    (flags : UInt32) {capacity : Nat} (room : data.length ≤ capacity) :
    (plane.recvFrom reader flags capacity).2 = .packet source data := by
  rcases Option.isSome_iff_exists.mp proxied with ⟨socket, found⟩
  rcases List.map_eq_singleton_iff.mp queue with ⟨packet, ring, same⟩
  have from_source : packet.source = source := congrArg Prod.fst same
  have payload : packet.data = data := congrArg Prod.snd same
  have received := (Inbox.recvFrom_of_cons ring flags capacity).2
  rw [from_source, payload] at received
  unfold Plane.recvFrom Plane.receive
  rw [found]
  dsimp only
  rw [if_pos rfl, received]
  exact congrArg _ (List.take_of_length_le room)

/-- A routed datagram that passes the filter reaches who is served. -/
theorem receives_of_traffic {console : Console} {input : ConsoleInput}
    {known : Bool} {order : WalkOrder} {incoming : Incoming}
    (routes : console.traffic input = [.route known order incoming])
    (passes : (isLanModePort incoming.destPort || known) = true)
    (short : incoming.data.length ≤ 2000) {reader : Int}
    (served :
      reader ∈ console.plane.service.findAllSocketsByDestination order
        incoming.destIp incoming.destPort incoming.protocol) :
    console.Receives input reader
      (.inet incoming.sourceIp incoming.sourcePort) incoming.data := by
  have plane :
      (machine.next console input).plane =
        (console.plane.routeIncomingData known order incoming).1 := by
    show Plane.machine.run console.plane (console.traffic input) = _
    rw [routes]
    rfl
  have queued :
      ((machine.next console input).plane.inboxes reader).queue =
        pushBounded 32 (console.plane.inboxes reader).queue
          (.inet incoming.sourceIp incoming.sourcePort, incoming.data) := by
    rw [plane, Plane.routeIncomingData_inboxes _ _ passes, if_pos served]
    have whole :
        incoming.data.take ProxySocket.maxPayload = incoming.data :=
      List.take_of_length_le short
    unfold Inbox.queue Inbox.incomingData
    rw [Ring.toList_push, map_pushBounded, ReceivedPacket.datagram,
      ReceivedPacket.clamped]
    dsimp only
    rw [whole]
  refine ⟨queued, ?_⟩
  intro nothing proxied flags capacity room
  rw [nothing] at queued
  refine recvFrom_of_queue ?_ queued flags room
  rw [plane, Plane.routeIncomingData_service]
  exact proxied

/-- The address that a game is told as the source of a datagram leads back to
the socket that sent it. -/
theorem accepts_presentedSrc (socket : ProxySocket) (sender : Sender) :
    socket.accepts (sender.presentedSrc socket.localAddr.addr)
      socket.localAddr.port socket.protocol = true := by
  unfold ProxySocket.accepts Sender.presentedSrc
  split
  next any => simp [any]
  · simp

/-- What a game sends is sent in full, and on the console that its datagrams
reach, in any order and among anything else but parts of other packets, it is
routed once, by one of its inputs.  If it passes the filter there, every
socket that is served gets it whole behind what waits, with an address that
leads back to the socket that sent it. -/
theorem datagram_exchanged {sender : Console} {env : Env}
    {writes : Nat → Bool} {fd : Int} {buffer data : List UInt8}
    {call : Tunnel.SendCall}
    (asks : sender.plane.service.tunnelled fd buffer data = some call)
    (remote : isLoopback call.dst = false)
    (game : call.dport ≠ controlPort)
    (ok : (sender.sent env writes call).relayed.ok = true)
    {receiver : Console} {inputs : List ConsoleInput}
    (brought :
      ((inputs.filterMap
          (ConsoleInput.brings
            (sender.sent env writes call).relayed.datagrams)).map
        Arrival.bytes).Perm
          (sender.sent env writes call).relayed.datagrams)
    (receivable :
      Receivable receiver.table (sender.sender.presentedSrc call.src)
        sender.sender.ipId
        (inputs.filterMap
          (ConsoleInput.brings
            (sender.sent env writes call).relayed.datagrams))) :
    (sender.plane.service.sendTo fd buffer data.length true).2 =
        .words data.length 0 ∧
      (((sender.plane.service.sendTo fd buffer data.length
            true).1.sockets.lookup fd).any fun socket =>
        socket.accepts (sender.sender.presentedSrc call.src) call.sport
          socket.protocol) = true ∧
      machine.fed
          (routed (sender.sent env writes call).relayed.datagrams) receiver
          inputs =
        [⟨sender.sender.presentedSrc call.src, call.sport, call.dst,
          call.dport, .udp, data⟩] ∧
      ∃ before receiverEnv order arrival after,
        inputs = before ++ .relay receiverEnv order arrival :: after ∧
          (machine.run receiver before).routed
              (sender.sent env writes call).relayed.datagrams
              (.relay receiverEnv order arrival) =
            [⟨sender.sender.presentedSrc call.src, call.sport, call.dst,
              call.dport, .udp, data⟩] ∧
            ((isLanModePort call.dport ||
                ((machine.run receiver
                    before).ldn.control.isKnownSessionPeerPublic
                  receiverEnv (sender.sender.presentedSrc call.src)).1) =
                true →
              ∀ reader ∈
                  (machine.run receiver
                      before).plane.service.findAllSocketsByDestination
                    order call.dst call.dport .udp,
                (machine.run receiver before).Receives
                  (.relay receiverEnv order arrival) reader
                  (.inet (sender.sender.presentedSrc call.src) call.sport)
                  data) := by
  rcases Service.tunnelled_eq_some asks with
    ⟨same, answered, socket, found, src, sport⟩
  have short := (Sender.send_relayed remote ok).1
  have once :
      machine.fed
          (routed (sender.sent env writes call).relayed.datagrams) receiver
          inputs =
        [⟨sender.sender.presentedSrc call.src, call.sport, call.dst,
          call.dport, .udp, data⟩] := by
    rw [fed_routed, Sender.send_upcalls remote ok brought receivable,
      Tunnel.SendCall.upcall, if_neg game, same]
    rfl
  refine ⟨answered, ?_, once, ?_⟩
  · rw [found, Option.any_some, src, sport]
    exact accepts_presentedSrc socket sender.sender
  · rcases Machine.exists_of_fed_eq_singleton once with
      ⟨before, input, after, rfl, here⟩
    rcases traffic_of_routed here with
      ⟨receiverEnv, order, arrival, rfl, routes⟩
    refine ⟨before, receiverEnv, order, arrival, after, rfl, here, ?_⟩
    intro passes reader served
    have fits : data.length ≤ 2000 := by
      rw [← same]
      exact short
    exact receives_of_traffic routes passes fits served

/-! ### A browse reply in two parts -/

/-- A console whose game has a browse socket. -/
def browsing (localIp : UInt32) : Console :=
  machine.run (initial 1400 localIp) browseSocket

/-- The browse port of the console at `10.13.0.2`. -/
def peerAddress : List UInt8 :=
  [16, 2, 0x75, 0x30, 10, 13, 0, 2, 0, 0, 0, 0, 0, 0, 0, 0]

/-- What the other console hands to the tunnel. -/
def peerCall (data : List UInt8) : Tunnel.SendCall :=
  ⟨0, 30000, 0x0A0D0002, 30000, data⟩

/-- What it sends to the relay. -/
def peerFrames (data : List UInt8) : List (List UInt8) :=
  ((browsing 0x0A0D0003).sent (Env.at 0) (fun _ => true)
    (peerCall data)).relayed.datagrams

/-- A tick, and then the frames, the last one first. -/
def peerArrival (frames : List (List UInt8)) : List ConsoleInput :=
  .ldn (Env.at 0) .tick ::
    frames.reverse.map fun bytes =>
      .relay (Env.at 0) registryOrder ⟨0, 0, bytes⟩

theorem peerCall_asked {data : List UInt8} (short : data.length ≤ 2000) :
    (browsing 0x0A0D0003).plane.service.tunnelled 5 peerAddress data =
      some (peerCall data) := by
  have socket :
      (browsing 0x0A0D0003).plane.service.tunnelled 5 peerAddress data =
        (((browsing 0x0A0D0003).plane.service.sockets.lookup 5).bind
          fun socket =>
            socket.tunnelled data (.inet 0x0A0D0002 30000)) :=
    rfl
  rw [socket]
  show
    (if ProxySocketState.bound = .created then none
      else if data.length > ProxySocket.maxPayload then none
      else some (peerCall data)) = some (peerCall data)
  have fits : ¬ data.length > ProxySocket.maxPayload :=
    Nat.not_lt.mpr short
  rw [if_neg (by decide), if_neg fits]

theorem peerCall_sent {data : List UInt8} (short : data.length ≤ 2000) :
    ((browsing 0x0A0D0003).sent (Env.at 0) (fun _ => true)
      (peerCall data)).relayed.ok = true := by
  have remote : isLoopback 0x0A0D0002 = false := by decide
  exact Sender.send_ok rfl rfl remote (fun _ => rfl) short

theorem peerArrival_brings (frames : List (List UInt8)) :
    (peerArrival frames).filterMap (ConsoleInput.brings frames) =
      frames.reverse.map fun bytes => ⟨0, 0, bytes⟩ := by
  rw [peerArrival, List.filterMap_cons_none rfl, List.filterMap_map]
  have each :
      ∀ bytes ∈ frames.reverse,
        (ConsoleInput.brings frames ∘ fun bytes =>
            ConsoleInput.relay (Env.at 0) registryOrder ⟨0, 0, bytes⟩)
            bytes =
          some (⟨0, 0, bytes⟩ : Tunnel.Arrival) := by
    intro bytes member
    apply if_pos
    rw [Bool.or_eq_true, List.contains_iff_mem]
    exact .inr (List.mem_reverse.mp member)
  rw [List.filterMap_congr each, List.filterMap_eq_map']

theorem peerArrival_receivable (frames : List (List UInt8)) (src : UInt32)
    (id : UInt16) :
    Receivable .empty src id
      ((peerArrival frames).filterMap (ConsoleInput.brings frames)) := by
  refine ⟨fun _ => rfl, ⟨⟨0, by decide⟩, .inl rfl⟩, ?_⟩
  rw [peerArrival_brings, WithinTimeout, List.isChain_map]
  exact List.Pairwise.isChain (List.pairwise_of_forall fun _ _ => Nat.zero_le _)

/-- A payload in two parts, that arrive in the wrong order. -/
theorem datagram_exchanged_parts :
    machine.fed (routed (peerFrames (List.replicate 1373 7)))
        (browsing 0x0A0D0002)
        (peerArrival (peerFrames (List.replicate 1373 7))) =
      [⟨0x0A0D0003, 30000, 0x0A0D0002, 30000, .udp,
        List.replicate 1373 7⟩] := by
  have short : (List.replicate 1373 (7 : UInt8)).length ≤ 2000 := by
    rw [List.length_replicate]
    decide
  have remote : isLoopback 0x0A0D0002 = false := by decide
  have game : (30000 : UInt16) ≠ controlPort := by decide
  have brought :
      (((peerArrival (peerFrames (List.replicate 1373 7))).filterMap
          (ConsoleInput.brings
            (peerFrames (List.replicate 1373 7)))).map
        Arrival.bytes).Perm (peerFrames (List.replicate 1373 7)) := by
    rw [peerArrival_brings, List.map_map]
    show (List.map id _).Perm _
    rw [List.map_id]
    exact List.reverse_perm _
  exact
    (datagram_exchanged (peerCall_asked short) remote game
      (peerCall_sent short) brought
      (peerArrival_receivable _ _ _)).2.2.1

end Console

end SlpClient
