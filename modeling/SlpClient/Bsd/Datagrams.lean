import SlpClient.Bsd.Receive

/-!
# Whole datagrams

What receiving is for: queues of whole datagrams, each with a note whether it
had to wait for its socket.  The rings of the proxy sockets and of the manager
represent these queues up to the length at which each of them cuts a payload.
-/

namespace SlpClient.Bsd

open SlpClient.Lib
open SlpClient.Net

/-! ## Queues of whole datagrams -/

/-- A datagram in the queue of a socket, and whether it came late. -/
structure Arrived where
  incoming : Incoming
  late : Bool
deriving DecidableEq

namespace Arrived

/-- The longest payload that arrives uncut. -/
def limit (arrived : Arrived) : Nat :=
  if arrived.late then pendingPayloadMax else ProxySocket.maxPayload

/-- What is placed in the receive ring. -/
def placed (arrived : Arrived) (fd : Int) : Placement :=
  if arrived.late then arrived.incoming.pending.placedAt fd
  else arrived.incoming.placedAt fd

/-- What the receive ring keeps of the datagram. -/
def packet (arrived : Arrived) : ReceivedPacket :=
  .clamped
    (.inet arrived.incoming.sourceIp arrived.incoming.sourcePort)
    (arrived.incoming.data.take arrived.limit)

end Arrived

/-- Sockets with queues of whole datagrams, and the waiting datagrams. -/
structure Ideal where
  service : Service
  queues : Int → List Arrived
  pending : List Incoming

namespace Ideal

def initial (localIp : UInt32) : Ideal where
  service := .initial localIp
  queues _ := []
  pending := []

/-- A datagram is queued at a socket. -/
def enqueue (ideal : Ideal) (fd : Int) (arrived : Arrived) : Ideal :=
  { ideal with
    queues :=
      Function.update ideal.queues fd
        (pushBounded 32 (ideal.queues fd) arrived) }

/-- A datagram of the tunnel is queued at every match, or waits. -/
def route (ideal : Ideal) (known : Bool) (order : WalkOrder)
    (incoming : Incoming) : Ideal :=
  if !isLanModePort incoming.destPort && !known then ideal
  else
    let targets :=
      ideal.service.findAllSocketsByDestination order incoming.destIp
        incoming.destPort incoming.protocol
    if targets = [] then
      { ideal with pending := pushBounded 16 ideal.pending incoming }
    else
      targets.foldl
        (fun ideal fd => ideal.enqueue fd ⟨incoming, false⟩) ideal

/-- A waiting datagram is for the port and protocol. -/
def isFor (port : UInt16) (protocol : ProtocolType)
    (incoming : Incoming) : Bool :=
  incoming.protocol == protocol && incoming.destPort == port

/-- The datagrams that wait for a port are queued at its socket. -/
def deliver (ideal : Ideal) (fd : Int) (port : UInt16)
    (protocol : ProtocolType) : Ideal :=
  (ideal.pending.filter (isFor port protocol)).foldl
    (fun ideal incoming => ideal.enqueue fd ⟨incoming, true⟩)
    { ideal with
      pending :=
        ideal.pending.filter fun incoming => !isFor port protocol incoming }

/-- The queues of sockets that a command created or closed are empty. -/
def renewed (ideal : Ideal) (service : Service) : Ideal :=
  { ideal with
    service := service
    queues := fun fd =>
      if (ideal.service.sockets.lookup fd).isSome ∧
          (service.sockets.lookup fd).isSome then
        ideal.queues fd
      else [] }

/-- A socket command. -/
def execute (ideal : Ideal) (command : Service.Command) : Ideal :=
  let renewed := ideal.renewed (ideal.service.execute command).1
  match ideal.service.delivers command with
  | none => renewed
  | some (fd, port, protocol) => renewed.deliver fd port protocol

/-- A receive takes the oldest datagram, unless it only looks at it. -/
def receive (ideal : Ideal) (fd : Int) (ready : ProxySocket → Bool)
    (flags : UInt32) : Ideal × Option Arrived :=
  match ideal.service.receiver fd with
  | none => (ideal, none)
  | some socket =>
      if ready socket then
        match ideal.queues fd with
        | [] => (ideal, none)
        | arrived :: rest =>
            (if Inbox.isPeek flags then ideal
              else
                { ideal with
                  queues := Function.update ideal.queues fd rest },
              some arrived)
      else (ideal, none)

/-- The ideal plane answers a receive with the datagram that it returns. -/
def machine : Machine Ideal PlaneInput (Option Arrived) where
  step ideal input :=
    match input with
    | .route known order incoming =>
        (ideal.route known order incoming, none)
    | .request (.command command) => (ideal.execute command, none)
    | .request (.recvFrom fd flags _) =>
        ideal.receive fd (fun _ => true) flags
    | .request (.recv fd flags _) =>
        ideal.receive fd (fun socket => socket.state == .connected) flags

end Ideal

/-! ## The rings represent the queues -/

namespace Inbox

variable {inbox : Inbox}

/-- A receive on an empty ring leaves it alone. -/
theorem recvFrom_of_nil (nothing : inbox.ring.toList = [])
    (flags : UInt32) (capacity : Nat) :
    inbox.recvFrom flags capacity = (inbox, .failed .again) := by
  have length := congrArg List.length nothing
  rw [Ring.length_toList, List.length_nil] at length
  rw [recvFrom, dif_neg (by omega)]

/-- A receive returns the oldest packet, and keeps it if it only looks. -/
theorem recvFrom_of_cons {packet : ReceivedPacket}
    {rest : List ReceivedPacket}
    (queue : inbox.ring.toList = packet :: rest) (flags : UInt32)
    (capacity : Nat) :
    (inbox.recvFrom flags capacity).1.ring.toList =
        (if isPeek flags then packet :: rest else rest) ∧
      (inbox.recvFrom flags capacity).2 =
        .packet packet.source (packet.data.take capacity) := by
  have length := congrArg List.length queue
  rw [Ring.length_toList, List.length_cons] at length
  have occupied : 0 < inbox.ring.count := by omega
  rw [recvFrom, dif_pos occupied]
  rw [inbox.ring.toList_eq_cons occupied, List.cons.injEq] at queue
  rcases queue with ⟨front, left⟩
  unfold consumeFront
  dsimp only
  rw [front]
  refine ⟨?_, rfl⟩
  split
  · rw [← front, ← left]
    exact inbox.ring.toList_eq_cons occupied
  · exact left

end Inbox

/-- The rings hold what they keep of the datagrams in the queues. -/
structure Represents (plane : Plane) (ideal : Ideal) : Prop where
  service : plane.service = ideal.service
  queues :
    ∀ fd,
      (plane.inboxes fd).ring.toList =
        (ideal.queues fd).map Arrived.packet
  pending : plane.pending.toList = ideal.pending.map Incoming.pending

theorem initial_represents (localIp : UInt32) :
    Represents (.initial localIp) (.initial localIp) :=
  ⟨rfl, fun _ => rfl, rfl⟩

/-- The payload limit is below that of the receive ring. -/
theorem Arrived.limit_le (arrived : Arrived) :
    arrived.limit ≤ ProxySocket.maxPayload := by
  unfold Arrived.limit
  split
  · decide
  · exact le_refl _

theorem Arrived.packet_data (arrived : Arrived) :
    arrived.packet.data = arrived.incoming.data.take arrived.limit :=
  List.take_of_length_le
    ((List.length_take_le ..).trans arrived.limit_le)

/-- What a placement leaves in the ring. -/
theorem Arrived.placed_packet (arrived : Arrived) (fd : Int) :
    ReceivedPacket.clamped
        (.inet (arrived.placed fd).sourceIp (arrived.placed fd).sourcePort)
        (arrived.placed fd).data =
      arrived.packet := by
  rcases arrived with ⟨incoming, late⟩
  cases late with
  | false =>
      show
        ReceivedPacket.clamped _ incoming.data =
          .clamped _ (incoming.data.take ProxySocket.maxPayload)
      unfold ReceivedPacket.clamped
      simp only [List.take_take, Nat.min_self]
      rfl
  | true => rfl

namespace Represents

variable {plane : Plane} {ideal : Ideal}

/-- The ring of one socket and its queue are replaced together. -/
theorem updated (represents : Represents plane ideal) (fd : Int)
    {inbox : Inbox} {queue : List Arrived}
    (same : inbox.ring.toList = queue.map Arrived.packet) :
    Represents
      { plane with inboxes := Function.update plane.inboxes fd inbox }
      { ideal with queues := Function.update ideal.queues fd queue } := by
  refine ⟨represents.service, ?_, represents.pending⟩
  intro other
  by_cases own : other = fd
  · subst own
    simp only [Function.update_self]
    exact same
  · simp only [Function.update_of_ne own]
    exact represents.queues other

/-- The ring of one socket is replaced by one with the same elements. -/
theorem replaced (represents : Represents plane ideal) (fd : Int)
    {inbox : Inbox}
    (same : inbox.ring.toList = (plane.inboxes fd).ring.toList) :
    Represents
      { plane with inboxes := Function.update plane.inboxes fd inbox }
      ideal := by
  have updated :=
    represents.updated fd (same.trans (represents.queues fd))
  rw [Function.update_eq_self] at updated
  exact updated

/-- One placement. -/
theorem place (represents : Represents plane ideal) (fd : Int)
    (arrived : Arrived) :
    Represents (plane.place (arrived.placed fd))
      (ideal.enqueue fd arrived) := by
  have target : (arrived.placed fd).fd = fd := by
    unfold Arrived.placed
    split <;> rfl
  unfold Plane.place Ideal.enqueue
  rw [target]
  apply represents.updated
  unfold Inbox.incomingData
  rw [arrived.placed_packet, Ring.toList_push, represents.queues,
    map_pushBounded]

/-- Placements of the same items on both sides. -/
theorem placeAll {Item : Type} (fd : Item → Int)
    (arrived : Item → Arrived) {items : List Item}
    (represents : Represents plane ideal) :
    Represents
      ((items.map fun item => (arrived item).placed (fd item)).foldl
        Plane.place plane)
      (items.foldl
        (fun ideal item => ideal.enqueue (fd item) (arrived item))
        ideal) := by
  induction items generalizing plane ideal with
  | nil => exact represents
  | cons item rest induction =>
      exact induction (represents.place (fd item) (arrived item))

theorem route (represents : Represents plane ideal) (known : Bool)
    (order : WalkOrder) (incoming : Incoming) :
    Represents (plane.routeIncomingData known order incoming).1
      (ideal.route known order incoming) := by
  unfold Plane.routeIncomingData Ideal.route
  rw [represents.service]
  split
  · exact represents
  · dsimp only
    split
    · refine ⟨rfl, represents.queues, ?_⟩
      rw [Ring.toList_push, represents.pending, map_pushBounded]
    · exact represents.placeAll (fun fd => fd) (fun _ => ⟨incoming, false⟩)

/-- What `DeliverPendingPackets` takes are the waiting datagrams. -/
theorem swept (represents : Represents plane ideal) (port : UInt16)
    (protocol : ProtocolType) :
    (plane.pending.swept (PendingPacket.isFor port protocol)).taken =
        (ideal.pending.filter (Ideal.isFor port protocol)).map
          Incoming.pending ∧
      (plane.pending.sweep (PendingPacket.isFor port protocol)).toList =
        (ideal.pending.filter
          fun incoming => !Ideal.isFor port protocol incoming).map
          Incoming.pending := by
  rw [Ring.swept_taken, Ring.toList_sweep, represents.pending,
    List.filter_map, List.filter_map]
  exact ⟨rfl, rfl⟩

theorem deliver (represents : Represents plane ideal) (fd : Int)
    (port : UInt16) (protocol : ProtocolType) :
    Represents (plane.deliverPendingPackets fd port protocol).1
      (ideal.deliver fd port protocol) := by
  have swept := represents.swept port protocol
  unfold Plane.deliverPendingPackets Ideal.deliver
  split
  · rename_i none
    have length := congrArg List.length represents.pending
    rw [Ring.length_toList, none, List.length_map] at length
    have nothing : ideal.pending = [] :=
      List.eq_nil_of_length_eq_zero length.symm
    simp only [nothing, List.filter_nil, List.foldl_nil]
    refine ⟨represents.service, represents.queues, ?_⟩
    rw [represents.pending, nothing]
  · dsimp only
    rw [swept.1, List.map_map]
    exact
      placeAll (fun _ => fd) (fun incoming => ⟨incoming, true⟩)
        ⟨represents.service, represents.queues, swept.2⟩

theorem renewed (represents : Represents plane ideal)
    (service : Service) :
    Represents (plane.renewed service) (ideal.renewed service) := by
  refine ⟨rfl, ?_, represents.pending⟩
  intro fd
  unfold Plane.renewed Ideal.renewed
  rw [represents.service]
  dsimp only
  split
  · exact represents.queues fd
  · rfl

theorem execute (represents : Represents plane ideal)
    (command : Service.Command) :
    Represents (plane.execute command).1 (ideal.execute command) := by
  have renewed := represents.renewed (ideal.service.execute command).1
  unfold Plane.execute Ideal.execute
  rw [represents.service]
  cases ideal.service.delivers command with
  | none => exact renewed
  | some bound => exact renewed.deliver bound.1 bound.2.1 bound.2.2

/-- A receive returns what is kept of the datagram it should return. -/
theorem receive (represents : Represents plane ideal) (fd : Int)
    (ready : ProxySocket → Bool) (flags : UInt32) (capacity : Nat) :
    Represents (plane.receive fd ready flags capacity).1
        (ideal.receive fd ready flags).1 ∧
      ∀ arrived, (ideal.receive fd ready flags).2 = some arrived →
        (plane.receive fd ready flags capacity).2 =
          .packet arrived.packet.source
            (arrived.packet.data.take capacity) := by
  have queue := represents.queues fd
  have receiver :
      plane.service.receiver fd = ideal.service.receiver fd :=
    congrArg (Service.receiver · fd) represents.service
  unfold Plane.receive Ideal.receive
  rw [receiver]
  cases ideal.service.receiver fd with
  | none => exact ⟨represents, fun _ none => nomatch none⟩
  | some socket =>
      by_cases isReady : ready socket = true
      · dsimp only
        rw [if_pos isReady, if_pos isReady]
        cases waiting : ideal.queues fd with
        | nil =>
            rw [waiting] at queue
            rw [Inbox.recvFrom_of_nil queue]
            exact
              ⟨represents.replaced fd rfl, fun _ none => nomatch none⟩
        | cons arrived rest =>
            rw [waiting] at queue
            have received :=
              Inbox.recvFrom_of_cons queue flags capacity
            refine ⟨?_, ?_⟩
            · dsimp only
              split
              · rename_i peeks
                rw [if_pos peeks] at received
                exact represents.replaced fd (received.1.trans queue.symm)
              · rename_i takes
                rw [if_neg takes] at received
                exact represents.updated fd received.1
            · intro other same
              rw [Option.some.injEq] at same
              rw [← same]
              exact received.2
      · dsimp only
        rw [if_neg isReady, if_neg isReady]
        exact ⟨represents, fun _ none => nomatch none⟩

/-- Every input takes rings that represent queues to such rings. -/
theorem next (represents : Represents plane ideal)
    (input : PlaneInput) :
    Represents (Plane.machine.next plane input)
      (Ideal.machine.next ideal input) := by
  cases input with
  | route known order incoming =>
      exact represents.route known order incoming
  | request request =>
      cases request with
      | command command => exact represents.execute command
      | recvFrom fd flags capacity =>
          exact (represents.receive fd _ flags capacity).1
      | recv fd flags capacity =>
          exact (represents.receive fd _ flags capacity).1

/-- What a receive returns is what the rings keep of the datagram. -/
theorem output (represents : Represents plane ideal)
    {request : Request} {arrived : Arrived} {capacity : Nat}
    (into : request.capacity = some capacity)
    (returns :
      Ideal.machine.output ideal (.request request) = some arrived) :
    (Plane.machine.output plane (.request request)).received =
      some
        (.packet
          (.inet arrived.incoming.sourceIp arrived.incoming.sourcePort)
          ((arrived.incoming.data.take arrived.limit).take capacity)) := by
  rw [← arrived.packet_data]
  cases request with
  | command command => nomatch into
  | recvFrom fd flags size =>
      rw [← Option.some.inj into]
      exact
        congrArg some
          ((represents.receive fd _ flags size).2 arrived returns)
  | recv fd flags size =>
      rw [← Option.some.inj into]
      exact
        congrArg some
          ((represents.receive fd _ flags size).2 arrived returns)

/--
A receive with room for the whole datagram returns the whole datagram exactly
when that is within the limit of the rings it went through.
-/
theorem output_whole_iff (represents : Represents plane ideal)
    {request : Request} {arrived : Arrived} {capacity : Nat}
    (into : request.capacity = some capacity)
    (returns :
      Ideal.machine.output ideal (.request request) = some arrived)
    (room : arrived.incoming.data.length ≤ capacity) :
    (Plane.machine.output plane (.request request)).received =
        some
          (.packet
            (.inet arrived.incoming.sourceIp arrived.incoming.sourcePort)
            arrived.incoming.data) ↔
      arrived.incoming.data.length ≤ arrived.limit := by
  have short :
      (arrived.incoming.data.take arrived.limit).length ≤ capacity :=
    (List.length_take_le' ..).trans room
  rw [represents.output into returns, Option.some.injEq,
    Received.packet.injEq, List.take_of_length_le short,
    List.take_eq_self_iff]
  exact and_iff_right rfl

end Represents

/-- In every run the rings represent the queues. -/
theorem run_represents (localIp : UInt32) (inputs : List PlaneInput) :
    Represents (Plane.machine.run (.initial localIp) inputs)
      (Ideal.machine.run (.initial localIp) inputs) := by
  have keeps :
      ∀ plane ideal input, Represents plane ideal →
        Represents (Plane.machine.next plane input)
          (Ideal.machine.next ideal input) :=
    fun _ _ input represents => represents.next input
  exact Machine.run_simulation keeps (initial_represents localIp) inputs

end SlpClient.Bsd
