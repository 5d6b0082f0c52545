import SlpClient.Bsd.DirectDelivery
import SlpClient.Console.Members

/-!
# Loopback sends

What a game sends to a loopback address is not tunnelled: `slp::tun::Send`
gives it to `RouteIncomingData`, with the destination as its source, and
answers that it was sent.  The way back is the one of the relay's traffic, so
the session filter may drop the datagram, and what waits for a socket is cut.
-/

namespace SlpClient

open SlpClient.Lib
open SlpClient.Bsd
open SlpClient.Ldn
open SlpClient.Net
open SlpClient.Tunnel

/-- A registered UDP socket bound to the port and to the address or to any. -/
def Bsd.Service.boundFor (service : Service) (ip : UInt32) (port : UInt16)
    (fd : Int) : Bool :=
  (service.sockets.lookup fd).any fun socket =>
    socket.protocol == .udp && socket.localAddr.port == port &&
      (socket.localAddr.addr == 0 || socket.localAddr.addr == ip)

/-- The arguments with which a loopback send comes back. -/
def Tunnel.SendCall.returned (call : Tunnel.SendCall) : Incoming :=
  ⟨call.dst, call.sport, call.dst, call.dport, .udp, call.data⟩

namespace Console

/--
Nothing is handed to the relay, and a send that succeeds has put the payload
into every socket bound for the destination or, if there is none, into the
pending ring.
-/
structure LoopsBack (console : Console) (env : Env) (order : WalkOrder)
    (writes : Nat → Bool) (call : Tunnel.SendCall) : Prop where
  untold : (console.sent env writes call).relayed.datagrams = []
  enqueued :
    (console.sent env writes call).relayed.ok = true →
      ∀ fd,
        console.plane.service.boundFor call.dst call.dport fd = true →
          (machine.next console
            (.send env order writes call)).plane.inboxes fd =
            (console.plane.inboxes fd).incomingData
              (.inet call.dst call.sport) call.data
  stored :
    (console.sent env writes call).relayed.ok = true →
      (∀ fd,
        console.plane.service.boundFor call.dst call.dport fd = false) →
        (machine.next console (.send env order writes call)).plane.pending =
            console.plane.pending.push call.returned.pending ∧
          call.returned.pending.data = call.data

/--
The filter lets the datagram pass, every socket bound for the destination is
among the eight that are served, and without such a socket nobody else takes
the datagram and it is short enough to wait.
-/
structure Returns (console : Console) (env : Env) (order : WalkOrder)
    (call : Tunnel.SendCall) : Prop where
  passes :
    (isLanModePort call.dport ||
      (console.ldn.control.isKnownSessionPeerPublic env call.dst).1) = true
  served :
    ∀ fd, console.plane.service.boundFor call.dst call.dport fd = true →
      fd ∈ console.plane.service.findAllSocketsByDestination order call.dst
        call.dport .udp
  waits :
    (∀ fd,
      console.plane.service.boundFor call.dst call.dport fd = false) →
      (∀ fd,
        console.plane.service.acceptsAt call.dst call.dport .udp fd =
          false) ∧
        call.data.length ≤ 1400

section Loopback

variable (console : Console) {env : Env} (order : WalkOrder)
  (writes : Nat → Bool) {call : Tunnel.SendCall}

/-- A loopback send on an open client comes back. -/
theorem sent_loopback (loopback : isLoopback call.dst = true)
    (short : call.data.length ≤ 2000) (running : env.running = true)
    (opened : env.clientOpen = true) :
    console.sent env writes call =
      ⟨console.sender, ⟨[], true⟩,
        some
          (.routeIncomingData call.dst call.sport call.dst call.dport .udp
            call.data)⟩ := by
  unfold sent Sender.send
  rw [if_neg (not_lt.mpr short), running, opened, loopback]
  rfl

/-- Without a client the send fails and does nothing. -/
theorem sent_closed (short : call.data.length ≤ 2000)
    (running : env.running = true) (closed : env.clientOpen = false) :
    console.sent env writes call = ⟨console.sender, ⟨[], false⟩, none⟩ := by
  unfold sent Sender.send
  rw [if_neg (not_lt.mpr short), running, closed]
  rfl

/-- What a loopback send does to the sockets. -/
theorem next_loopback (loopback : isLoopback call.dst = true)
    (short : call.data.length ≤ 2000) (running : env.running = true)
    (opened : env.clientOpen = true) :
    (machine.next console (.send env order writes call)).plane =
      (console.plane.routeIncomingData
        (console.ldn.control.isKnownSessionPeerPublic env call.dst).1 order
        call.returned).1 := by
  show
    Plane.machine.run console.plane
      (console.upcallTraffic env order
        (console.sent env writes call).delivered) = _
  rw [sent_loopback console writes loopback short running opened]
  rfl

/-- The receive rings after a loopback send that passes the filter. -/
theorem next_loopback_inboxes (loopback : isLoopback call.dst = true)
    (short : call.data.length ≤ 2000) (running : env.running = true)
    (opened : env.clientOpen = true)
    (passes :
      (isLanModePort call.dport ||
        (console.ldn.control.isKnownSessionPeerPublic env call.dst).1) =
          true)
    (fd : Int) :
    (machine.next console (.send env order writes call)).plane.inboxes fd =
      if fd ∈ console.plane.service.findAllSocketsByDestination order
          call.dst call.dport .udp then
        (console.plane.inboxes fd).incomingData (.inet call.dst call.sport)
          call.data
      else console.plane.inboxes fd := by
  rw [next_loopback console order writes loopback short running opened]
  exact Plane.routeIncomingData_inboxes _ order passes fd

/-- The pending ring after a loopback send that passes the filter. -/
theorem next_loopback_pending (loopback : isLoopback call.dst = true)
    (short : call.data.length ≤ 2000) (running : env.running = true)
    (opened : env.clientOpen = true)
    (passes :
      (isLanModePort call.dport ||
        (console.ldn.control.isKnownSessionPeerPublic env call.dst).1) =
          true) :
    (machine.next console (.send env order writes call)).plane.pending =
      if console.plane.service.findAllSocketsByDestination order call.dst
          call.dport .udp = [] then
        console.plane.pending.push call.returned.pending
      else console.plane.pending := by
  rw [next_loopback console order writes loopback short running opened]
  exact Plane.routeIncomingData_pending _ order passes

end Loopback

/-- What waits is the whole payload when it is short. -/
theorem pending_whole_iff (call : Tunnel.SendCall) :
    call.returned.pending.data = call.data ↔ call.data.length ≤ 1400 := by
  show call.data.take 1400 = call.data ↔ _
  exact List.take_eq_self_iff _

section Open

variable {console : Console} {env : Env} {order : WalkOrder}
  {writes : Nat → Bool} {call : Tunnel.SendCall}

/-- A datagram that the filter drops does not come back. -/
theorem LoopsBack.passes (loops : console.LoopsBack env order writes call)
    (loopback : isLoopback call.dst = true)
    (short : call.data.length ≤ 2000) (running : env.running = true)
    (opened : env.clientOpen = true) :
    (isLanModePort call.dport ||
      (console.ldn.control.isKnownSessionPeerPublic env call.dst).1) =
        true := by
  have sent := sent_loopback console writes loopback short running opened
  have after :=
    next_loopback console order writes loopback short running opened
  have ok : (console.sent env writes call).relayed.ok = true := by
    rw [sent]
  by_contra stops
  rw [Bool.not_eq_true] at stops
  rw [Plane.routeIncomingData_dropped _ _ stops] at after
  have unbound :
      ∀ fd,
        console.plane.service.boundFor call.dst call.dport fd = false := by
    intro fd
    rw [← Bool.not_eq_true]
    intro bound
    have enqueued := loops.enqueued ok fd bound
    rw [after] at enqueued
    exact Inbox.incomingData_ne _ _ _ enqueued.symm
  have stored := (loops.stored ok unbound).1
  rw [after] at stored
  exact Ring.push_ne _ _ (by decide) stored.symm

/-- A datagram that comes back is served to the sockets bound for it. -/
theorem LoopsBack.returns (loops : console.LoopsBack env order writes call)
    (loopback : isLoopback call.dst = true)
    (short : call.data.length ≤ 2000) (running : env.running = true)
    (opened : env.clientOpen = true) : console.Returns env order call := by
  have passes := loops.passes loopback short running opened
  have ok : (console.sent env writes call).relayed.ok = true := by
    rw [sent_loopback console writes loopback short running opened]
  refine ⟨passes, ?_, ?_⟩
  · intro fd bound
    by_contra skipped
    have enqueued := loops.enqueued ok fd bound
    rw [next_loopback_inboxes console order writes loopback short running
      opened passes, if_neg skipped] at enqueued
    exact Inbox.incomingData_ne _ _ _ enqueued.symm
  · intro unbound
    rcases loops.stored ok unbound with ⟨pushed, whole⟩
    refine ⟨?_, (pending_whole_iff call).mp whole⟩
    apply (Service.served_eq_nil_iff order).mp
    by_contra taken
    rw [next_loopback_pending console order writes loopback short running
      opened passes, if_neg taken] at pushed
    exact Ring.push_ne _ _ (by decide) pushed.symm

/-- A datagram that passes and is served or waits comes back. -/
theorem Returns.loopsBack (returns : console.Returns env order call)
    (writes : Nat → Bool) (loopback : isLoopback call.dst = true)
    (short : call.data.length ≤ 2000) (running : env.running = true)
    (opened : env.clientOpen = true) :
    console.LoopsBack env order writes call := by
  refine ⟨?_, ?_, ?_⟩
  · rw [sent_loopback console writes loopback short running opened]
  · intro _ fd bound
    rw [next_loopback_inboxes console order writes loopback short running
      opened returns.passes]
    exact if_pos (returns.served fd bound)
  · intro _ unbound
    rcases returns.waits unbound with ⟨alone, fits⟩
    refine ⟨?_, (pending_whole_iff call).mpr fits⟩
    rw [next_loopback_pending console order writes loopback short running
      opened returns.passes]
    exact if_pos ((Service.served_eq_nil_iff order).mpr alone)

end Open

/--
A loopback send is delivered locally, whatever the state of the console,
exactly when the client is closed and the send fails, or the datagram passes
the filter, the sockets bound for it are served, and without such a socket it
waits as a whole.
-/
theorem loopsBack_iff (console : Console) {env : Env} (order : WalkOrder)
    (writes : Nat → Bool) {call : Tunnel.SendCall}
    (loopback : isLoopback call.dst = true)
    (short : call.data.length ≤ 2000) (running : env.running = true) :
    console.LoopsBack env order writes call ↔
      (env.clientOpen = true → console.Returns env order call) := by
  cases opened : env.clientOpen with
  | false =>
      have closed := sent_closed console writes short running opened
      refine iff_of_true ⟨?_, ?_, ?_⟩ (fun open_ => nomatch open_)
      · rw [closed]
      · rw [closed]
        exact fun sent => nomatch sent
      · rw [closed]
        exact fun sent => nomatch sent
  | true =>
      constructor
      · intro loops _
        exact loops.returns loopback short running opened
      · intro returns
        exact (returns rfl).loopsBack writes loopback short running opened

/-! ### A game that talks to itself -/

/-- A game sends a byte to its own port. -/
def toItself : Tunnel.SendCall where
  src := 0x0A0D2502
  sport := 5000
  dst := 0x7F000001
  dport := 5000
  data := [1]

/-- Outside of a session the byte waits for its socket. -/
theorem toItself_loopsBack :
    (initial 1400 0x0A0D2502).LoopsBack (Env.at 0) registryOrder
      (fun _ => true) toItself := by
  apply
    (loopsBack_iff (initial 1400 0x0A0D2502) registryOrder (fun _ => true)
      _ _ _).mpr
  · intro _
    refine ⟨rfl, fun _ bound => (nomatch bound), fun _ => ⟨?_, ?_⟩⟩
    · exact fun _ => rfl
    · decide
  · decide
  · decide
  · rfl

/-- A console whose game opened a room. -/
def hostingConsole : Console :=
  machine.run (initial 1400 0x0A0D2502) opensRoom

/-- In a room the send succeeds, and the byte is nowhere. -/
theorem toItself_lost :
    ¬ hostingConsole.LoopsBack (Env.at 0) registryOrder (fun _ => true)
      toItself := by
  intro loops
  have lost :
      (machine.next hostingConsole
        (.send (Env.at 0) registryOrder (fun _ => true) toItself)).plane =
          hostingConsole.plane := by
    rw [next_loopback hostingConsole registryOrder _ (by decide)
      (by decide) rfl rfl]
    exact
      congrArg Prod.fst
        (Plane.routeIncomingData_dropped _ _
          (show
            (isLanModePort 5000 ||
              (hostingConsole.ldn.control.isKnownSessionPeerPublic
                (Env.at 0) 0x7F000001).1) = false by decide))
  have stored := (loops.stored rfl fun _ => rfl).1
  rw [lost] at stored
  exact Ring.push_ne _ _ (by decide) stored.symm

end Console

end SlpClient
