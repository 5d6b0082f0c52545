import SlpClient.Bsd.LateDelivery
import SlpClient.Console.Traffic
import SlpClient.Ldn.Bounds
import SlpClient.Ldn.HostTable

/-!
# Game data of session members

While a console is in a session, `RouteIncomingData` lets only datagrams of
the members through to the sockets.  `DeliverPendingPackets` does not look at
the session: what waits for a port was let through when it arrived, which may
have been before the session began.
-/

namespace SlpClient

open SlpClient.Lib
open SlpClient.Bsd
open SlpClient.Ldn
open SlpClient.Net
open SlpClient.Tunnel

namespace Console

/-! ## Members -/

/-- The console hosts a session or is connected to one. -/
def InSession (control : LdnControl) : Prop :=
  control.state = .accessPointCreated ∨ control.state = .stationConnected

/-- The own address, or that of a connected node of the session. -/
def SessionMember (control : LdnControl) (ip : UInt32) : Prop :=
  ip = control.ipv4Address ∨
    ∃ node, (control.networkInfo.ldn.nodes node).connectedAs ip = true

/-- A payload for a port outside of LAN mode, in a session, is a member's. -/
def FromMember (control : LdnControl) (placement : Placement) : Prop :=
  isLanModePort placement.destPort = false →
    InSession control → SessionMember control placement.sourceIp

/-- Everything that a step places in a receive ring comes from a member. -/
def PlacesMembers (console : Console) (input : ConsoleInput) : Prop :=
  ∀ output ∈ (machine.output console input).traffic,
    ∀ placement ∈ output.placed,
      FromMember console.ldn.control placement

/-- A search that succeeds has found an entry. -/
theorem searchNodes_found {env : Env} {info : NetworkInfo}
    {wanted : NodeInfo → Bool} {first count : Nat}
    (found : (searchNodes env info wanted first count).1 = true) :
    ∃ index, index < first + count ∧
      wanted (nodeAt env info index) = true := by
  induction count generalizing first with
  | zero => nomatch found
  | succ count induction =>
      unfold searchNodes at found
      split at found
      · rename_i here
        exact ⟨first, by omega, here⟩
      · rcases induction found with ⟨index, inside, later⟩
        exact ⟨index, by omega, later⟩

/-- Whoever the session filter knows is a member, if it stays in the table. -/
theorem sessionMember_of_known {control : LdnControl} {env : Env}
    {ip : UInt32} (session : InSession control)
    (inside : control.QueryInside ip)
    (known : (control.isKnownSessionPeerPublic env ip).1 = true) :
    SessionMember control ip := by
  replace known : (control.isKnownSessionPeer env ip).1 = true := known
  unfold LdnControl.isKnownSessionPeer at known
  unfold InSession at session
  rw [if_neg (by tauto)] at known
  by_cases own : ip = control.ipv4Address
  · exact .inl own
  · rw [if_neg own] at known
    rcases inside (by tauto) own with fits | listed
    · rcases searchNodes_found known with ⟨index, counted, found⟩
      have bounded : index < 8 := by
        unfold nodeCountMax at fits
        omega
      rw [nodeAt, dif_pos bounded] at found
      exact .inr ⟨_, found⟩
    · exact .inr listed

end Console

/-! ## What is placed -/

namespace Bsd.Plane

/-- A routed datagram is placed if the filter lets it through. -/
theorem mem_placed_route {plane : Plane} {known : Bool}
    {order : WalkOrder} {incoming : Incoming} {placement : Placement}
    (placed :
      placement ∈ (plane.routeIncomingData known order incoming).2) :
    (isLanModePort incoming.destPort = true ∨ known = true) ∧
      placement.sourceIp = incoming.sourceIp ∧
      placement.destPort = incoming.destPort := by
  unfold routeIncomingData at placed
  split at placed
  · nomatch placed
  · rename_i passes
    dsimp only at placed
    split at placed
    · nomatch placed
    · rcases List.mem_map.mp placed with ⟨fd, -, rfl⟩
      refine ⟨?_, rfl, rfl⟩
      cases lan : isLanModePort incoming.destPort with
      | true => exact .inl rfl
      | false =>
          rw [lan] at passes
          exact .inr (by simpa using passes)

/-- A command places waiting packets, for the port that it binds. -/
theorem mem_placed_execute {plane : Plane} {command : Service.Command}
    {placement : Placement}
    (placed : placement ∈ (plane.execute command).2.placed) :
    ∃ fd port protocol packet,
      plane.service.delivers command = some (fd, port, protocol) ∧
        packet ∈ plane.pending.toList ∧
        packet.isFor port protocol = true ∧
        placement = packet.placedAt fd := by
  have handed :
      (plane.execute command).2.placed =
        (plane.handed (.request (.command command))).map fun handed =>
          handed.2.placedAt handed.1 :=
    placed_eq_handed plane (.command command)
  rw [handed, List.mem_map] at placed
  rcases placed with ⟨⟨fd, packet⟩, member, rfl⟩
  rcases mem_handed_command_iff.mp member with
    ⟨port, protocol, bound, waits, wanted⟩
  exact ⟨fd, port, protocol, packet, bound, waits, wanted, rfl⟩

end Bsd.Plane

/-! ## Runs -/

namespace Console

/--
The session filter stays in the node table for every datagram of the step that
it looks at, and whatever waits for a port that the step binds in a session
comes from a member, unless the port is one of LAN mode.
-/
structure Screened (console : Console) (input : ConsoleInput) :
    Prop where
  arriving :
    ∀ known order incoming,
      PlaneInput.route known order incoming ∈ console.traffic input →
        isLanModePort incoming.destPort = false →
          console.ldn.control.QueryInside incoming.sourceIp
  waiting :
    InSession console.ldn.control →
      ∀ command fd port protocol,
        input = .request (.command command) →
          console.plane.service.delivers command =
              some (fd, port, protocol) →
            isLanModePort port = false →
              ∀ packet ∈ console.plane.pending.toList,
                packet.isFor port protocol = true →
                  SessionMember console.ldn.control packet.sourceIp

/-- What an upcall of the tunnel places comes from a member. -/
theorem fromMember_of_upcall {console : Console} {env : Env}
    {order : WalkOrder} {upcall : Option Upcall}
    (inside :
      ∀ known incoming,
        PlaneInput.route known order incoming ∈
            console.upcallTraffic env order upcall →
          isLanModePort incoming.destPort = false →
            console.ldn.control.QueryInside incoming.sourceIp)
    {output : PlaneOutput}
    (made :
      output ∈
        Plane.machine.outputs console.plane
          (console.upcallTraffic env order upcall))
    {placement : Placement} (placed : placement ∈ output.placed) :
    FromMember console.ldn.control placement := by
  cases upcall with
  | none => nomatch made
  | some upcall =>
      cases upcall with
      | onControlFrame src frame => nomatch made
      | routeIncomingData src sport dst dport protocol data =>
          have looksInside := inside _ _ (List.mem_singleton.mpr rfl)
          rw [List.mem_singleton.mp made] at placed
          rcases Plane.mem_placed_route placed with
            ⟨passes, source, port⟩
          intro game session
          rw [source]
          rw [port] at game
          rcases passes with lan | known
          · rw [lan] at game
            nomatch game
          · exact sessionMember_of_known session (looksInside game) known

/-- What a request places comes from a member. -/
theorem fromMember_of_request {console : Console} {request : Request}
    (screened : console.Screened (.request request))
    {placement : Placement}
    (placed :
      placement ∈
        (Plane.machine.output console.plane (.request request)).placed) :
    FromMember console.ldn.control placement := by
  cases request with
  | command command =>
      rcases Plane.mem_placed_execute placed with
        ⟨fd, port, protocol, packet, bound, waits, wanted, rfl⟩
      intro game session
      have same : packet.destPort = port := by
        unfold PendingPacket.isFor at wanted
        rw [Bool.and_eq_true, beq_iff_eq, beq_iff_eq] at wanted
        exact wanted.2
      exact
        screened.waiting session command fd port protocol rfl bound
          (same ▸ game) packet waits wanted
  | recvFrom fd flags capacity => nomatch placed
  | recv fd flags capacity => nomatch placed

/-- A screened step places data of members only. -/
theorem Screened.placesMembers {console : Console} {input : ConsoleInput}
    (screened : console.Screened input) :
    console.PlacesMembers input := by
  intro output made placement placed
  cases input with
  | relay env order arrival =>
      exact
        fromMember_of_upcall
          (fun known incoming => screened.arriving known order incoming)
          made placed
  | send env order writes call =>
      exact
        fromMember_of_upcall
          (fun known incoming => screened.arriving known order incoming)
          made placed
  | ldn env event => nomatch made
  | request request =>
      rw [List.mem_singleton.mp made] at placed
      exact fromMember_of_request screened placed

/--
In every run whose steps are screened, every payload that is placed in a
receive ring for a port outside of LAN mode while in a session comes from the
own address or from a connected node of the session at that moment.
-/
theorem placesMembers_of_screened (mtu localIp : UInt32)
    (inputs : List ConsoleInput)
    (screened :
      machine.EachStep Screened (initial mtu localIp) inputs) :
    machine.EachStep PlacesMembers (initial mtu localIp) inputs :=
  screened.mono fun _ _ step => step.placesMembers

/-! ### A datagram from before the session -/

/-- A game opens a room. -/
def opensRoom : List ConsoleInput :=
  [.ldn (Env.at 0) (.command .initializeLdn),
    .ldn (Env.at 0) (.command .openAccessPoint),
    .ldn (Env.at 0) (.command (.createNetwork System.sampleConfig))]

/-- A game gets a socket. -/
def opensSocket : ConsoleInput :=
  .request (.command (.socket 0 2 17 ⟨true, 5, 0⟩))

/-- The game binds it to a port of its own. -/
def bindsSocket : ConsoleInput :=
  .request
    (.command
      (.bind 5 [16, 2, 0x30, 0x39, 10, 13, 37, 2, 0, 0, 0, 0, 0, 0, 0, 0]))

/-- A datagram of some console to that port. -/
def stray (src : UInt32) : Tunnel.SendCall where
  src := src
  sport := 12345
  dst := 0x0A0D2502
  dport := 12345
  data := [1]

theorem traffic_stray (console : Console) (src : UInt32) :
    console.traffic (relayed (stray src)) =
        [.route
          (console.ldn.control.isKnownSessionPeerPublic (Env.at 0) src).1
          registryOrder (relayedIncoming (stray src))] ∧
      console.events (relayed (stray src)) = [] :=
  console.traffic_relayed (show 1 ≤ 2000 by decide)
    (show (12345 : UInt16) ≠ controlPort by decide)

/-- A datagram of a stranger arrives before the room is opened. -/
def strayBeforeRoom : List ConsoleInput :=
  relayed (stray 0x0A0D0009) :: opensRoom ++ [opensSocket]

theorem strayBeforeRoom_ldn :
    (machine.run (initial 1400 0x0A0D2502) strayBeforeRoom).ldn =
      System.hostingSystem := by
  rw [run_ldn]
  simp only [strayBeforeRoom, opensRoom, List.cons_append,
    List.nil_append, Machine.fed, traffic_stray]
  rfl

/-- The room's game is given the datagram when it binds the port. -/
theorem strayBeforeRoom_places :
    (machine.output
        (machine.run (initial 1400 0x0A0D2502) strayBeforeRoom)
        bindsSocket).traffic.map PlaneOutput.placed =
      [[⟨5, 0x0A0D0009, 12345, 12345, [1]⟩]] := by
  show
    [(Plane.machine.output
      (machine.run (initial 1400 0x0A0D2502) strayBeforeRoom).plane
      (.request _)).placed] = _
  rw [run_plane]
  simp only [strayBeforeRoom, opensRoom, opensSocket, List.cons_append,
    List.nil_append, Machine.fed, traffic_stray]
  rfl

/-- The room has nobody but its host. -/
theorem hostingSystem_members :
    ¬ SessionMember System.hostingSystem.control 0x0A0D0009 := by
  rintro (own | ⟨node, listed⟩)
  · exact absurd own (by decide)
  · revert node
    decide

/-- In a session, a stranger's datagram reaches the game. -/
theorem strayBeforeRoom_not_placesMembers :
    ¬ machine.EachStep PlacesMembers (initial 1400 0x0A0D2502)
      (strayBeforeRoom ++ [bindsSocket]) := by
  intro places
  rw [Machine.eachStep_append] at places
  have binding := places.2.1
  have placed := strayBeforeRoom_places
  rcases List.map_eq_singleton_iff.mp placed with ⟨output, made, given⟩
  have member :=
    binding output (by rw [made]; exact List.mem_singleton.mpr rfl) _
      (by rw [given]; exact List.mem_singleton.mpr rfl)
      (show isLanModePort 12345 = false by decide)
  rw [strayBeforeRoom_ldn] at member
  exact
    hostingSystem_members (member (.inl System.hostingSystem_state))

/-! ### A datagram in a session -/

theorem screened_ldn (console : Console) (env : Env) (event : Event) :
    console.Screened (.ldn env event) :=
  ⟨fun _ _ _ none => (nomatch none),
    fun _ _ _ _ _ other => nomatch other⟩

theorem screened_relayed {console : Console} {src : UInt32}
    (inside : console.ldn.control.QueryInside src) :
    console.Screened (relayed (stray src)) := by
  refine ⟨?_, fun _ _ _ _ _ other => nomatch other⟩
  intro known order incoming routed _
  rw [(console.traffic_stray src).1, List.mem_singleton] at routed
  cases routed
  exact inside

/-- A game opens a room and a socket, and hears from its own address. -/
def roomGame : List ConsoleInput :=
  opensRoom ++
    [opensSocket, bindsSocket, relayed (stray 0x0A0D2502)]

theorem roomGame_screened :
    machine.EachStep Screened (initial 1400 0x0A0D2502) roomGame := by
  rw [roomGame, Machine.eachStep_append]
  constructor
  · exact
      ⟨screened_ldn _ _ _, screened_ldn _ _ _, screened_ldn _ _ _,
        trivial⟩
  refine ⟨?_, ?_, screened_relayed ?_, trivial⟩
  · refine ⟨fun _ _ _ routed => ?_, fun _ _ _ _ _ same bound => ?_⟩
    · nomatch List.mem_singleton.mp routed
    · cases same
      nomatch bound
  · refine ⟨fun _ _ _ routed => ?_, ?_⟩
    · nomatch List.mem_singleton.mp routed
    · intro _ _ _ _ _ _ _ _ packet waits
      nomatch waits
  · intro _ other
    exact absurd rfl other

theorem roomGame_placesMembers :
    machine.EachStep Screened (initial 1400 0x0A0D2502) roomGame ∧
      machine.EachStep PlacesMembers (initial 1400 0x0A0D2502) roomGame :=
  ⟨roomGame_screened,
    placesMembers_of_screened 1400 0x0A0D2502 roomGame roomGame_screened⟩

end Console

end SlpClient
