import SlpClient.Ldn.StationView

/-!
# Goodbyes

A console that leaves a session on purpose tells its peers, so that they need
not wait out the silence timeout: a host its stations, a station its host.
Two commands do so, `DestroyNetwork` and `Disconnect`, and the second only
for a join that `Connect` made.  Six other commands leave a session as well
and send nothing.
-/

namespace SlpClient.Ldn

open SlpClient.Lib

/-- Some frame sent to `dst` reads as a goodbye of the network. -/
def SendsBye (effects : List Effect) (dst : UInt32)
    (bssid : MacAddress) : Prop :=
  ∃ frame ∈ sentFrames effects,
    frame.dst = dst ∧
      ∃ bye, byeOf frame.bytes = some bye ∧ bye.bssid = bssid

/-- The commands that end whatever session the console is in. -/
def Command.leaves : Command → Bool
  | .openAccessPoint => true
  | .closeAccessPoint => true
  | .destroyNetwork => true
  | .openStation => true
  | .closeStation => true
  | .disconnect => true
  | .initializeLdn => true
  | .finalize => true
  | _ => false

/-- Events of the thread that serves the game. -/
def Event.OfGame (event : Event) : Prop :=
  event = .ipc ∨ ∃ command, event = .command command

namespace LdnControl

/-- The join that `Connect` made is the network the station is in. -/
structure KnowsHost (control : LdnControl) : Prop where
  active : control.joinActive = true
  nodes : control.networkInfo.ldn.nodeCount > 0
  target : control.joinTargetBssid = control.networkInfo.common.bssid

/-! ## The two commands that say goodbye -/

/-- A receiver reads the payload of a goodbye back. -/
theorem byeOf_relayPayload (control : LdnControl) (seq : UInt16)
    (bssid : MacAddress) :
    byeOf (frameBytes .relayBye seq (control.relayPayload bssid)) =
      some ⟨bssid, fun _ => 0, control.ipv4Address⟩ := by
  have length :
      (control.relayPayload bssid).length =
        RelayHeartbeatPayload.codec.size :=
    RelayHeartbeatPayload.codec.encode_length _
  have fits :
      (control.relayPayload bssid).length ≤ NetworkInfo.codec.size := by
    rw [length, relayHeartbeatPayload_size, networkInfo_size]
    decide
  rw [byeOf, openedFrame_frameBytes .relayBye seq _ fits]
  dsimp only
  rw [if_pos length, relayPayload, ByteCodec.decode_encode]

theorem sendsBye_sendFrame (control : LdnControl) {env : Env}
    (running : env.running = true) (dst : UInt32) (bssid : MacAddress) :
    SendsBye
      (control.sendFrame env dst .relayBye
        (control.relayPayload bssid)).effects dst bssid := by
  refine
    ⟨⟨dst, .relayBye, nextSeq control.txSeq,
      control.relayPayload bssid⟩, ?_, rfl, _,
      control.byeOf_relayPayload _ bssid, rfl⟩
  rw [sentFrames_sendFrame, if_pos running]
  exact List.mem_singleton_self _

/-- What a section sends, it still sends when it also answers. -/
theorem SendsBye.answer {step : Step} {reply : Reply} {dst : UInt32}
    {bssid : MacAddress} (sends : SendsBye step.effects dst bssid) :
    SendsBye (answer step reply).effects dst bssid := by
  rcases sends with ⟨frame, member, address, bye⟩
  refine ⟨frame, ?_, address, bye⟩
  simp [LdnControl.answer, locked, Step.followedBy, member]

theorem StationsSound.stationCount_pos {control : LdnControl}
    (sound : control.StationsSound) (present : control.activeSlots ≠ []) :
    control.stationCount > 0 := by
  have live : control.liveSlots stationSlots = control.activeSlots :=
    sound.liveSlots_eq
  rw [stationCount, ← liveSlots, live]
  exact List.length_pos_of_ne_nil present

/-- A host with stations tells them that the network is gone. -/
theorem sendsBye_destroyNetwork {control : LdnControl} {env : Env}
    (running : env.running = true) (sound : control.StationsSound)
    (present : control.activeSlots ≠ []) :
    SendsBye (control.destroyNetwork env).effects control.subnetBroadcast
      control.networkInfo.common.bssid := by
  unfold destroyNetwork
  rw [if_pos (sound.stationCount_pos present)]
  apply SendsBye.answer
  rw [Step.andThen_effects, List.append_nil]
  exact control.sendsBye_sendFrame running _ _

/-- A station that knows its host tells it. -/
theorem sendsBye_disconnect {control : LdnControl} {env : Env}
    (running : env.running = true) (knows : control.KnowsHost) :
    SendsBye (control.disconnect env).effects
      (control.networkInfo.ldn.nodes 0).ipv4Address
      control.networkInfo.common.bssid := by
  unfold disconnect
  rw [if_pos ⟨knows.active, knows.nodes⟩, knows.target]
  apply SendsBye.answer
  rw [Step.andThen_effects, List.append_nil]
  exact control.sendsBye_sendFrame running _ _

end LdnControl

namespace System

/-! ## Leaving a session -/

/-- Whoever leaves a session at this step tells its peers. -/
structure SaysGoodbye (system : System) (input : Env × Event) : Prop where
  host :
    system.control.state = .accessPointCreated →
      system.control.activeSlots ≠ [] →
      input.2.OfGame →
      (machine.next system input).control.state ≠ .accessPointCreated →
        SendsBye (machine.output system input)
          system.control.subnetBroadcast
          system.control.networkInfo.common.bssid
  station :
    system.control.state = .stationConnected →
      input.2.OfGame →
      (machine.next system input).control.state ≠ .stationConnected →
        SendsBye (machine.output system input)
          (system.control.networkInfo.ldn.nodes 0).ipv4Address
          system.control.networkInfo.common.bssid

/--
The game leaves a room with stations by `DestroyNetwork`, and a network it
knows the host of by `Disconnect`, while the relay runs.
-/
structure LeavesPolitely (system : System) (input : Env × Event) :
    Prop where
  host :
    system.phase = .idle →
      system.control.state = .accessPointCreated →
      system.control.activeSlots ≠ [] →
        ∀ command, input.2 = .command command → command.leaves = true →
          command = .destroyNetwork ∧ input.1.running = true
  station :
    system.phase = .idle →
      system.control.state = .stationConnected →
        ∀ command, input.2 = .command command → command.leaves = true →
          command = .disconnect ∧ input.1.running = true ∧
            system.control.KnowsHost

/-- Only the listed commands take the game out of a network. -/
theorem leaves_of_move {system : System} {env : Env} {event : Event}
    {target : LdnControl} (move : Move system env event target)
    (game : event.OfGame)
    (left : target.state ≠ system.control.state)
    (inside : system.control.state ≠ .accessPoint) :
    system.phase = .idle ∧
      ∃ command, event = .command command ∧ command.leaves = true := by
  cases move with
  | initializeLdn idle => exact ⟨idle, _, rfl, rfl⟩
  | finalize idle => exact ⟨idle, _, rfl, rfl⟩
  | openAccessPoint idle ready => exact ⟨idle, _, rfl, rfl⟩
  | openStation idle ready => exact ⟨idle, _, rfl, rfl⟩
  | closeAccessPoint idle ready => exact ⟨idle, _, rfl, rfl⟩
  | closeStation idle ready => exact ⟨idle, _, rfl, rfl⟩
  | createNetwork data idle opened => exact absurd opened inside
  | destroyNetwork idle => exact ⟨idle, _, rfl, rfl⟩
  | disconnect idle => exact ⟨idle, _, rfl, rfl⟩
  | applySync => rcases game with ipc | ⟨command, frame⟩ <;> contradiction
  | noteSync => rcases game with ipc | ⟨command, frame⟩ <;> contradiction
  | hostBye => rcases game with ipc | ⟨command, frame⟩ <;> contradiction
  | hostSilent => rcases game with ipc | ⟨command, frame⟩ <;> contradiction
  | _ => exact absurd rfl left

theorem leaves_of_state_ne {system : System} {input : Env × Event}
    (game : input.2.OfGame)
    (left :
      (machine.next system input).control.state ≠ system.control.state)
    (inside : system.control.state ≠ .accessPoint) :
    system.phase = .idle ∧
      ∃ command, input.2 = .command command ∧ command.leaves = true := by
  rcases system.next_move input with ⟨target, move, same⟩
  rw [LdnControl.state_eq_of_core same] at left
  exact leaves_of_move move game left inside

/-- A polite exit of a sound console is told. -/
theorem LeavesPolitely.saysGoodbye {system : System} {input : Env × Event}
    (polite : system.LeavesPolitely input)
    (holds : system.control.RoomInvariant) : system.SaysGoodbye input := by
  rcases input with ⟨env, event⟩
  constructor
  · intro hosting present game left
    rw [← hosting] at left
    rcases leaves_of_state_ne game left (by rw [hosting]; nofun) with
      ⟨idle, command, rfl, leaves⟩
    rcases polite.host idle hosting present command rfl leaves with
      ⟨rfl, running⟩
    unfold Machine.output
    rw [next_command env .destroyNetwork idle]
    exact
      LdnControl.sendsBye_destroyNetwork running holds.sound present
  · intro connected game left
    rw [← connected] at left
    rcases leaves_of_state_ne game left (by rw [connected]; nofun) with
      ⟨idle, command, rfl, leaves⟩
    rcases polite.station idle connected command rfl leaves with
      ⟨rfl, running, knows⟩
    unfold Machine.output
    rw [next_command env .disconnect idle]
    exact LdnControl.sendsBye_disconnect running knows

/--
In a run whose exits are polite, every exit is told: no command takes the
console out of a room with stations without a goodbye to the subnet, or out
of a joined network without a goodbye to its host.
-/
theorem saysGoodbye_of_leavesPolitely
    (mtu : UInt32) (inputs : List (Env × Event))
    (polite : machine.EachStep LeavesPolitely (initial mtu) inputs) :
    machine.EachStep SaysGoodbye (initial mtu) inputs := by
  let invariant : System → Prop :=
    fun system => system.control.RoomInvariant
  have keeps :
      ∀ system input, invariant system → system.LeavesPolitely input →
        invariant (machine.next system input) :=
    fun _ input holds _ => roomInvariant_next input holds
  have gives :
      ∀ system input, invariant system → system.LeavesPolitely input →
        system.SaysGoodbye input :=
    fun _ _ holds polite => polite.saysGoodbye holds
  exact
    Machine.eachStep_of_invariant keeps gives (roomInvariant_initial mtu)
      polite

/-! ### A room with a station -/

/-- A console at `10.13.0.3` that looks for rooms and joins. -/
def visit : List (Env × Event) :=
  [(Env.at 0, .frame 0x0A0D0003 (frameBytes .scan 1 [])),
    (Env.at 0,
      .frame 0x0A0D0003
        (frameBytes .connect 2 (NodeInfo.codec.encode .zero)))]

/-- A host opens a room, and a station joins it. -/
def visited : List (Env × Event) :=
  [(Env.at 0, .command .initializeLdn),
    (Env.at 0, .command .openAccessPoint),
    (Env.at 0, .command (.createNetwork sampleConfig))] ++ visit

def visitedSystem : System :=
  machine.run hostingSystem visit

theorem run_visited :
    machine.run (initial 1400) visited = visitedSystem := by
  rw [visited, Machine.run_append, visitedSystem, hostingSystem]

/-- The handler of a scan notes who asked. -/
theorem control_of_scan {control : LdnControl} (env : Env)
    (srcIp : UInt32) (seq : UInt16)
    (hosting : control.state = .accessPointCreated) :
    (control.onControlFrame env srcIp (frameBytes .scan seq [])).control =
      ((control.recordScanner env.now srcIp).sendFrame env srcIp .scanResp
        (NetworkInfo.codec.encode
          (control.recordScanner env.now srcIp).buildNetwork.1)).control := by
  rw [LdnControl.onControlFrame_frameBytes control env srcIp .scan seq []
    (Nat.zero_le _)]
  have asked : control.handleFrame env srcIp .scan [] seq =
      control.handleScan env srcIp := rfl
  rw [asked, LdnControl.handleScan, if_neg (not_not.mpr hosting)]
  rfl

/-- The handler of a Connect frame of a recent scanner takes it in. -/
theorem onControlFrame_connect {control : LdnControl} (env : Env)
    (srcIp : UInt32) (seq : UInt16) (node : NodeInfo) {slot : Fin 8}
    (hosting : control.state = .accessPointCreated)
    (recent : control.wasRecentScanner env.now srcIp = true)
    (found : control.connectSlot srcIp = some slot) :
    ∃ accesses,
      control.onControlFrame env srcIp
          (frameBytes .connect seq (NodeInfo.codec.encode node)) =
        locked
          (Step.after accesses
            ((control.withStation slot
              (LdnControl.connectedStation env srcIp node
                slot)).updateNodes env)) := by
  have length := NodeInfo.codec.encode_length node
  have fits :
      (NodeInfo.codec.encode node).length ≤ NetworkInfo.codec.size := by
    rw [length, nodeInfo_size, networkInfo_size]
    decide
  have asked :
      control.handleFrame env srcIp .connect (NodeInfo.codec.encode node)
          seq =
        control.handleConnect env srcIp (NodeInfo.codec.encode node) :=
    rfl
  rw [LdnControl.onControlFrame_frameBytes control env srcIp .connect seq
    _ fits, asked, LdnControl.handleConnect,
    if_neg (not_not.mpr hosting), if_neg (not_not.mpr length),
    if_neg (by simp [recent])]
  dsimp only
  rw [found, ByteCodec.decode_encode]
  dsimp only
  rw [Step.after_after]
  exact ⟨_, rfl⟩

/-- The host after the scan. -/
def scannedControl : LdnControl :=
  (machine.next hostingSystem
    (Env.at 0, .frame 0x0A0D0003 (frameBytes .scan 1 []))).control

theorem scannedControl_eq :
    scannedControl =
      { hostingSystem.control.recordScanner 0 0x0A0D0003 with
        txSeq := nextSeq hostingSystem.control.txSeq } := by
  rw [scannedControl, next_frame]
  dsimp only
  rw [control_of_scan (Env.at 0) 0x0A0D0003 1 hostingSystem_state,
    LdnControl.sendFrame_control]
  rfl

theorem visitedSystem_control :
    visitedSystem.control =
      ((scannedControl.withStation 0
        (LdnControl.connectedStation (Env.at 0) 0x0A0D0003 .zero
          0)).updateNodes (Env.at 0)).control := by
  have hosting : scannedControl.state = .accessPointCreated := by
    rw [scannedControl_eq]
    rfl
  have recent :
      scannedControl.wasRecentScanner (Env.at 0).now 0x0A0D0003 =
        true := by
    rw [scannedControl_eq]
    rfl
  have found : scannedControl.connectSlot 0x0A0D0003 = some 0 := by
    rw [scannedControl_eq]
    rfl
  rcases onControlFrame_connect (Env.at 0) 0x0A0D0003 2 .zero hosting
    recent found with ⟨accesses, connected⟩
  have control := congrArg Step.control connected
  exact control

theorem visitedSystem_state :
    visitedSystem.control.state = .accessPointCreated := by
  rw [visitedSystem_control, LdnControl.updateNodes_control,
    scannedControl_eq]
  rfl

theorem visitedSystem_activeSlots :
    visitedSystem.control.activeSlots = [0] := by
  rw [visitedSystem_control, LdnControl.updateNodes_control,
    scannedControl_eq]
  rfl

/-- The station in the first slot is advertised, and it is the only one with
its address. -/
theorem visitedSystem_advertises :
    visitedSystem.control.activeSlots = [0] ∧
      visitedSystem.control.StationsSound ∧
        visitedSystem.control.AdvertisesStations ∧
          (visitedSystem.control.activeSlots.filter fun other =>
            (visitedSystem.control.stations other).srcIp ==
              (visitedSystem.control.stations 0).srcIp) = [0] := by
  have sound :=
    hosting_stationsSound_advertises ⟨visited, run_visited⟩
      visitedSystem_state
  have first : 0 ∈ visitedSystem.control.activeSlots := by
    rw [visitedSystem_activeSlots]
    exact List.mem_singleton_self 0
  exact
    ⟨visitedSystem_activeSlots, sound.1, sound.2.1,
      sound.2.2.2.2 0 first⟩

theorem visitedSystem_phase : visitedSystem.phase = .idle :=
  rfl

/-- The host closes its room. -/
def farewell : Env × Event :=
  (Env.at 0, .command .destroyNetwork)

theorem visited_polite :
    machine.EachStep LeavesPolitely (initial 1400)
      (visited ++ [farewell]) := by
  rw [Machine.eachStep_append, run_visited]
  constructor
  · refine ⟨?_, ?_, ?_, ?_, ?_, trivial⟩
    · exact ⟨fun _ hosting => absurd hosting nofun,
        fun _ connected => absurd connected nofun⟩
    · exact ⟨fun _ hosting => absurd hosting nofun,
        fun _ connected => absurd connected nofun⟩
    · exact ⟨fun _ hosting => absurd hosting nofun,
        fun _ connected => absurd connected nofun⟩
    · exact ⟨nofun, nofun⟩
    · exact ⟨nofun, nofun⟩
  · refine ⟨⟨?_, ?_⟩, trivial⟩
    · rintro - - - command same -
      rw [farewell, Event.command.injEq] at same
      exact ⟨same.symm, rfl⟩
    · intro _ connected
      rw [visitedSystem_state] at connected
      exact absurd connected nofun

theorem visited_told :
    SendsBye (machine.output visitedSystem farewell)
      visitedSystem.control.subnetBroadcast
      visitedSystem.control.networkInfo.common.bssid := by
  have told :=
    saysGoodbye_of_leavesPolitely 1400 (visited ++ [farewell])
      visited_polite
  rw [Machine.eachStep_append, run_visited] at told
  have present : visitedSystem.control.activeSlots ≠ [] := by
    rw [visitedSystem_activeSlots]
    nofun
  have game : farewell.2.OfGame := .inr ⟨_, rfl⟩
  have left :
      (machine.next visitedSystem farewell).control.state ≠
        .accessPointCreated := by
    have opened :=
      congrArg JoinView.state
        (visitedSystem.control.joinView_destroyNetwork (Env.at 0))
    unfold Machine.next
    rw [farewell, next_command (Env.at 0) .destroyNetwork
      visitedSystem_phase]
    exact opened.trans_ne nofun
  exact told.2.1.host visitedSystem_state present game left

/-- Closing a role sends no goodbye, and leaves every session. -/
theorem closeRole_silent {control : LdnControl} (env : Env)
    (ready : control.state ≠ .none) (dst : UInt32) (bssid : MacAddress) :
    (control.closeRole env).control.state = .initialized ∧
      ¬ SendsBye (control.closeRole env).effects dst bssid := by
  unfold LdnControl.closeRole
  rw [if_neg ready]
  constructor
  · exact congrArg JoinView.state (LdnControl.joinView_setState ..)
  · rintro ⟨frame, member, -⟩
    exact List.not_mem_nil member

theorem closeAccessPoint_untold {system : System} (env : Env)
    (idle : system.phase = .idle)
    (hosting : system.control.state = .accessPointCreated)
    (present : system.control.activeSlots ≠ []) :
    ¬ system.SaysGoodbye (env, .command .closeAccessPoint) := by
  intro told
  have goodbye := told.host hosting present (.inr ⟨_, rfl⟩)
  unfold Machine.next Machine.output at goodbye
  rw [next_command env .closeAccessPoint idle] at goodbye
  have ready : system.control.state ≠ .none := by
    rw [hosting]
    nofun
  have closed :=
    closeRole_silent env ready system.control.subnetBroadcast
      system.control.networkInfo.common.bssid
  exact closed.2 (goodbye (closed.1.trans_ne nofun))

theorem closeStation_untold {system : System} (env : Env)
    (idle : system.phase = .idle)
    (connected : system.control.state = .stationConnected) :
    ¬ system.SaysGoodbye (env, .command .closeStation) := by
  intro told
  have goodbye := told.station connected (.inr ⟨_, rfl⟩)
  unfold Machine.next Machine.output at goodbye
  rw [next_command env .closeStation idle] at goodbye
  have ready : system.control.state ≠ .none := by
    rw [connected]
    nofun
  have closed :=
    closeRole_silent env ready
      (system.control.networkInfo.ldn.nodes 0).ipv4Address
      system.control.networkInfo.common.bssid
  exact closed.2 (goodbye (closed.1.trans_ne nofun))

/--
A host that closes its role instead leaves its station without a word, and so
does a connected station its host.
-/
theorem closing_tells_nothing :
    ¬ machine.EachStep SaysGoodbye (initial 1400)
        (visited ++ [(Env.at 0, .command .closeAccessPoint)]) ∧
      ¬ machine.EachStep SaysGoodbye (initial 1400)
        (welcomed ++ [(Env.at 0, .command .closeStation)]) := by
  constructor
  · rw [Machine.eachStep_append, run_visited]
    rintro ⟨-, told, -⟩
    have present : visitedSystem.control.activeSlots ≠ [] := by
      rw [visitedSystem_activeSlots]
      nofun
    exact
      closeAccessPoint_untold (Env.at 0) visitedSystem_phase
        visitedSystem_state present told
  · rw [Machine.eachStep_append, run_welcomed]
    rintro ⟨-, told, -⟩
    exact
      closeStation_untold (Env.at 0) connectedSystem_phase
        connectedSystem_state told

end System

end SlpClient.Ldn
