import SlpClient.Ldn.SyncGate

/-!
# What a step can do

Some forty operations of the control plane write the shared object, but what
they write to the fields that describe a session falls into a few moves.
`LdnControl.core` blanks the bookkeeping: counters, ticks, scan results, the
allowlist, local network mode and the state event.  `Move` lists every move
with the conditions under which it is made, and `System.next_move` says that
up to bookkeeping each step of either thread is one of them.
-/

namespace SlpClient.Ldn

open SlpClient.Lib

/-- The virtual address that `Initialize` reads. -/
def Env.virtualAddress (env : Env) : UInt32 :=
  if Net.parseIp (Net.virtualIpText env.virtualOctets) = 0 then 0x0A0D2502
  else Net.parseIp (Net.virtualIpText env.virtualOctets)

namespace LdnControl

/-! ## Bookkeeping -/

/-- The control plane without its bookkeeping. -/
def core (control : LdnControl) : LdnControl :=
  { control with
    disconnectReason := 0
    subnetMask := 0
    stationAcceptPolicy := 0
    stations := fun slot => { control.stations slot with lastSeen := 0 }
    scanFilterLcid := 0
    scanResults := fun _ => .zero
    scanResultCount := 0
    hostLastSeen := 0
    lastBeacon := 0
    txSeq := 0
    recentScanners := fun _ => ⟨0, 0, false⟩
    localNetworkMode := false
    savedMtu := 0
    nifm := ⟨0, 0⟩
    stateEvent := false }

/-- The control in another state, whatever the state event says. -/
def inState (control : LdnControl) (state : CommState) : LdnControl :=
  { control with state := state }

/-- The control with a rebuilt network and the changes it brings. -/
def rebuilt (control : LdnControl) : LdnControl :=
  { control with networkInfo := control.buildNetwork.1 }.onNetworkInfoChanged

/-- The control with another virtual address. -/
def withAddress (control : LdnControl) (address : UInt32) : LdnControl :=
  { control with ipv4Address := address }

theorem state_eq_of_core {control other : LdnControl}
    (same : control.core = other.core) : control.state = other.state := by
  have equal := congrArg LdnControl.state same
  exact equal

/-- The view of the network is no bookkeeping. -/
theorem view_eq_of_core {control other : LdnControl}
    (same : control.core = other.core) :
    control.networkInfo = other.networkInfo ∧
      control.prevNodeConnected = other.prevNodeConnected ∧
      control.nodeChanges = other.nodeChanges := by
  have networkInfo := congrArg LdnControl.networkInfo same
  have connected := congrArg LdnControl.prevNodeConnected same
  have changes := congrArg LdnControl.nodeChanges same
  exact ⟨networkInfo, connected, changes⟩

theorem core_setState (control : LdnControl) (state : CommState) :
    (control.setState state).core = (control.inState state).core := by
  unfold setState
  split
  · rfl
  · rename_i same
    rw [not_not] at same
    subst same
    rfl

theorem core_sendFrame (control : LdnControl) (env : Env) (dst : UInt32)
    (type : LanPacketType) (body : List UInt8) :
    (control.sendFrame env dst type body).control.core = control.core := by
  rw [sendFrame_control]
  rfl

theorem core_enterLocalNetworkMode (control : LdnControl) (env : Env) :
    (control.enterLocalNetworkMode env).2.core = control.core := by
  rcases control.enterLocalNetworkMode_shape env with
    ⟨nifm, savedMtu, mode, shape⟩
  rw [shape]
  rfl

theorem core_leaveLocalNetworkMode (control : LdnControl) (env : Env) :
    (control.leaveLocalNetworkMode env).core = control.core := by
  rcases control.leaveLocalNetworkMode_shape env with ⟨nifm, mode, shape⟩
  rw [shape]
  rfl

/-- The station loop does not look at the bookkeeping. -/
theorem core_placeStations (control : LdnControl) (slots : List (Fin 8))
    (nodes : Fin 8 → NodeInfo) (count : Nat) :
    control.core.placeStations slots nodes count =
      control.placeStations slots nodes count := by
  induction slots generalizing nodes count with
  | nil => rfl
  | cons slot rest induction =>
      unfold placeStations
      simp only [induction]
      rfl

theorem core_buildNetwork (control : LdnControl) :
    control.core.buildNetwork.1 = control.buildNetwork.1 := by
  unfold buildNetwork
  dsimp only
  rw [core_placeStations]
  rfl

theorem core_rebuilt (control : LdnControl) :
    control.core.rebuilt.core = control.rebuilt.core := by
  unfold rebuilt
  rw [core_buildNetwork]
  rfl

/-- Rebuilding gives the same up to bookkeeping. -/
theorem rebuilt_congr {control other : LdnControl}
    (same : control.core = other.core) :
    control.rebuilt.core = other.rebuilt.core := by
  rw [← core_rebuilt, same, core_rebuilt]

theorem core_updateNodes (control : LdnControl) (env : Env) :
    (control.updateNodes env).control.core = control.rebuilt.core := by
  rw [updateNodes_control]
  rfl

theorem core_loseHost (control : LdnControl) (reason : UInt32) :
    (control.loseHost reason).core =
      (control.leaveJoin.inState .station).core := by
  unfold loseHost
  rw [core_setState]
  rfl

/-- What the role commands do to a control with the same core. -/
theorem core_reset_inState {control other : LdnControl}
    (same : control.core = other.core) (state : CommState) :
    (control.resetStations.setState state).core =
      (other.resetStations.inState state).core := by
  have reset :
      control.resetStations.core = other.resetStations.core := by
    have cleared (control : LdnControl) :
        control.core.resetStations.core = control.resetStations.core := by
      unfold resetStations core
      dsimp only
      congr 1
      funext slot
      split <;> rfl
    rw [← cleared control, same, cleared]
  rw [core_setState]
  exact congrArg (fun core => (core.inState state).core) reset

end LdnControl

/-! ## Moves -/

/--
The moves of the session fields.  Each constructor names the event that
brings it about and the conditions the code checks.
-/
inductive Move (system : System) (env : Env) :
    Event → LdnControl → Prop where
  | still (event : Event) : Move system env event system.control
  | initializeLdn (idle : system.phase = .idle) :
      Move system env (.command .initializeLdn)
        (((system.control.withAddress
          env.virtualAddress).resetStations.initNodeStateChange).inState
            .initialized)
  | finalize (idle : system.phase = .idle) :
      Move system env (.command .finalize)
        (system.control.leaveJoin.resetStations.inState .none)
  | openAccessPoint (idle : system.phase = .idle)
      (ready : system.control.state ≠ .none) :
      Move system env (.command .openAccessPoint)
        (system.control.resetStations.inState .accessPoint)
  | openStation (idle : system.phase = .idle)
      (ready : system.control.state ≠ .none) :
      Move system env (.command .openStation)
        (system.control.resetStations.inState .station)
  | closeAccessPoint (idle : system.phase = .idle)
      (ready : system.control.state ≠ .none) :
      Move system env (.command .closeAccessPoint)
        (system.control.resetStations.inState .initialized)
  | closeStation (idle : system.phase = .idle)
      (ready : system.control.state ≠ .none) :
      Move system env (.command .closeStation)
        (system.control.resetStations.inState .initialized)
  | createNetwork (data : CreateNetworkConfig)
      (idle : system.phase = .idle)
      (opened : system.control.state = .accessPoint) :
      Move system env (.command (.createNetwork data))
        (((system.control.created env
          data).resetStations.initNodeStateChange).inState
            .accessPointCreated).rebuilt
  | destroyNetwork (idle : system.phase = .idle) :
      Move system env (.command .destroyNetwork)
        (system.control.resetStations.inState .accessPoint)
  | setAdvertiseData (data : List UInt8) (idle : system.phase = .idle)
      (fits : data.length ≤ advertiseDataSizeMax) :
      Move system env (.command (.setAdvertiseData data))
        (system.control.advertised data).rebuilt
  | disconnect (idle : system.phase = .idle) :
      Move system env (.command .disconnect)
        (system.control.leaveJoin.resetStations.inState .station)
  | connect (dat : ConnectNetworkData) (data : NetworkInfo)
      (idle : system.phase = .idle)
      (ready : system.control.state ≠ .none)
      (nodes : data.ldn.nodeCount ≠ 0) :
      Move system env (.command (.connect dat data))
        (system.control.connectBegin data)
  | connectTimeout (waited : system.phase = .connectTimeout) :
      Move system env .ipc system.control.leaveJoin
  | getNetworkInfoLatestUpdate (capacity : Nat)
      (idle : system.phase = .idle) (fits : capacity ≤ nodeCountMax)
      (inNetwork :
        system.control.state = .accessPointCreated ∨
          system.control.state = .stationConnected) :
      Move system env (.command (.getNetworkInfoLatestUpdate capacity))
        { system.control with
          nodeChanges := fun index =>
            if index.val < capacity then 0
            else system.control.nodeChanges index }
  | takeIn (srcIp : UInt32) (payload : List UInt8) (node : NodeInfo)
      (slot : Fin 8)
      (hosting : system.control.state = .accessPointCreated)
      (found : system.control.connectSlot srcIp = some slot) :
      Move system env (.frame srcIp payload)
        (system.control.withStation slot
          (LdnControl.connectedStation env srcIp node slot)).rebuilt
  | stationBye (srcIp : UInt32) (payload : List UInt8) (slot : Fin 8)
      (hosting : system.control.state = .accessPointCreated)
      (found : system.control.findStationByIp srcIp = some slot) :
      Move system env (.frame srcIp payload)
        (system.control.withStation slot
          (system.control.stations slot).clear).rebuilt
  | reap (hosting : system.control.state = .accessPointCreated) :
      Move system env .tick (system.control.reapStations env.now).rebuilt
  | noteSync (srcIp : UInt32) (payload : List UInt8) (info : NetworkInfo)
      (seq : UInt16) (carried : syncOf payload = some (info, seq))
      (station :
        system.control.state = .station ∨
          system.control.state = .stationConnected)
      (fresh : system.control.staleSync seq = false)
      (foreign :
        system.control.joinActive = true ∧
          info.common.bssid ≠ system.control.joinTargetBssid) :
      Move system env (.frame srcIp payload)
        (system.control.noteSyncSeq seq)
  | applySync (srcIp : UInt32) (payload : List UInt8) (info : NetworkInfo)
      (seq : UInt16) (carried : syncOf payload = some (info, seq))
      (accepted : system.control.acceptsSync info seq = true) :
      Move system env (.frame srcIp payload)
        ((system.control.noteSyncSeq seq).applySync env info).control
  | hostBye (srcIp : UInt32) (payload : List UInt8)
      (bye : RelayHeartbeatPayload) (carried : byeOf payload = some bye)
      (connected : system.control.state = .stationConnected)
      (active : system.control.joinActive = true)
      (network : bye.bssid = system.control.joinTargetBssid)
      (host :
        bye.ipv4 =
          (system.control.networkInfo.ldn.nodes 0).ipv4Address) :
      Move system env (.frame srcIp payload)
        (system.control.leaveJoin.inState .station)
  | hostSilent
      (due :
        relayBeaconIntervalTicks ≤ env.now - system.control.lastBeacon)
      (connected : system.control.state = .stationConnected)
      (silent :
        relayPeerTimeoutTicks ≤ env.now - system.control.hostLastSeen) :
      Move system env .tick (system.control.leaveJoin.inState .station)

namespace System

open LdnControl

variable (system : System) (env : Env)

/-- A step that is a move up to bookkeeping. -/
def Moves (event : Event) (control : LdnControl) : Prop :=
  ∃ target, Move system env event target ∧ control.core = target.core

variable {system env}

theorem Moves.still {event : Event} {control : LdnControl}
    (same : control.core = system.control.core) :
    system.Moves env event control :=
  ⟨system.control, .still event, same⟩

/-! ### Commands -/

theorem moves_openRole {event : Event} {role : CommState}
    (move :
      system.control.state ≠ .none →
        Move system env event
          (system.control.resetStations.inState role)) :
    system.Moves env event
      (system.control.openRole env role).control := by
  unfold openRole
  dsimp only
  split
  · exact .still rfl
  · rename_i ready
    refine ⟨_, move ready, ?_⟩
    rw [answer_control]
    apply core_reset_inState
    split
    · rfl
    · rw [core_enterLocalNetworkMode]
      rfl

theorem moves_closeRole {event : Event}
    (move :
      system.control.state ≠ .none →
        Move system env event
          (system.control.resetStations.inState .initialized)) :
    system.Moves env event (system.control.closeRole env).control := by
  unfold closeRole
  split
  · exact .still rfl
  · rename_i ready
    refine ⟨_, move ready, ?_⟩
    rw [answer_control]
    exact core_reset_inState (core_leaveLocalNetworkMode _ env) _

theorem moves_initializeLdn (idle : system.phase = .idle) :
    system.Moves env (.command .initializeLdn)
      (system.control.initializeLdn env).control := by
  unfold initializeLdn
  dsimp only
  rw [answer_control]
  refine ⟨_, .initializeLdn idle, ?_⟩
  rw [core_setState]
  exact
    congrArg (fun core => (core.inState .initialized).core)
      (core_leaveLocalNetworkMode _ env)

theorem moves_finalize (idle : system.phase = .idle) :
    system.Moves env (.command .finalize)
      (system.control.finalize env).control := by
  unfold finalize
  dsimp only
  rw [answer_control]
  refine ⟨_, .finalize idle, core_reset_inState ?_ _⟩
  exact
    congrArg (fun core => core.leaveJoin.core)
      (core_leaveLocalNetworkMode _ env)

theorem moves_createNetwork (data : CreateNetworkConfig)
    (idle : system.phase = .idle) :
    system.Moves env (.command (.createNetwork data))
      (system.control.createNetwork env data).control := by
  unfold createNetwork
  split
  · exact .still rfl
  · rename_i opened
    rw [ne_eq, not_not] at opened
    refine ⟨_, .createNetwork data idle opened, ?_⟩
    rw [answer_control, core_updateNodes]
    exact rebuilt_congr (core_setState _ _)

theorem moves_destroyNetwork (idle : system.phase = .idle) :
    system.Moves env (.command .destroyNetwork)
      (system.control.destroyNetwork env).control := by
  unfold destroyNetwork
  rw [answer_control, Step.andThen_control]
  refine ⟨_, .destroyNetwork idle, core_reset_inState ?_ _⟩
  split
  · exact core_sendFrame ..
  · rfl

theorem moves_setAdvertiseData (data : List UInt8)
    (idle : system.phase = .idle) :
    system.Moves env (.command (.setAdvertiseData data))
      (system.control.setAdvertiseData env data).control := by
  unfold setAdvertiseData
  split
  · exact .still rfl
  · rename_i fits
    refine ⟨_, .setAdvertiseData data idle (not_lt.mp fits), ?_⟩
    rw [answer_control, Step.after_control, core_updateNodes]

theorem moves_disconnect (idle : system.phase = .idle) :
    system.Moves env (.command .disconnect)
      (system.control.disconnect env).control := by
  unfold disconnect
  rw [answer_control, Step.andThen_control]
  refine ⟨_, .disconnect idle, core_reset_inState ?_ _⟩
  split
  · exact
      congrArg (fun core => core.leaveJoin.core)
        (core_sendFrame system.control env _ _ _)
  · rfl

theorem moves_getNetworkInfoLatestUpdate (capacity : Nat)
    (idle : system.phase = .idle) :
    system.Moves env (.command (.getNetworkInfoLatestUpdate capacity))
      (system.control.getNetworkInfoLatestUpdate capacity).control := by
  unfold getNetworkInfoLatestUpdate
  split
  · exact .still rfl
  · split
    · exact .still rfl
    · rename_i fits inNetwork
      have either :
          system.control.state = .accessPointCreated ∨
            system.control.state = .stationConnected := by
        tauto
      exact
        ⟨_,
          .getNetworkInfoLatestUpdate capacity idle (not_lt.mp fits) either,
          rfl⟩

/-- Every command of an idle IPC thread is a move. -/
theorem moves_commandStep (command : Command)
    (idle : system.phase = .idle) :
    system.Moves env (.command command)
      (commandStep system.control env command).1.control := by
  cases command with
  | getState => exact .still rfl
  | getNetworkInfo =>
      exact .still (congrArg core (whenInNetwork_control _ _))
  | getIpv4Address => exact .still rfl
  | getDisconnectReason => exact .still rfl
  | getSecurityParameter =>
      exact .still (congrArg core (whenInNetwork_control _ _))
  | getNetworkConfig =>
      exact .still (congrArg core (whenInNetwork_control _ _))
  | attachStateChangeEvent => exact .still rfl
  | getNetworkInfoLatestUpdate capacity =>
      exact moves_getNetworkInfoLatestUpdate capacity idle
  | scan filter capacity =>
      unfold commandStep
      dsimp only
      split
      · exact .still rfl
      · exact .still rfl
  | openAccessPoint => exact moves_openRole (.openAccessPoint idle)
  | closeAccessPoint => exact moves_closeRole (.closeAccessPoint idle)
  | createNetwork data => exact moves_createNetwork data idle
  | destroyNetwork => exact moves_destroyNetwork idle
  | setAdvertiseData data => exact moves_setAdvertiseData data idle
  | openStation => exact moves_openRole (.openStation idle)
  | closeStation => exact moves_closeRole (.closeStation idle)
  | connect dat data =>
      unfold commandStep
      dsimp only
      split
      · exact .still rfl
      · rename_i ready
        split
        · exact .still rfl
        · rename_i nodes
          exact ⟨_, .connect dat data idle ready nodes, rfl⟩
  | disconnect => exact moves_disconnect idle
  | initializeLdn => exact moves_initializeLdn idle
  | finalize => exact moves_finalize idle

/-- The IPC thread inside `Scan` or `Connect` moves only by giving up. -/
theorem moves_ipcStep :
    system.Moves env .ipc (system.ipcStep env).1.control := by
  unfold ipcStep
  split
  · exact .still rfl
  · exact .still (core_sendFrame ..)
  · dsimp only [enter]
    split
    · exact .still (core_sendFrame ..)
    · exact .still rfl
  · exact .still rfl
  · exact .still rfl
  · exact .still (core_sendFrame ..)
  · dsimp only
    split
    · exact .still rfl
    · exact .still rfl
  · dsimp only [enter]
    split
    · exact .still (core_sendFrame ..)
    · exact .still rfl
  · rename_i waited
    exact ⟨_, .connectTimeout waited, rfl⟩

/-! ### Frames and ticks -/

theorem moves_handleScan (srcIp : UInt32) (payload : List UInt8) :
    system.Moves env (.frame srcIp payload)
      (system.control.handleScan env srcIp).control := by
  unfold handleScan
  split
  · exact .still rfl
  · exact .still (core_sendFrame ..)

theorem moves_handleScanResp (srcIp : UInt32)
    (payload body : List UInt8) :
    system.Moves env (.frame srcIp payload)
      (system.control.handleScanResp srcIp body).control := by
  rcases system.control.handleScanResp_control srcIp body with
    ⟨results, count, equality⟩
  rw [equality]
  exact .still rfl

theorem moves_handleConnect (srcIp : UInt32)
    (payload body : List UInt8) :
    system.Moves env (.frame srcIp payload)
      (system.control.handleConnect env srcIp body).control := by
  unfold handleConnect
  split
  · exact .still rfl
  · rename_i hosting
    rw [ne_eq, not_not] at hosting
    split
    · exact .still rfl
    · split
      · exact .still rfl
      · dsimp only
        split
        · exact .still rfl
        · rename_i slot found
          refine
            ⟨_,
              .takeIn srcIp payload (NodeInfo.codec.decode body) slot hosting
                found,
              ?_⟩
          rw [Step.after_control, core_updateNodes]

theorem core_heard (control : LdnControl) (slot : Fin 8) (now : Int) :
    (control.withStation slot
        { control.stations slot with lastSeen := now }).core =
      control.core := by
  unfold withStation core
  dsimp only
  congr 1
  funext other
  by_cases same : other = slot
  · subst same
    rw [Function.update_self]
  · rw [Function.update_of_ne same]

theorem moves_handleRelayHeartbeat (srcIp : UInt32)
    (payload body : List UInt8) :
    system.Moves env (.frame srcIp payload)
      (system.control.handleRelayHeartbeat env srcIp body).control := by
  unfold handleRelayHeartbeat
  split
  · exact .still rfl
  · split
    · exact .still rfl
    · dsimp only
      split
      · exact .still rfl
      · split
        · exact .still rfl
        · exact .still (core_heard ..)

theorem moves_handleSyncNetwork (srcIp : UInt32)
    {payload body : List UInt8} {seq : UInt16}
    (opened :
      openedFrame payload = some (.syncNetwork, body, seq)) :
    system.Moves env (.frame srcIp payload)
      (system.control.handleSyncNetwork env body seq).control := by
  unfold handleSyncNetwork
  split
  · exact .still rfl
  · rename_i length
    rw [ne_eq, not_not] at length
    have carried :
        syncOf payload = some (NetworkInfo.codec.decode body, seq) := by
      rw [syncOf, opened]
      exact if_pos length
    split
    · exact .still rfl
    · rename_i elsewhere
      have station :
          system.control.state = .station ∨
            system.control.state = .stationConnected := by
        tauto
      split
      · exact .still rfl
      · rename_i fresh
        rw [Bool.not_eq_true] at fresh
        simp only [noteSyncSeq_joinActive, noteSyncSeq_joinTargetBssid]
        split
        · rename_i foreign
          exact
            ⟨_, .noteSync srcIp payload _ seq carried station fresh foreign,
              rfl⟩
        · rename_i own
          have accepted :
              system.control.acceptsSync
                (NetworkInfo.codec.decode body) seq = true := by
            rw [not_and, ne_eq, not_not] at own
            cases active : system.control.joinActive with
            | false => simp [acceptsSync, station, fresh, active]
            | true => simp [acceptsSync, station, fresh, own active]
          exact ⟨_, .applySync srcIp payload _ seq carried accepted, rfl⟩

theorem moves_handleRelayBye (srcIp : UInt32)
    {payload body : List UInt8} {seq : UInt16}
    (opened : openedFrame payload = some (.relayBye, body, seq)) :
    system.Moves env (.frame srcIp payload)
      (system.control.handleRelayBye env srcIp body).control := by
  unfold handleRelayBye
  split
  · exact .still rfl
  · rename_i length
    rw [ne_eq, not_not] at length
    have carried :
        byeOf payload =
          some (RelayHeartbeatPayload.codec.decode body) := by
      rw [byeOf, opened]
      exact if_pos length
    dsimp only
    split
    · rename_i connected
      split
      · rename_i own
        exact
          ⟨_,
            .hostBye srcIp payload _ carried connected own.1 own.2.1
              own.2.2,
            core_loseHost _ 3⟩
      · exact .still rfl
    · split
      · rename_i hosting
        split
        · exact .still rfl
        · split
          · exact .still rfl
          · rename_i slot found
            refine ⟨_, .stationBye srcIp payload slot hosting found, ?_⟩
            rw [Step.after_control, core_updateNodes]
      · exact .still rfl

theorem moves_onControlFrame (srcIp : UInt32) (payload : List UInt8) :
    system.Moves env (.frame srcIp payload)
      (system.control.onControlFrame env srcIp payload).control := by
  rw [onControlFrame_eq, locked_control, Step.after_control]
  split
  · exact .still rfl
  · rename_i type body seq opened
    cases type with
    | scan => exact moves_handleScan srcIp payload
    | scanResp => exact moves_handleScanResp srcIp payload body
    | connect => exact moves_handleConnect srcIp payload body
    | syncNetwork => exact moves_handleSyncNetwork srcIp opened
    | relayHeartbeat =>
        exact moves_handleRelayHeartbeat srcIp payload body
    | relayBye => exact moves_handleRelayBye srcIp opened

theorem core_sendHeartbeat (control : LdnControl) (env : Env) :
    (control.sendHeartbeat env).control.core = control.core := by
  unfold sendHeartbeat
  split
  · exact core_sendFrame ..
  · rfl

/-- The heartbeat does not touch what decides about a silent host. -/
theorem sendHeartbeat_host (control : LdnControl) (env : Env) :
    (control.sendHeartbeat env).control.state = control.state ∧
      (control.sendHeartbeat env).control.hostLastSeen =
        control.hostLastSeen := by
  unfold sendHeartbeat
  split
  · rw [sendFrame_control]
    exact ⟨rfl, rfl⟩
  · exact ⟨rfl, rfl⟩

theorem moves_tick :
    system.Moves env .tick (system.control.tick env).control := by
  unfold tick
  rw [locked_control]
  split
  · exact .still rfl
  · rename_i due
    rw [not_lt] at due
    split
    · rename_i hosting
      refine ⟨_, .reap hosting, ?_⟩
      rw [core_updateNodes]
      exact rebuilt_congr rfl
    · split
      · rw [Step.andThen_control]
        have host :=
          sendHeartbeat_host (system.control.withBeacon env.now) env
        have same :
            ((system.control.withBeacon env.now).sendHeartbeat
                env).control.core =
              system.control.core :=
          core_sendHeartbeat ..
        unfold dropSilentHost
        dsimp only
        split
        · rename_i silent
          rw [host.1, host.2] at silent
          refine ⟨_, .hostSilent due silent.1 silent.2, ?_⟩
          rw [core_loseHost]
          exact
            congrArg
              (fun core => (core.leaveJoin.inState .station).core) same
        · exact .still same
      · exact .still rfl

/-- Up to bookkeeping, every step is one of the moves. -/
theorem next_move (system : System) (input : Env × Event) :
    system.Moves input.1 input.2 (machine.next system input).control := by
  rcases input with ⟨env, event⟩
  cases event with
  | command command =>
      simp only [Machine.next, machine, step]
      split
      · rename_i idle
        exact moves_commandStep command idle
      · exact .still rfl
  | ipc => exact moves_ipcStep
  | frame srcIp payload => exact moves_onControlFrame srcIp payload
  | tick => exact moves_tick
  | knownPeer ip => exact .still rfl
  | enterLocalNetworkModePublic =>
      exact .still (core_enterLocalNetworkMode ..)
  | exitLocalNetworkModePublic =>
      exact .still (core_leaveLocalNetworkMode ..)

end System

end SlpClient.Ldn
