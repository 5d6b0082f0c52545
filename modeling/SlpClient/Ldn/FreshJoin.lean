import SlpClient.Ldn.StationView

/-!
# The sequence filter of a new join

Syncs carry the send counter of their host, and a station drops those that
lie a little behind the last counter it saw.  Two hosts count independently,
so a counter of one says nothing about the other: a join should begin with an
unset filter.  `Connect` itself does not touch the filter.  It is unset by
the ways in which a join ends, but not by closing or opening a role, and it
is set by every stamped sync that a station hears, of whatever network.
-/

namespace SlpClient.Ldn

open SlpClient.Lib

namespace LdnControl

/-- An unset filter drops nothing; a set one drops some counter. -/
theorem staleSync_eq_false_iff (control : LdnControl) :
    (∀ seq, control.staleSync seq = false) ↔
      control.relaySyncSeqValid = false := by
  constructor
  · intro passes
    by_contra set
    rw [Bool.not_eq_false] at set
    by_cases zero : control.relaySyncSeq = 0
    · have passed := passes 65535
      rw [staleSync, set, zero] at passed
      exact absurd passed (by decide)
    · have passed := passes control.relaySyncSeq
      rw [staleSync, set, UInt16.sub_self] at passed
      have near : decide ((0 : UInt16) < 256) = true := by decide
      rw [near, Bool.and_true, Bool.and_true, bne_eq_false_iff_eq]
        at passed
      exact zero passed
  · intro unset seq
    rw [staleSync, unset, Bool.and_false, Bool.false_and]

/-- Whether the filter is set is no bookkeeping. -/
theorem filter_eq_of_core {control other : LdnControl}
    (same : control.core = other.core) :
    control.relaySyncSeqValid = other.relaySyncSeqValid ∧
      control.relaySyncSeq = other.relaySyncSeq := by
  have valid := congrArg LdnControl.relaySyncSeqValid same
  have seq := congrArg LdnControl.relaySyncSeq same
  exact ⟨valid, seq⟩

theorem setState_filter (control : LdnControl) (state : CommState) :
    (control.setState state).relaySyncSeqValid =
      control.relaySyncSeqValid := by
  unfold setState
  split <;> rfl

theorem noteSyncSeq_filter (control : LdnControl) (seq : UInt16) :
    (control.noteSyncSeq seq).relaySyncSeqValid =
      if seq ≠ 0 then true else control.relaySyncSeqValid := by
  unfold noteSyncSeq
  split <;> rfl

/-! ## The ends of a join -/

theorem loseHost_filter (control : LdnControl) (reason : UInt32) :
    (control.loseHost reason).relaySyncSeqValid = false := by
  rw [loseHost, setState_filter]
  rfl

theorem disconnect_filter (control : LdnControl) (env : Env) :
    (control.disconnect env).control.relaySyncSeqValid = false := by
  unfold disconnect
  rw [answer_control, Step.andThen_control]
  dsimp only
  rw [setState_filter]
  rfl

theorem finalize_filter (control : LdnControl) (env : Env) :
    (control.finalize env).control.relaySyncSeqValid = false := by
  unfold finalize
  dsimp only
  rw [answer_control]
  dsimp only
  rw [setState_filter]
  rfl

/-- The goodbye of the host unsets the filter. -/
theorem hostBye_filter {control : LdnControl} (env : Env) (srcIp : UInt32)
    {payload : List UInt8} {bye : RelayHeartbeatPayload}
    (carried : byeOf payload = some bye)
    (connected : control.state = .stationConnected)
    (active : control.joinActive = true)
    (network : bye.bssid = control.joinTargetBssid)
    (host :
      bye.ipv4 = (control.networkInfo.ldn.nodes 0).ipv4Address) :
    (control.onControlFrame env srcIp
      payload).control.relaySyncSeqValid = false := by
  unfold byeOf at carried
  split at carried
  · rename_i body seq opened
    split at carried
    · rename_i length
      rw [Option.some.injEq] at carried
      subst carried
      rw [onControlFrame_eq, opened, locked_control, Step.after_control]
      change
        (control.handleRelayBye env srcIp body).control.relaySyncSeqValid =
          false
      unfold handleRelayBye
      rw [if_neg (not_not.mpr length)]
      dsimp only
      rw [if_pos connected, if_pos ⟨active, network, host⟩]
      exact loseHost_filter ..
    · simp at carried
  · simp at carried

/-- A tick that finds the host silent unsets the filter. -/
theorem tick_filter {control : LdnControl} {env : Env}
    (due :
      relayBeaconIntervalTicks ≤ env.now - control.lastBeacon)
    (connected : control.state = .stationConnected)
    (silent :
      relayPeerTimeoutTicks ≤ env.now - control.hostLastSeen) :
    (control.tick env).control.relaySyncSeqValid = false := by
  have host := System.sendHeartbeat_host (control.withBeacon env.now) env
  have hosting : control.state ≠ .accessPointCreated := by
    rw [connected]
    nofun
  unfold tick
  rw [locked_control, if_neg (not_lt.mpr due), if_neg hosting,
    if_pos (.inr connected), Step.andThen_control]
  unfold dropSilentHost
  dsimp only
  rw [if_pos (by rw [host.1, host.2]; exact ⟨connected, silent⟩)]
  exact loseHost_filter ..

end LdnControl

namespace System

open LdnControl

/-- A station hears a stamped sync. -/
inductive SetsFilter (system : System) : Env × Event → Prop where
  | sync (env : Env) (srcIp : UInt32) (payload : List UInt8)
      (info : NetworkInfo) (seq : UInt16)
      (carried : syncOf payload = some (info, seq)) (stamped : seq ≠ 0)
      (station :
        system.control.state = .station ∨
          system.control.state = .stationConnected) :
      SetsFilter system (env, .frame srcIp payload)

/-- A join ends: by the game, by a timeout, or by the host. -/
inductive ClearsFilter (system : System) : Env × Event → Prop where
  | disconnect (env : Env) (idle : system.phase = .idle) :
      ClearsFilter system (env, .command .disconnect)
  | finalize (env : Env) (idle : system.phase = .idle) :
      ClearsFilter system (env, .command .finalize)
  | connectTimeout (env : Env)
      (waited : system.phase = .connectTimeout) :
      ClearsFilter system (env, .ipc)
  | hostBye (env : Env) (srcIp : UInt32) (payload : List UInt8)
      (bye : RelayHeartbeatPayload) (carried : byeOf payload = some bye)
      (connected : system.control.state = .stationConnected)
      (active : system.control.joinActive = true)
      (network : bye.bssid = system.control.joinTargetBssid)
      (host :
        bye.ipv4 =
          (system.control.networkInfo.ldn.nodes 0).ipv4Address) :
      ClearsFilter system (env, .frame srcIp payload)
  | hostSilent (env : Env)
      (due :
        relayBeaconIntervalTicks ≤ env.now - system.control.lastBeacon)
      (connected : system.control.state = .stationConnected)
      (silent :
        relayPeerTimeoutTicks ≤ env.now - system.control.hostLastSeen) :
      ClearsFilter system (env, .tick)

/-! ## One step -/

theorem ClearsFilter.next {system : System} {input : Env × Event}
    (clears : system.ClearsFilter input) :
    (machine.next system input).control.relaySyncSeqValid = false := by
  cases clears with
  | disconnect env idle =>
      unfold Machine.next
      rw [next_command env .disconnect idle]
      exact disconnect_filter ..
  | finalize env idle =>
      unfold Machine.next
      rw [next_command env .finalize idle]
      exact finalize_filter ..
  | connectTimeout env waited =>
      change (system.ipcStep env).1.control.relaySyncSeqValid = false
      unfold ipcStep
      rw [waited]
      rfl
  | hostBye env srcIp payload bye carried connected active network host =>
      exact
        hostBye_filter env srcIp carried connected active network host
  | hostSilent env due connected silent =>
      exact tick_filter due connected silent

/-- A stamped sync sets the filter, or finds it set and is stale. -/
theorem SetsFilter.next {system : System} {input : Env × Event}
    (sets : system.SetsFilter input) :
    (machine.next system input).control.relaySyncSeqValid = true := by
  rcases sets with
    ⟨env, srcIp, payload, info, seq, carried, stamped, station⟩
  have noted :
      (system.control.noteSyncSeq seq).relaySyncSeqValid = true := by
    rw [noteSyncSeq_filter, if_pos stamped]
  rw [next_frame]
  dsimp only
  rw [onControlFrame_sync_control _ env srcIp payload info seq carried
    station]
  split
  · rename_i stale
    rw [staleSync, Bool.and_eq_true, Bool.and_eq_true] at stale
    exact stale.1.2
  · split
    · exact noted
    · exact (applySync_relaySyncSeq _ env info).2.1.trans noted

theorem filter_of_move {system : System} {env : Env} {event : Event}
    {target : LdnControl} (move : Move system env event target)
    (unset : ¬ system.SetsFilter (env, event))
    (kept : ¬ system.ClearsFilter (env, event)) :
    target.relaySyncSeqValid = system.control.relaySyncSeqValid := by
  cases move with
  | finalize idle => exact absurd (.finalize env idle) kept
  | disconnect idle => exact absurd (.disconnect env idle) kept
  | connectTimeout waited => exact absurd (.connectTimeout env waited) kept
  | noteSync srcIp payload info seq carried station =>
      rw [noteSyncSeq_filter]
      split
      · rename_i stamped
        exact
          absurd (.sync env srcIp payload info seq carried stamped station)
            unset
      · rfl
  | applySync srcIp payload info seq carried accepted =>
      rw [(applySync_relaySyncSeq _ env info).2.1, noteSyncSeq_filter]
      split
      · rename_i stamped
        exact
          absurd
            (.sync env srcIp payload info seq carried stamped
              (acceptsSync_station accepted))
            unset
      · rfl
  | hostBye srcIp payload bye carried connected active network host =>
      exact
        absurd
          (.hostBye env srcIp payload bye carried connected active network
            host)
          kept
  | hostSilent due connected silent =>
      exact absurd (.hostSilent env due connected silent) kept
  | _ => rfl

/-- No other step touches the filter. -/
theorem filter_next {system : System} {input : Env × Event}
    (unset : ¬ system.SetsFilter input)
    (kept : ¬ system.ClearsFilter input) :
    (machine.next system input).control.relaySyncSeqValid =
      system.control.relaySyncSeqValid := by
  rcases system.next_move input with ⟨target, move, same⟩
  rw [(filter_eq_of_core same).1]
  exact filter_of_move move unset kept

/-! ## Joins -/

/-- The filter is unset after a run when every stamped sync was undone. -/
theorem filterUnset_iff_undone (mtu : UInt32)
    (inputs : List (Env × Event)) :
    (machine.run (initial mtu) inputs).control.relaySyncSeqValid = false ↔
      machine.Undone SetsFilter ClearsFilter (initial mtu) inputs := by
  let flag : System → Bool := fun system =>
    system.control.relaySyncSeqValid
  have initially : flag (initial mtu) = false := rfl
  exact
    Machine.flag_eq_false_iff_undone (fun _ _ sets => sets.next)
      (fun _ _ clears => clears.next)
      (fun _ _ unset kept => filter_next unset kept) initially inputs

/--
A run in which `Connect` was accepted for a network, of which no sync has
arrived since, and at whose end the console listens to syncs.
-/
structure AwaitsFirstSync (mtu : UInt32) (target : NetworkInfo)
    (before : List (Env × Event)) (env : Env) (dat : ConnectNetworkData)
    (between : List (Env × Event)) : Prop where
  idle : (machine.run (initial mtu) before).phase = .idle
  ready : (machine.run (initial mtu) before).control.state ≠ .none
  nodes : target.ldn.nodeCount ≠ 0
  unheard :
    ∀ input ∈ between, ∀ srcIp payload info seq,
      input.2 = .frame srcIp payload →
        syncOf payload = some (info, seq) →
          info.common.bssid ≠ target.common.bssid
  listens :
    (machine.run (initial mtu)
        (before ++ (env, .command (.connect dat target)) ::
          between)).control.state = .station ∨
      (machine.run (initial mtu)
        (before ++ (env, .command (.connect dat target)) ::
          between)).control.state = .stationConnected

/-- The sequence filter of a listening station drops this frame. -/
def DropsAsStale (system : System) (payload : List UInt8) : Prop :=
  (system.control.state = .station ∨
      system.control.state = .stationConnected) ∧
    ∃ info seq,
      syncOf payload = some (info, seq) ∧
        system.control.staleSync seq = true

/-- A sync of the network with this BSSID. -/
def SyncOfNetwork (bssid : MacAddress) (payload : List UInt8) : Prop :=
  ∃ info seq,
    syncOf payload = some (info, seq) ∧ info.common.bssid = bssid

/--
The first sync of the network that `Connect` asked for passes the filter,
whatever its counter, exactly when every stamped sync that the station heard
was followed by the end of a join.
-/
theorem AwaitsFirstSync.firstSync_passes_iff
    {mtu : UInt32} {target : NetworkInfo} {before : List (Env × Event)}
    {env : Env} {dat : ConnectNetworkData}
    {between : List (Env × Event)}
    (awaits : AwaitsFirstSync mtu target before env dat between) :
    (∀ payload, SyncOfNetwork target.common.bssid payload →
        ¬ (machine.run (initial mtu)
          (before ++ (env, .command (.connect dat target)) ::
            between)).DropsAsStale payload) ↔
      machine.Undone SetsFilter ClearsFilter (initial mtu)
        (before ++ (env, .command (.connect dat target)) ::
          between) := by
  rw [← filterUnset_iff_undone, ← staleSync_eq_false_iff]
  constructor
  · intro passes seq
    have carried := syncOf_frameBytes target seq
    rw [← Bool.not_eq_true]
    intro stale
    exact
      passes _ ⟨target, seq, carried, rfl⟩
        ⟨awaits.listens, target, seq, carried, stale⟩
  · rintro fresh payload - ⟨-, info, seq, -, stale⟩
    rw [fresh seq] at stale
    exact absurd stale Bool.false_ne_true

/-- A game that opens a station. -/
def opening : List (Env × Event) :=
  [(Env.at 0, .command .initializeLdn),
    (Env.at 0, .command .openStation)]

theorem opening_awaits :
    AwaitsFirstSync 1400 sampleNetwork opening (Env.at 0)
      ⟨⟨fun _ => 0⟩, 0⟩ [] where
  idle := rfl
  ready := by decide
  nodes := by decide
  unheard _ none := absurd none List.not_mem_nil
  listens := .inl rfl

theorem opening_firstSync_passes :
    AwaitsFirstSync 1400 sampleNetwork opening (Env.at 0)
        ⟨⟨fun _ => 0⟩, 0⟩ [] ∧
      ∀ payload, SyncOfNetwork sampleNetwork.common.bssid payload →
        ¬ (machine.run (initial 1400)
          (opening ++
            [(Env.at 0,
              .command
                (.connect ⟨⟨fun _ => 0⟩, 0⟩
                  sampleNetwork))])).DropsAsStale payload :=
  ⟨opening_awaits,
    opening_awaits.firstSync_passes_iff.mpr
      ((filterUnset_iff_undone 1400 _).mp rfl)⟩

/-! ### A station that changes its host -/

/-- Only two commands touch the filter. -/
theorem next_command_filter (system : System) (env : Env)
    {command : Command} (stays : command ≠ .disconnect)
    (lives : command ≠ .finalize) :
    (machine.next system (env, .command command)).control.relaySyncSeq =
        system.control.relaySyncSeq ∧
      (machine.next system
          (env, .command command)).control.relaySyncSeqValid =
        system.control.relaySyncSeqValid := by
  rcases system.next_move (env, .command command) with
    ⟨target, move, same⟩
  rw [(filter_eq_of_core same).1, (filter_eq_of_core same).2]
  generalize event : (env, Event.command command).2 = given at move
  cases move with
  | disconnect => exact absurd (Event.command.inj event) stays
  | finalize => exact absurd (Event.command.inj event) lives
  | connectTimeout => simp at event
  | noteSync => simp at event
  | applySync => simp at event
  | hostBye => simp at event
  | hostSilent => simp at event
  | _ => exact ⟨rfl, rfl⟩

theorem next_closeStation {system : System} (env : Env)
    (idle : system.phase = .idle) (ready : system.control.state ≠ .none) :
    (machine.next system (env, .command .closeStation)).phase = .idle ∧
      (machine.next system (env, .command .closeStation)).control.state =
        .initialized := by
  have view := system.control.joinView_closeRole env
  rw [if_neg ready] at view
  unfold Machine.next
  rw [next_command env .closeStation idle]
  exact ⟨rfl, congrArg JoinView.state view⟩

theorem next_openStation {system : System} (env : Env)
    (idle : system.phase = .idle) (ready : system.control.state ≠ .none) :
    (machine.next system (env, .command .openStation)).phase = .idle ∧
      (machine.next system (env, .command .openStation)).control.state =
        .station := by
  have view := system.control.joinView_openRole env .station
  rw [if_neg ready] at view
  unfold Machine.next
  rw [next_command env .openStation idle]
  exact ⟨rfl, congrArg JoinView.state view⟩

/-- An accepted `Connect` leaves the state and the filter alone. -/
theorem connectStarted_station (control : LdnControl) (my : NodeInfo)
    (data : NetworkInfo) (seq : UInt16) :
    (connectStarted control my data).control.state = control.state ∧
      (connectStarted control my data).control.staleSync seq =
        control.staleSync seq :=
  ⟨rfl, rfl⟩

/-- The network of another host, at `10.13.0.4`. -/
def otherNetwork : NetworkInfo :=
  sampleNetwork.withBssid (fakeMac 0x0A0D0004)

/-- The station of `welcomed` leaves by closing its role, and reopens it. -/
def returned : List (Env × Event) :=
  welcomed ++
    [(Env.at 0, .command .closeStation),
      (Env.at 0, .command .openStation)]

theorem connectedSystem_filter :
    connectedSystem.control.relaySyncSeq = 1 ∧
      connectedSystem.control.relaySyncSeqValid = true := by
  have copied :=
    (stationSystem.control.noteSyncSeq 1).applySync_relaySyncSeq
      (Env.at 0) welcomingNetwork
  rw [connectedSystem, next_frame]
  dsimp only
  rw [onControlFrame_sync_control _ (Env.at 0) 0x0A0D0003 _
    welcomingNetwork 1 (syncOf_syncArrival ..) (.inl rfl),
    if_neg (by decide), if_neg (by rintro ⟨active, -⟩; cases active),
    copied.1, copied.2.1]
  exact ⟨rfl, rfl⟩

/-- The station of `returned`, before it asks for another network. -/
def returnedSystem : System :=
  machine.run (initial 1400) returned

theorem returnedSystem_eq :
    returnedSystem =
      machine.next
        (machine.next connectedSystem (Env.at 0, .command .closeStation))
        (Env.at 0, .command .openStation) := by
  rw [returnedSystem, returned, Machine.run_append, run_welcomed,
    Machine.run_cons, Machine.run_cons, Machine.run_nil]

theorem returnedSystem_station :
    returnedSystem.phase = .idle ∧
      returnedSystem.control.state = .station := by
  have ready : connectedSystem.control.state ≠ .none := by
    rw [connectedSystem_state]
    nofun
  have closed :=
    next_closeStation (Env.at 0) connectedSystem_phase ready
  have open_ :=
    next_openStation (Env.at 0) closed.1 (by rw [closed.2]; nofun)
  rw [returnedSystem_eq]
  exact open_

theorem returnedSystem_filter :
    returnedSystem.control.relaySyncSeq = 1 ∧
      returnedSystem.control.relaySyncSeqValid = true := by
  have closed :=
    next_command_filter connectedSystem (Env.at 0)
      (show Command.closeStation ≠ .disconnect by nofun) nofun
  have reopened :=
    next_command_filter
      (machine.next connectedSystem (Env.at 0, .command .closeStation))
      (Env.at 0) (show Command.openStation ≠ .disconnect by nofun) nofun
  rw [returnedSystem_eq, reopened.1, reopened.2, closed.1, closed.2]
  exact connectedSystem_filter

/-- The game of `returned` asks for the network of the other host. -/
def asking : Env × Event :=
  (Env.at 0, .command (.connect ⟨⟨fun _ => 0⟩, 0⟩ otherNetwork))

theorem next_returnedSystem :
    machine.next returnedSystem asking =
      connectStarted returnedSystem.control
        (returnedSystem.control.joiningNode ⟨⟨fun _ => 0⟩, 0⟩)
        otherNetwork := by
  have whole : returnedSystem = ⟨returnedSystem.control, .idle⟩ := by
    rw [← returnedSystem_station.1]
  have ready : returnedSystem.control.state ≠ .none := by
    rw [returnedSystem_station.2]
    nofun
  rw [← next_connect _ (Env.at 0) ⟨⟨fun _ => 0⟩, 0⟩ otherNetwork ready
    (by decide), ← whole, asking]

theorem run_returned_asking :
    machine.run (initial 1400) (returned ++ [asking]) =
      machine.next returnedSystem asking := by
  rw [Machine.run_append, ← returnedSystem, Machine.run_cons,
    Machine.run_nil]

theorem returned_awaits :
    AwaitsFirstSync 1400 otherNetwork returned (Env.at 0)
      ⟨⟨fun _ => 0⟩, 0⟩ [] where
  idle := returnedSystem_station.1
  ready := by
    rw [← returnedSystem, returnedSystem_station.2]
    nofun
  nodes := by decide
  unheard _ none := absurd none List.not_mem_nil
  listens := by
    rw [← asking, run_returned_asking, next_returnedSystem]
    exact
      .inl
        ((connectStarted_station _ _ otherNetwork 0).1.trans
          returnedSystem_station.2)

/--
A station that heard one host, closed its role and asks for the network of
another host drops the first sync of that network.
-/
theorem returned_firstSync_stale :
    AwaitsFirstSync 1400 otherNetwork returned (Env.at 0)
        ⟨⟨fun _ => 0⟩, 0⟩ [] ∧
      SyncOfNetwork otherNetwork.common.bssid
        (syncArrival (Env.at 0) 0x0A0D0004 otherNetwork 1).payload ∧
      (machine.run (initial 1400) (returned ++ [asking])).DropsAsStale
        (syncArrival (Env.at 0) 0x0A0D0004 otherNetwork 1).payload := by
  have carried :=
    syncOf_syncArrival (Env.at 0) 0x0A0D0004 otherNetwork 1
  have listens := returned_awaits.listens
  rw [← asking] at listens
  refine
    ⟨returned_awaits, ⟨otherNetwork, 1, carried, rfl⟩, listens,
      otherNetwork, 1, carried, ?_⟩
  rw [run_returned_asking, next_returnedSystem,
    (connectStarted_station ..).2, staleSync, returnedSystem_filter.1,
    returnedSystem_filter.2]
  decide

end System

end SlpClient.Ldn
