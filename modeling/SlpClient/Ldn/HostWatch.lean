import SlpClient.Ldn.StationView

/-!
# What a station remembers about its host

A station remembers when it last applied a sync of its host, when its last
periodic work was done, and why it lost a host.  Every step of either thread
writes these three fields in one of few ways: an applied sync is a sign of
life, a goodbye or the silence of the host leaves its reason, three commands
forget it, and periodic work notes its time.
-/

namespace SlpClient.Ldn

open SlpClient.Lib

/-- What a station remembers about its host. -/
structure HostWatch where
  lastBeacon : Int
  hostLastSeen : Int
  disconnectReason : UInt32

/-- The commands that forget why a host was lost. -/
def Command.forgets : Command → Bool
  | .initializeLdn | .openAccessPoint | .openStation => true
  | _ => false

namespace LdnControl

def hostWatch (control : LdnControl) : HostWatch where
  lastBeacon := control.lastBeacon
  hostLastSeen := control.hostLastSeen
  disconnectReason := control.disconnectReason

/-- The goodbye of the host this console is connected to. -/
def hostLeaves (control : LdnControl) (payload : List UInt8) : Bool :=
  (byeOf payload).any fun bye =>
    decide (control.state = .stationConnected) && control.joinActive &&
      decide (bye.bssid = control.joinTargetBssid) &&
      decide (bye.ipv4 = (control.networkInfo.ldn.nodes 0).ipv4Address)

/-- A connected station was left alone by its host for too long. -/
def hostSilent (control : LdnControl) (now : Int) : Bool :=
  decide (control.state = .stationConnected) &&
    decide (relayPeerTimeoutTicks ≤ now - control.hostLastSeen)

theorem hostSilent_iff {control : LdnControl} {now : Int} :
    control.hostSilent now = true ↔
      control.state = .stationConnected ∧
        relayPeerTimeoutTicks ≤ now - control.hostLastSeen := by
  unfold hostSilent
  simp only [Bool.and_eq_true, decide_eq_true_eq]

/-! ## What the helpers do to the watch -/

@[simp]
theorem hostWatch_setState (control : LdnControl) (state : CommState) :
    (control.setState state).hostWatch = control.hostWatch := by
  unfold setState
  split <;> rfl

@[simp]
theorem hostWatch_sendFrame (control : LdnControl) (env : Env)
    (dst : UInt32) (type : LanPacketType) (body : List UInt8) :
    (control.sendFrame env dst type body).control.hostWatch =
      control.hostWatch := by
  rw [sendFrame_control]
  rfl

@[simp]
theorem hostWatch_resetStations (control : LdnControl) :
    control.resetStations.hostWatch = control.hostWatch :=
  rfl

@[simp]
theorem hostWatch_updateNodes (control : LdnControl) (env : Env) :
    (control.updateNodes env).control.hostWatch = control.hostWatch := by
  rw [updateNodes_control]
  rfl

@[simp]
theorem hostWatch_enterLocalNetworkMode (control : LdnControl)
    (env : Env) :
    (control.enterLocalNetworkMode env).2.hostWatch =
      control.hostWatch := by
  rcases control.enterLocalNetworkMode_shape env with
    ⟨nifm, savedMtu, mode, shape⟩
  rw [shape]
  rfl

@[simp]
theorem hostWatch_leaveLocalNetworkMode (control : LdnControl)
    (env : Env) :
    (control.leaveLocalNetworkMode env).hostWatch = control.hostWatch := by
  rcases control.leaveLocalNetworkMode_shape env with ⟨nifm, mode, shape⟩
  rw [shape]
  rfl

@[simp]
theorem hostWatch_noteSyncSeq (control : LdnControl) (seq : UInt16) :
    (control.noteSyncSeq seq).hostWatch = control.hostWatch := by
  unfold noteSyncSeq
  split <;> rfl

/-- A lost host leaves its reason. -/
@[simp]
theorem hostWatch_loseHost (control : LdnControl) (reason : UInt32) :
    (control.loseHost reason).hostWatch =
      { control.hostWatch with disconnectReason := reason } := by
  unfold loseHost
  rw [hostWatch_setState]
  rfl

theorem hostWatch_dropSilentHost (control : LdnControl) (now : Int) :
    (control.dropSilentHost now).hostWatch =
      { control.hostWatch with
        disconnectReason :=
          if control.hostSilent now then 6
          else control.disconnectReason } := by
  unfold dropSilentHost
  by_cases silent : control.hostSilent now = true
  · rw [if_pos (hostSilent_iff.mp silent), if_pos silent,
      hostWatch_loseHost]
  · rw [if_neg (mt hostSilent_iff.mpr silent), if_neg silent]
    rfl

/-- An applied sync is a sign of life. -/
theorem hostWatch_applySync (control : LdnControl) (env : Env)
    (info : NetworkInfo) :
    (control.applySync env info).control.hostWatch =
      { control.hostWatch with hostLastSeen := env.now } := by
  unfold applySync
  split
  · split
    · exact hostWatch_setState (control.received env info) _
    · rfl
  · rfl

/-! ## What the commands do to the watch -/

theorem hostWatch_openRole (control : LdnControl) (env : Env)
    (role : CommState) :
    (control.openRole env role).control.hostWatch =
      { control.hostWatch with disconnectReason := 0 } := by
  unfold openRole
  dsimp only
  split
  · rfl
  · rw [answer_control, hostWatch_setState, hostWatch_resetStations]
    split
    · rfl
    · rw [hostWatch_enterLocalNetworkMode]
      rfl

theorem hostWatch_closeRole (control : LdnControl) (env : Env) :
    (control.closeRole env).control.hostWatch = control.hostWatch := by
  unfold closeRole
  split
  · rfl
  · rw [answer_control, hostWatch_setState, hostWatch_resetStations,
      hostWatch_leaveLocalNetworkMode]

theorem hostWatch_initializeLdn (control : LdnControl) (env : Env) :
    (control.initializeLdn env).control.hostWatch =
      { control.hostWatch with disconnectReason := 0 } := by
  unfold initializeLdn
  dsimp only
  rw [answer_control, hostWatch_setState]
  exact hostWatch_leaveLocalNetworkMode ..

theorem hostWatch_finalize (control : LdnControl) (env : Env) :
    (control.finalize env).control.hostWatch = control.hostWatch := by
  unfold finalize
  dsimp only
  rw [answer_control, hostWatch_setState, hostWatch_resetStations]
  exact hostWatch_leaveLocalNetworkMode ..

theorem hostWatch_createNetwork (control : LdnControl) (env : Env)
    (data : CreateNetworkConfig) :
    (control.createNetwork env data).control.hostWatch =
      control.hostWatch := by
  unfold createNetwork
  split
  · rfl
  · rw [answer_control, hostWatch_updateNodes, hostWatch_setState]
    rfl

theorem hostWatch_destroyNetwork (control : LdnControl) (env : Env) :
    (control.destroyNetwork env).control.hostWatch =
      control.hostWatch := by
  unfold destroyNetwork
  rw [answer_control, Step.andThen_control, hostWatch_setState,
    hostWatch_resetStations]
  split
  · exact hostWatch_sendFrame ..
  · rfl

theorem hostWatch_disconnect (control : LdnControl) (env : Env) :
    (control.disconnect env).control.hostWatch = control.hostWatch := by
  unfold disconnect
  rw [answer_control, Step.andThen_control, hostWatch_setState,
    hostWatch_resetStations]
  show hostWatch (Step.control (if _ then _ else _)) = _
  split
  · exact hostWatch_sendFrame ..
  · rfl

theorem hostWatch_setAdvertiseData (control : LdnControl) (env : Env)
    (data : List UInt8) :
    (control.setAdvertiseData env data).control.hostWatch =
      control.hostWatch := by
  unfold setAdvertiseData
  split
  · rfl
  · rw [answer_control, Step.after_control, hostWatch_updateNodes]
    rfl

theorem hostWatch_getNetworkInfoLatestUpdate (control : LdnControl)
    (capacity : Nat) :
    (control.getNetworkInfoLatestUpdate capacity).control.hostWatch =
      control.hostWatch := by
  unfold getNetworkInfoLatestUpdate
  split
  · rfl
  · split <;> rfl

/-- Three commands forget the reason, the others leave the watch alone. -/
theorem hostWatch_commandStep (control : LdnControl) (env : Env)
    (command : Command) :
    (System.commandStep control env command).1.control.hostWatch =
      if command.forgets then
        { control.hostWatch with disconnectReason := 0 }
      else control.hostWatch := by
  have query (reply : Reply) :
      (control.whenInNetwork reply).control.hostWatch =
        control.hostWatch :=
    congrArg hostWatch (control.whenInNetwork_control reply)
  cases command with
  | getState => rfl
  | getNetworkInfo => exact query _
  | getIpv4Address => rfl
  | getDisconnectReason => rfl
  | getSecurityParameter => exact query _
  | getNetworkConfig => exact query _
  | attachStateChangeEvent => rfl
  | getNetworkInfoLatestUpdate capacity =>
      exact control.hostWatch_getNetworkInfoLatestUpdate capacity
  | scan filter capacity =>
      unfold System.commandStep
      dsimp only
      split <;> rfl
  | openAccessPoint => exact control.hostWatch_openRole env .accessPoint
  | closeAccessPoint => exact control.hostWatch_closeRole env
  | createNetwork data => exact control.hostWatch_createNetwork env data
  | destroyNetwork => exact control.hostWatch_destroyNetwork env
  | setAdvertiseData data => exact control.hostWatch_setAdvertiseData env data
  | openStation => exact control.hostWatch_openRole env .station
  | closeStation => exact control.hostWatch_closeRole env
  | connect dat data =>
      unfold System.commandStep
      dsimp only
      split
      · rfl
      · split <;> rfl
  | disconnect => exact control.hostWatch_disconnect env
  | initializeLdn => exact control.hostWatch_initializeLdn env
  | finalize => exact control.hostWatch_finalize env

/-! ## What frames and ticks do to the watch -/

/-- The gates of a sync, seen through the watch. -/
theorem hostWatch_handleSyncNetwork (control : LdnControl) (env : Env)
    (body : List UInt8) (seq : UInt16)
    (length : body.length = NetworkInfo.codec.size) :
    (control.handleSyncNetwork env body seq).control.hostWatch =
      if control.acceptsSync (NetworkInfo.codec.decode body) seq then
        { control.hostWatch with hostLastSeen := env.now }
      else control.hostWatch := by
  unfold handleSyncNetwork
  rw [if_neg (not_not.mpr length)]
  by_cases station :
      control.state = .station ∨ control.state = .stationConnected
  · rw [if_neg (by tauto)]
    cases stale : control.staleSync seq with
    | true =>
        rw [if_pos rfl, if_neg (by simp [acceptsSync, stale])]
    | false =>
        rw [if_neg Bool.false_ne_true]
        dsimp only
        rw [noteSyncSeq_joinActive, noteSyncSeq_joinTargetBssid]
        split
        next foreign =>
          rw [if_neg (by simp [acceptsSync, foreign.1, foreign.2])]
          exact hostWatch_noteSyncSeq ..
        next own =>
          have accepted :
              control.acceptsSync (NetworkInfo.codec.decode body) seq =
                true := by
            rw [not_and, ne_eq, not_not] at own
            cases active : control.joinActive with
            | false => simp [acceptsSync, station, stale, active]
            | true => simp [acceptsSync, station, stale, own active]
          rw [if_pos accepted, Step.after_control, hostWatch_applySync,
            hostWatch_noteSyncSeq]
  · rw [if_pos (by tauto), if_neg (by simp [acceptsSync, station])]

section Goodbyes

variable {control : LdnControl} {payload body : List UInt8} {seq : UInt16}

/-- Only a goodbye can be the goodbye of the host. -/
theorem hostLeaves_of_other
    (other : ∀ body seq, openedFrame payload ≠ some (.relayBye, body, seq)) :
    control.hostLeaves payload = false := by
  have none : byeOf payload = none := by
    unfold byeOf
    split
    next body seq opened => exact absurd opened (other body seq)
    · rfl
  rw [hostLeaves, none]
  rfl

theorem hostLeaves_of_bye
    (opened : openedFrame payload = some (.relayBye, body, seq)) :
    control.hostLeaves payload = true ↔
      body.length = RelayHeartbeatPayload.codec.size ∧
        control.state = .stationConnected ∧ control.joinActive = true ∧
          (RelayHeartbeatPayload.codec.decode body).bssid =
              control.joinTargetBssid ∧
            (RelayHeartbeatPayload.codec.decode body).ipv4 =
              (control.networkInfo.ldn.nodes 0).ipv4Address := by
  have bye :
      byeOf payload =
        if body.length = RelayHeartbeatPayload.codec.size then
          some (RelayHeartbeatPayload.codec.decode body)
        else none := by
    rw [byeOf, opened]
  rw [hostLeaves, bye]
  by_cases length : body.length = RelayHeartbeatPayload.codec.size
  · rw [if_pos length, Option.any_some]
    simp [length, and_assoc]
  · rw [if_neg length]
    exact iff_of_false Bool.false_ne_true fun own => length own.1

theorem hostWatch_handleRelayBye (env : Env) (srcIp : UInt32)
    (opened : openedFrame payload = some (.relayBye, body, seq)) :
    (control.handleRelayBye env srcIp body).control.hostWatch =
      if control.hostLeaves payload then
        { control.hostWatch with disconnectReason := 3 }
      else control.hostWatch := by
  simp only [hostLeaves_of_bye opened]
  unfold handleRelayBye
  by_cases length : body.length = RelayHeartbeatPayload.codec.size
  · rw [if_neg (not_not.mpr length)]
    dsimp only
    by_cases connected : control.state = .stationConnected
    · rw [if_pos connected]
      split
      next own =>
        rw [hostWatch_loseHost]
        exact (if_pos ⟨length, connected, own⟩).symm
      next foreign =>
        exact (if_neg fun own => foreign own.2.2).symm
    · rw [if_neg connected]
      refine Eq.trans ?_ (if_neg fun own => connected own.2.1).symm
      split
      · split
        · rfl
        · split
          · rfl
          · rw [Step.after_control, hostWatch_updateNodes]
            rfl
      · rfl
  · rw [if_pos length, if_neg fun own => length own.1]

end Goodbyes

end LdnControl

namespace System

open LdnControl

section Frames

variable {system : System} {env : Env} {srcIp : UInt32}
  {payload body : List UInt8} {seq : UInt16}

theorem appliedBody_of_other
    (other :
      ∀ body seq, openedFrame payload ≠ some (.syncNetwork, body, seq)) :
    system.appliedBody (env, .frame srcIp payload) = none := by
  unfold appliedBody
  dsimp only
  split
  next body seq opened => exact absurd opened (other body seq)
  · rfl

theorem appliedBody_isSome_of_sync
    (opened : openedFrame payload = some (.syncNetwork, body, seq)) :
    (system.appliedBody (env, .frame srcIp payload)).isSome = true ↔
      body.length = NetworkInfo.codec.size ∧
        system.control.acceptsSync (NetworkInfo.codec.decode body) seq =
          true := by
  unfold appliedBody
  dsimp only
  rw [opened]
  dsimp only
  split
  next accepted => exact iff_of_true rfl accepted
  next refused => exact iff_of_false Bool.false_ne_true refused

/-- What a frame makes of the watch: a sign of life, a goodbye, nothing. -/
def frameWatch (system : System) (env : Env) (srcIp : UInt32)
    (payload : List UInt8) : HostWatch :=
  if (system.appliedBody (env, .frame srcIp payload)).isSome then
    { system.control.hostWatch with hostLastSeen := env.now }
  else if system.control.hostLeaves payload then
    { system.control.hostWatch with disconnectReason := 3 }
  else system.control.hostWatch

/-- A frame that is neither a sync nor a goodbye leaves the watch alone. -/
theorem frameWatch_of_other
    (other :
      ∀ type body seq, openedFrame payload = some (type, body, seq) →
        type ≠ .syncNetwork ∧ type ≠ .relayBye) :
    system.frameWatch env srcIp payload = system.control.hostWatch := by
  have unapplied :
      system.appliedBody (env, .frame srcIp payload) = none :=
    appliedBody_of_other fun body seq opened =>
      (other _ body seq opened).1 rfl
  have stays : system.control.hostLeaves payload = false :=
    hostLeaves_of_other fun body seq opened =>
      (other _ body seq opened).2 rfl
  rw [frameWatch, unapplied, stays]
  rfl

theorem hostWatch_onControlFrame (system : System) (env : Env)
    (srcIp : UInt32) (payload : List UInt8) :
    (system.control.onControlFrame env srcIp payload).control.hostWatch =
      system.frameWatch env srcIp payload := by
  rw [onControlFrame_eq, locked_control, Step.after_control]
  cases opened : openedFrame payload with
  | none =>
      rw [frameWatch_of_other fun _ _ _ some => by
        rw [opened] at some
        contradiction]
  | some frame =>
      rcases frame with ⟨type, body, seq⟩
      have other (apart : type ≠ .syncNetwork ∧ type ≠ .relayBye) :
          system.frameWatch env srcIp payload =
            system.control.hostWatch := by
        apply frameWatch_of_other
        intro found _ _ same
        rw [opened, Option.some.injEq, Prod.mk.injEq] at same
        rw [← same.1]
        exact apart
      have apart {kind : LanPacketType} (kinds : type ≠ kind)
          (body' : List UInt8) (seq' : UInt16) :
          openedFrame payload ≠ some (kind, body', seq') := by
        rw [opened]
        intro same
        rw [Option.some.injEq, Prod.mk.injEq] at same
        exact kinds same.1
      cases type with
      | scan =>
          rw [other (by decide)]
          show (system.control.handleScan env srcIp).control.hostWatch = _
          unfold handleScan
          split
          · rfl
          · rw [Step.after_control, hostWatch_sendFrame]
            rfl
      | scanResp =>
          rw [other (by decide)]
          rcases system.control.handleScanResp_control srcIp body with
            ⟨results, count, equality⟩
          show
            (system.control.handleScanResp srcIp body).control.hostWatch = _
          rw [equality]
          rfl
      | connect =>
          rw [other (by decide)]
          show
            (system.control.handleConnect env srcIp
              body).control.hostWatch = _
          unfold handleConnect
          dsimp only
          split_ifs
          · rfl
          · rfl
          · rfl
          · split
            · rfl
            · rw [Step.after_control, hostWatch_updateNodes]
              rfl
      | syncNetwork =>
          show
            (system.control.handleSyncNetwork env body
              seq).control.hostWatch = _
          have stays : system.control.hostLeaves payload = false :=
            hostLeaves_of_other (apart (by decide))
          unfold frameWatch
          simp only [appliedBody_isSome_of_sync opened, stays]
          by_cases length : body.length = NetworkInfo.codec.size
          · rw [system.control.hostWatch_handleSyncNetwork env body seq
              length]
            by_cases accepted :
                system.control.acceptsSync (NetworkInfo.codec.decode body)
                  seq = true
            · rw [if_pos accepted, if_pos ⟨length, accepted⟩]
            · rw [if_neg accepted, if_neg fun both => accepted both.2]
              rfl
          · unfold handleSyncNetwork
            rw [if_pos length, if_neg fun both => length both.1]
            rfl
      | relayHeartbeat =>
          rw [other (by decide)]
          show
            (system.control.handleRelayHeartbeat env srcIp
              body).control.hostWatch = _
          unfold handleRelayHeartbeat
          dsimp only
          split_ifs
          · rfl
          · rfl
          · rfl
          · split <;> rfl
      | relayBye =>
          have unapplied :
              system.appliedBody (env, .frame srcIp payload) = none :=
            appliedBody_of_other (apart (by decide))
          rw [frameWatch, unapplied]
          exact hostWatch_handleRelayBye env srcIp opened

/-- What a step makes of the watch. -/
def watchAfter (system : System) (input : Env × Event) : HostWatch :=
  match input.2 with
  | .command command =>
      if system.phase = .idle ∧ command.forgets then
        { system.control.hostWatch with disconnectReason := 0 }
      else system.control.hostWatch
  | .frame srcIp payload => system.frameWatch input.1 srcIp payload
  | .tick =>
      if input.1.now - system.control.lastBeacon <
          relayBeaconIntervalTicks then
        system.control.hostWatch
      else
        { system.control.hostWatch with
          lastBeacon := input.1.now
          disconnectReason :=
            if system.control.hostSilent input.1.now then 6
            else system.control.disconnectReason }
  | _ => system.control.hostWatch

theorem hostWatch_tick (system : System) (env : Env) :
    (system.control.tick env).control.hostWatch =
      system.watchAfter (env, .tick) := by
  unfold tick watchAfter
  rw [locked_control]
  dsimp only
  by_cases early :
      env.now - system.control.lastBeacon < relayBeaconIntervalTicks
  · rw [if_pos early, if_pos early]
  · have quiet (elsewhere : system.control.state ≠ .stationConnected) :
        system.control.hostSilent env.now = false := by
      rw [hostSilent, decide_eq_false elsewhere, Bool.false_and]
    rw [if_neg early, if_neg early]
    by_cases hosting : system.control.state = .accessPointCreated
    · rw [if_pos hosting, quiet (by rw [hosting]; nofun),
        hostWatch_updateNodes]
      rfl
    · rw [if_neg hosting]
      split
      · have sent :
            ((system.control.withBeacon env.now).sendHeartbeat
                env).control.hostWatch =
              (system.control.withBeacon env.now).hostWatch := by
          unfold sendHeartbeat
          split
          · exact hostWatch_sendFrame ..
          · rfl
        have host :=
          sendHeartbeat_host (system.control.withBeacon env.now) env
        have silent :
            ((system.control.withBeacon env.now).sendHeartbeat
                env).control.hostSilent env.now =
              system.control.hostSilent env.now := by
          unfold hostSilent
          rw [host.1, host.2]
          rfl
        have reason :
            ((system.control.withBeacon env.now).sendHeartbeat
                env).control.disconnectReason =
              system.control.disconnectReason :=
          congrArg HostWatch.disconnectReason sent
        rw [Step.andThen_control, hostWatch_dropSilentHost, silent, sent,
          reason]
        rfl
      next outside =>
        rw [quiet fun connected => outside (.inr connected)]
        rfl

theorem hostWatch_ipcStep (system : System) (env : Env) :
    (system.ipcStep env).1.control.hostWatch =
      system.control.hostWatch := by
  have sent (dst : UInt32) (type : LanPacketType) (body : List UInt8) :
      (system.control.sendFrame env dst type body).control.hostWatch =
        system.control.hostWatch :=
    hostWatch_sendFrame ..
  unfold ipcStep
  split
  · rfl
  · exact sent ..
  · dsimp only [enter]
    split
    · exact sent ..
    · rfl
  · rfl
  · rfl
  · exact sent ..
  · dsimp only
    split <;> rfl
  · dsimp only [enter]
    split
    · exact sent ..
    · rfl
  · rfl

/-- Every step of either thread, seen through the watch. -/
theorem hostWatch_next (system : System) (input : Env × Event) :
    (machine.next system input).control.hostWatch =
      system.watchAfter input := by
  rcases input with ⟨env, event⟩
  cases event with
  | command command =>
      unfold watchAfter
      dsimp only
      by_cases idle : system.phase = .idle
      · have forgotten :=
          system.control.hostWatch_commandStep env command
        unfold Machine.next
        rw [next_command env command idle]
        by_cases forgets : command.forgets = true
        · rw [if_pos forgets] at forgotten
          rw [if_pos ⟨idle, forgets⟩]
          exact forgotten
        · rw [if_neg forgets] at forgotten
          rw [if_neg fun both => forgets both.2]
          exact forgotten
      · unfold Machine.next
        rw [next_command_busy env command idle,
          if_neg fun both => idle both.1]
  | ipc => exact system.hostWatch_ipcStep env
  | frame srcIp payload =>
      exact system.hostWatch_onControlFrame env srcIp payload
  | tick => exact system.hostWatch_tick env
  | knownPeer => rfl
  | enterLocalNetworkModePublic =>
      exact hostWatch_enterLocalNetworkMode ..
  | exitLocalNetworkModePublic =>
      exact hostWatch_leaveLocalNetworkMode ..

end Frames

end System

end SlpClient.Ldn
