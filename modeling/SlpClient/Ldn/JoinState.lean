import SlpClient.Ldn.SyncGate

/-!
# Connected means joined

The join flag, the join target, the state and the BSSID of the known network
are written by some ten operations on two threads.  `JoinView` keeps just
these four values; every operation of the control plane is described by what
it does to the view.  The intended reading of the flag is the predicate
`JoinView.Sound`.  The steps that keep it are characterized exactly, and so
are the runs that keep it throughout.
-/

namespace SlpClient.Ldn

open SlpClient.Lib

/-! ## The view -/

/-- The part of the control plane that says what this console joined. -/
structure JoinView where
  state : CommState
  active : Bool
  target : MacAddress
  bssid : MacAddress
deriving DecidableEq

namespace JoinView

/--
Connected means joined to the network that is known, and a join belongs to a
station.
-/
structure Sound (view : JoinView) : Prop where
  connected :
    view.state = .stationConnected →
      view.active = true ∧ view.bssid = view.target
  active :
    view.active = true →
      view.state = .station ∨ view.state = .stationConnected

/-- A console without a join is sound as long as it is not connected. -/
theorem sound_of_inactive {view : JoinView}
    (inactive : view.active = false)
    (notConnected : view.state ≠ .stationConnected) : view.Sound where
  connected connected := (notConnected connected).elim
  active active := by simp [inactive] at active

/-- Leaving the station states is sound only without a join. -/
theorem sound_leave_iff (view : JoinView) {state : CommState}
    (notStation : state ≠ .station)
    (notConnected : state ≠ .stationConnected) :
    { view with state := state }.Sound ↔ view.active = false := by
  constructor
  · intro sound
    by_contra active
    rcases sound.active (by simpa using active) with station | connected
    · exact notStation station
    · exact notConnected connected
  · intro inactive
    exact sound_of_inactive inactive notConnected

/-- Being an unconnected station is sound in any case. -/
theorem sound_station (active : Bool) (target bssid : MacAddress) :
    Sound ⟨.station, active, target, bssid⟩ where
  connected connected := by simp at connected
  active _ := .inl rfl

/-- Asking to join is sound for a station that is not joined elsewhere. -/
theorem sound_join_iff (view : JoinView) (target : MacAddress) :
    { view with active := true, target := target }.Sound ↔
      view.state = .station ∨
        (view.state = .stationConnected ∧ view.bssid = target) := by
  constructor
  · intro sound
    rcases sound.active rfl with station | connected
    · exact .inl station
    · exact .inr ⟨connected, (sound.connected connected).2⟩
  · rintro (station | ⟨connected, same⟩)
    · exact
        { connected := fun connected => by simp [station] at connected
          active := fun _ => .inl station }
    · exact
        { connected := fun _ => ⟨rfl, same⟩
          active := fun _ => .inr connected }

/-- Dropping the join is sound unless the station is connected. -/
theorem sound_unjoin_iff (view : JoinView) :
    { view with active := false }.Sound ↔
      view.state ≠ .stationConnected := by
  constructor
  · intro sound connected
    exact Bool.false_ne_true (sound.connected connected).1
  · exact fun notConnected => sound_of_inactive rfl notConnected

/-- A sound console outside the station states has no join. -/
theorem Sound.inactive {view : JoinView} (sound : view.Sound)
    (notStation : view.state ≠ .station)
    (notConnected : view.state ≠ .stationConnected) :
    view.active = false := by
  by_contra active
  rcases sound.active (by simpa using active) with station | connected
  · exact notStation station
  · exact notConnected connected

end JoinView

namespace LdnControl

def joinView (control : LdnControl) : JoinView where
  state := control.state
  active := control.joinActive
  target := control.joinTargetBssid
  bssid := control.networkInfo.common.bssid

theorem joinView_state (control : LdnControl) :
    control.joinView.state = control.state :=
  rfl

/-! ## What the helpers do to the view -/

@[simp]
theorem joinView_setState (control : LdnControl) (state : CommState) :
    (control.setState state).joinView =
      { control.joinView with state := state } := by
  unfold setState
  split
  · rfl
  · rename_i same
    rw [not_not] at same
    subst same
    rfl

@[simp]
theorem joinView_sendFrame (control : LdnControl) (env : Env)
    (dst : UInt32) (type : LanPacketType) (body : List UInt8) :
    (control.sendFrame env dst type body).control.joinView =
      control.joinView := by
  rw [sendFrame_control]
  rfl

@[simp]
theorem joinView_resetStations (control : LdnControl) :
    control.resetStations.joinView = control.joinView :=
  rfl

/-- Rebuilding the node list keeps the BSSID. -/
@[simp]
theorem joinView_updateNodes (control : LdnControl) (env : Env) :
    (control.updateNodes env).control.joinView = control.joinView := by
  rw [updateNodes_control]
  rfl

@[simp]
theorem joinView_enterLocalNetworkMode (control : LdnControl) (env : Env) :
    (control.enterLocalNetworkMode env).2.joinView = control.joinView := by
  rcases control.enterLocalNetworkMode_shape env with
    ⟨nifm, savedMtu, mode, shape⟩
  rw [shape]
  rfl

@[simp]
theorem joinView_leaveLocalNetworkMode (control : LdnControl) (env : Env) :
    (control.leaveLocalNetworkMode env).joinView = control.joinView := by
  rcases control.leaveLocalNetworkMode_shape env with ⟨nifm, mode, shape⟩
  rw [shape]
  rfl

@[simp]
theorem joinView_noteSyncSeq (control : LdnControl) (seq : UInt16) :
    (control.noteSyncSeq seq).joinView = control.joinView := by
  unfold noteSyncSeq
  split <;> rfl

@[simp]
theorem joinView_leaveJoin (control : LdnControl) :
    control.leaveJoin.joinView = { control.joinView with active := false } :=
  rfl

@[simp]
theorem joinView_loseHost (control : LdnControl) (reason : UInt32) :
    (control.loseHost reason).joinView =
      { control.joinView with state := .station, active := false } := by
  unfold loseHost
  rw [joinView_setState]
  rfl

/-- An applied sync replaces the BSSID and may confirm a station. -/
theorem joinView_applySync (control : LdnControl) (env : Env)
    (info : NetworkInfo) :
    (control.applySync env info).control.joinView =
      { control.joinView with
        bssid := info.common.bssid
        state :=
          if control.state = .station ∧
              (control.confirmSearch env info).1 = true then
            .stationConnected
          else control.state } := by
  unfold applySync
  by_cases station : control.state = .station
  · rw [if_pos station]
    by_cases confirmed : (control.confirmSearch env info).1 = true
    · rw [if_pos confirmed, if_pos ⟨station, confirmed⟩]
      exact joinView_setState (control.received env info) _
    · rw [if_neg confirmed, if_neg fun both => confirmed both.2]
      rfl
  · rw [if_neg station, if_neg fun both => station both.1]
    rfl

/-! ## What the commands do to the view -/

theorem joinView_openRole (control : LdnControl) (env : Env)
    (role : CommState) :
    (control.openRole env role).control.joinView =
      if control.state = .none then control.joinView
      else { control.joinView with state := role } := by
  unfold openRole
  dsimp only
  split
  · rfl
  · rw [answer_control, joinView_setState, joinView_resetStations]
    split
    · rfl
    · rw [joinView_enterLocalNetworkMode]
      rfl

theorem joinView_closeRole (control : LdnControl) (env : Env) :
    (control.closeRole env).control.joinView =
      if control.state = .none then control.joinView
      else { control.joinView with state := .initialized } := by
  unfold closeRole
  split
  · rfl
  · simp

theorem joinView_initializeLdn (control : LdnControl) (env : Env) :
    (control.initializeLdn env).control.joinView =
      { control.joinView with state := .initialized } := by
  unfold initializeLdn
  rw [answer_control, joinView_setState]
  exact
    congrArg (fun view => { view with state := CommState.initialized })
      (joinView_leaveLocalNetworkMode _ env)

theorem joinView_finalize (control : LdnControl) (env : Env) :
    (control.finalize env).control.joinView =
      { control.joinView with state := .none, active := false } := by
  unfold finalize
  rw [answer_control, joinView_setState, joinView_resetStations]
  exact
    congrArg
      (fun view =>
        { view with state := CommState.none, active := false })
      (joinView_leaveLocalNetworkMode control env)

theorem joinView_createNetwork (control : LdnControl) (env : Env)
    (data : CreateNetworkConfig) :
    (control.createNetwork env data).control.joinView =
      if control.state = .accessPoint then
        { control.joinView with
          state := .accessPointCreated
          bssid := fakeMac control.ipv4Address }
      else control.joinView := by
  unfold createNetwork
  by_cases hosting : control.state = .accessPoint
  · simp only [hosting, ne_eq, not_true, if_false, if_true,
      answer_control, joinView_updateNodes, joinView_setState]
    rfl
  · simp only [hosting, ne_eq, not_false_eq_true, if_true, if_false,
      answerOnly_control]

theorem joinView_destroyNetwork (control : LdnControl) (env : Env) :
    (control.destroyNetwork env).control.joinView =
      { control.joinView with state := .accessPoint } := by
  unfold destroyNetwork
  rw [answer_control, Step.andThen_control, joinView_setState,
    joinView_resetStations]
  split
  · rw [joinView_sendFrame]
  · rfl

theorem joinView_setAdvertiseData (control : LdnControl) (env : Env)
    (data : List UInt8) :
    (control.setAdvertiseData env data).control.joinView =
      control.joinView := by
  unfold setAdvertiseData
  split
  · rfl
  · rw [answer_control, Step.after_control, joinView_updateNodes]
    rfl

theorem joinView_disconnect (control : LdnControl) (env : Env) :
    (control.disconnect env).control.joinView =
      { control.joinView with state := .station, active := false } := by
  unfold disconnect
  rw [answer_control, Step.andThen_control, joinView_setState,
    joinView_resetStations, joinView_leaveJoin]
  split
  · rw [joinView_sendFrame]
  · rfl

/-! ## What the run loop does to the view -/

/-- What a sync does to the view. -/
theorem joinView_onControlFrame_sync
    (control : LdnControl) (env : Env) (srcIp : UInt32)
    (payload : List UInt8) (info : NetworkInfo) (seq : UInt16)
    (carried : syncOf payload = some (info, seq)) :
    (control.onControlFrame env srcIp payload).control.joinView =
      if control.acceptsSync info seq then
        { control.joinView with
          bssid := info.common.bssid
          state :=
            if control.state = .station ∧
                (control.confirmSearch env info).1 = true then
              .stationConnected
            else control.state }
      else control.joinView := by
  by_cases station :
      control.state = .station ∨ control.state = .stationConnected
  · rw [control.onControlFrame_sync_control env srcIp payload info seq
      carried station]
    cases stale : control.staleSync seq with
    | true => simp [acceptsSync, stale]
    | false =>
        by_cases foreign :
            control.joinActive = true ∧
              info.common.bssid ≠ control.joinTargetBssid
        · have refused : control.acceptsSync info seq = false := by
            simp [acceptsSync, foreign.1, foreign.2]
          rw [if_neg Bool.false_ne_true, if_pos foreign, refused,
            if_neg Bool.false_ne_true, joinView_noteSyncSeq]
        · have accepted : control.acceptsSync info seq = true := by
            rw [not_and, ne_eq, not_not] at foreign
            cases active : control.joinActive with
            | false => simp [acceptsSync, station, stale, active]
            | true =>
                simp [acceptsSync, station, stale, foreign active]
          rw [if_neg Bool.false_ne_true, if_neg foreign, if_pos accepted,
            joinView_applySync, joinView_noteSyncSeq,
            noteSyncSeq_confirmSearch, noteSyncSeq_state]
  · rw [control.onControlFrame_sync_ignored env srcIp payload info seq
      carried station]
    simp [acceptsSync, station]

theorem joinView_handleScan (control : LdnControl) (env : Env)
    (srcIp : UInt32) :
    (control.handleScan env srcIp).control.joinView =
      control.joinView := by
  unfold handleScan
  split
  · rfl
  · rw [Step.after_control, joinView_sendFrame]
    rfl

theorem joinView_handleScanResp (control : LdnControl) (srcIp : UInt32)
    (body : List UInt8) :
    (control.handleScanResp srcIp body).control.joinView =
      control.joinView := by
  rcases control.handleScanResp_control srcIp body with
    ⟨results, count, equality⟩
  rw [equality]
  rfl

theorem joinView_handleConnect (control : LdnControl) (env : Env)
    (srcIp : UInt32) (body : List UInt8) :
    (control.handleConnect env srcIp body).control.joinView =
      control.joinView := by
  unfold handleConnect
  dsimp only
  split_ifs
  · rfl
  · rfl
  · rfl
  · split
    · rfl
    · rw [Step.after_control, joinView_updateNodes]
      rfl

theorem joinView_handleRelayHeartbeat (control : LdnControl) (env : Env)
    (srcIp : UInt32) (body : List UInt8) :
    (control.handleRelayHeartbeat env srcIp body).control.joinView =
      control.joinView := by
  unfold handleRelayHeartbeat
  dsimp only
  split_ifs
  · rfl
  · rfl
  · rfl
  · split <;> rfl

/-- A goodbye changes nothing here, or ends the join of a station. -/
theorem joinView_handleRelayBye (control : LdnControl) (env : Env)
    (srcIp : UInt32) (body : List UInt8) :
    (control.handleRelayBye env srcIp body).control.joinView =
        control.joinView ∨
      control.state = .stationConnected ∧
        (control.handleRelayBye env srcIp body).control.joinView =
          { control.joinView with state := .station, active := false } := by
  unfold handleRelayBye
  dsimp only
  split_ifs
  · exact .inl rfl
  · rename_i connected _
    exact .inr ⟨connected, joinView_loseHost control 3⟩
  · exact .inl rfl
  · exact .inl rfl
  · refine .inl ?_
    split
    · rfl
    · rw [Step.after_control, joinView_updateNodes]
      rfl
  · exact .inl rfl

/-- What any other datagram does to the view. -/
theorem joinView_onControlFrame_other
    (control : LdnControl) (env : Env) (srcIp : UInt32)
    (payload : List UInt8) (carried : syncOf payload = none) :
    (control.onControlFrame env srcIp payload).control.joinView =
        control.joinView ∨
      control.state = .stationConnected ∧
        (control.onControlFrame env srcIp payload).control.joinView =
          { control.joinView with state := .station, active := false } := by
  rw [onControlFrame_eq, locked_control, Step.after_control]
  split
  · exact .inl rfl
  · rename_i type body seq opened
    cases type with
    | scan => exact .inl (control.joinView_handleScan env srcIp)
    | scanResp => exact .inl (control.joinView_handleScanResp srcIp body)
    | connect =>
        exact .inl (control.joinView_handleConnect env srcIp body)
    | syncNetwork =>
        have malformed : body.length ≠ NetworkInfo.codec.size := by
          simpa [syncOf, opened] using carried
        refine .inl ?_
        rw [handleFrame, handleSyncNetwork, if_pos malformed]
    | relayHeartbeat =>
        exact .inl (control.joinView_handleRelayHeartbeat env srcIp body)
    | relayBye => exact control.joinView_handleRelayBye env srcIp body

/-- What the periodic work does to the view. -/
theorem joinView_tick (control : LdnControl) (env : Env) :
    (control.tick env).control.joinView = control.joinView ∨
      control.state = .stationConnected ∧
        (control.tick env).control.joinView =
          { control.joinView with state := .station, active := false } := by
  have sent :
      ((control.withBeacon env.now).sendHeartbeat
        env).control.joinView = control.joinView := by
    unfold sendHeartbeat
    split
    · exact joinView_sendFrame ..
    · rfl
  unfold tick
  rw [locked_control]
  dsimp only
  split_ifs
  · exact .inl rfl
  · exact .inl (joinView_updateNodes _ env)
  · rw [Step.andThen_control]
    unfold dropSilentHost
    split_ifs with silent
    · have connected : control.state = .stationConnected :=
        (congrArg JoinView.state sent).symm.trans silent.1
      refine .inr ⟨connected, ?_⟩
      rw [joinView_loseHost, sent]
    · exact .inl sent
  · exact .inl rfl

end LdnControl

/-! ## Steps that keep the view sound -/

namespace System

/-- What a command needs to keep the view sound. -/
def CommandKeepsJoin (control : LdnControl) : Command → Prop
  | .initializeLdn => control.joinActive = false
  | .openAccessPoint => control.joinActive = false
  | .closeAccessPoint => control.joinActive = false
  | .closeStation => control.joinActive = false
  | .destroyNetwork => control.joinActive = false
  | .connect _ data =>
      control.state = .none ∨ data.ldn.nodeCount = 0 ∨
        control.state = .station ∨
        (control.state = .stationConnected ∧
          control.networkInfo.common.bssid = data.common.bssid)
  | _ => True

/--
What a step needs to keep the view sound: no command leaves the station
states or retargets them under a join, no timed-out `Connect` finds itself
connected, and no sync confirms a station that did not ask to join.
-/
def KeepsJoin (system : System) (input : Env × Event) : Prop :=
  match input.2 with
  | .command command =>
      system.phase = .idle → CommandKeepsJoin system.control command
  | .ipc =>
      system.phase = .connectTimeout →
        system.control.state ≠ .stationConnected
  | .frame _ payload =>
      ∀ info seq, syncOf payload = some (info, seq) →
        ¬ (system.control.state = .station ∧
          system.control.joinActive = false ∧
          system.control.staleSync seq = false ∧
          (system.control.confirmSearch input.1 info).1 = true)
  | _ => True

/-- A command of the idle IPC thread keeps the view sound exactly then. -/
theorem commandStep_sound_iff
    (control : LdnControl) (env : Env) (command : Command)
    (sound : control.joinView.Sound) :
    (commandStep control env command).1.control.joinView.Sound ↔
      CommandKeepsJoin control command := by
  have refusedInactive (none : control.state = .none) :
      control.joinActive = false :=
    sound.inactive
      (by simp [LdnControl.joinView, none])
      (by simp [LdnControl.joinView, none])
  have leaves {view : JoinView} {state : CommState}
      (after :
        view =
          if control.state = .none then control.joinView
          else { control.joinView with state := state })
      (notStation : state ≠ .station)
      (notConnected : state ≠ .stationConnected) :
      view.Sound ↔ control.joinActive = false := by
    rw [after]
    split
    · rename_i none
      exact iff_of_true sound (refusedInactive none)
    · exact
        control.joinView.sound_leave_iff notStation notConnected
  have query (reply : Reply) :
      (control.whenInNetwork reply).control.joinView.Sound := by
    rw [LdnControl.whenInNetwork_control]
    exact sound
  cases command with
  | getState => exact iff_of_true sound trivial
  | getNetworkInfo => exact iff_of_true (query _) trivial
  | getIpv4Address => exact iff_of_true sound trivial
  | getDisconnectReason => exact iff_of_true sound trivial
  | getSecurityParameter => exact iff_of_true (query _) trivial
  | getNetworkConfig => exact iff_of_true (query _) trivial
  | attachStateChangeEvent => exact iff_of_true sound trivial
  | getNetworkInfoLatestUpdate capacity =>
      refine iff_of_true ?_ trivial
      simp only [commandStep, enter,
        LdnControl.getNetworkInfoLatestUpdate]
      split_ifs <;> exact sound
  | scan filter capacity =>
      refine iff_of_true ?_ trivial
      simp only [commandStep]
      split <;> exact sound
  | openAccessPoint =>
      exact
        leaves (control.joinView_openRole env .accessPoint)
          (by decide) (by decide)
  | closeAccessPoint =>
      exact
        leaves (control.joinView_closeRole env) (by decide) (by decide)
  | closeStation =>
      exact
        leaves (control.joinView_closeRole env) (by decide) (by decide)
  | createNetwork data =>
      refine iff_of_true ?_ trivial
      have after := control.joinView_createNetwork env data
      simp only [commandStep, enter, after]
      split
      · rename_i hosting
        have inactive : control.joinActive = false :=
          sound.inactive
            (by simp [LdnControl.joinView, hosting])
            (by simp [LdnControl.joinView, hosting])
        exact JoinView.sound_of_inactive inactive (by simp)
      · exact sound
  | destroyNetwork =>
      have after := control.joinView_destroyNetwork env
      simp only [commandStep, enter, after]
      exact
        control.joinView.sound_leave_iff (by decide) (by decide)
  | setAdvertiseData data =>
      refine iff_of_true ?_ trivial
      simp only [commandStep, enter, LdnControl.joinView_setAdvertiseData]
      exact sound
  | openStation =>
      refine iff_of_true ?_ trivial
      have after := control.joinView_openRole env .station
      simp only [commandStep, enter, LdnControl.openStation, after]
      split
      · exact sound
      · exact JoinView.sound_station ..
  | connect dat data =>
      simp only [commandStep]
      split
      · rename_i none
        exact iff_of_true sound (.inl none)
      · rename_i initialized
        split
        · rename_i empty
          exact iff_of_true sound (.inr (.inl empty))
        · rename_i nonempty
          have accepted :=
            control.joinView.sound_join_iff data.common.bssid
          simp only [CommandKeepsJoin, initialized, nonempty, false_or]
          exact accepted
  | disconnect =>
      refine iff_of_true ?_ trivial
      simp only [commandStep, enter, LdnControl.joinView_disconnect]
      exact JoinView.sound_station ..
  | initializeLdn =>
      have after := control.joinView_initializeLdn env
      simp only [commandStep, enter, after]
      exact
        control.joinView.sound_leave_iff (by decide) (by decide)
  | finalize =>
      refine iff_of_true ?_ trivial
      simp only [commandStep, enter, LdnControl.joinView_finalize]
      exact JoinView.sound_of_inactive rfl (by simp)

/-- The view while the IPC thread goes on with `Scan` or `Connect`. -/
theorem joinView_ipcStep (system : System) (env : Env) :
    (system.ipcStep env).1.control.joinView =
      if system.phase = .connectTimeout then
        { system.control.joinView with active := false }
      else system.control.joinView := by
  unfold ipcStep
  cases position : system.phase with
  | idle => simp
  | scanBroadcast filter capacity => simp [enter]
  | scanWait filter capacity iteration lastCount stable =>
      simp only [enter, reduceCtorEq, if_false]
      split
      · exact LdnControl.joinView_sendFrame ..
      · rfl
  | scanPoll filter capacity iteration lastCount stable => simp [enter]
  | scanCollect filter capacity =>
      simp [enter, LdnControl.scanCollect]
  | connectSend hostIp my => simp [enter]
  | connectPoll hostIp my iteration =>
      simp only [reduceCtorEq, if_false]
      split <;> rfl
  | connectWait hostIp my iteration =>
      simp only [enter, reduceCtorEq, if_false]
      split
      · exact LdnControl.joinView_sendFrame ..
      · rfl
  | connectTimeout => simp [enter]

/-- A sync keeps the view sound unless it confirms a station without join. -/
theorem onControlFrame_sound_iff
    (control : LdnControl) (env : Env) (srcIp : UInt32)
    (payload : List UInt8) (sound : control.joinView.Sound) :
    (control.onControlFrame env srcIp payload).control.joinView.Sound ↔
      ∀ info seq, syncOf payload = some (info, seq) →
        ¬ (control.state = .station ∧ control.joinActive = false ∧
          control.staleSync seq = false ∧
          (control.confirmSearch env info).1 = true) := by
  cases carried : syncOf payload with
  | none =>
      refine iff_of_true ?_ (by simp)
      rcases control.joinView_onControlFrame_other env srcIp payload
        carried with same | ⟨-, lost⟩
      · rw [same]
        exact sound
      · rw [lost]
        exact JoinView.sound_station ..
  | some sync =>
      rcases sync with ⟨info, seq⟩
      rw [control.joinView_onControlFrame_sync env srcIp payload info seq
        carried]
      have only
          (property : NetworkInfo → UInt16 → Prop) :
          (∀ info' seq', some (info, seq) = some (info', seq') →
            property info' seq') ↔ property info seq := by
        simp
      rw [only]
      by_cases accepted : control.acceptsSync info seq = true
      · rw [if_pos accepted]
        simp only [LdnControl.acceptsSync, Bool.and_eq_true,
          decide_eq_true_eq, Bool.not_eq_true'] at accepted
        rcases accepted with ⟨⟨station, fresh⟩, gate⟩
        have targeted (active : control.joinActive = true) :
            info.common.bssid = control.joinTargetBssid := by
          simpa [active] using gate
        by_cases confirmed :
            control.state = .station ∧
              (control.confirmSearch env info).1 = true
        · rw [if_pos confirmed]
          constructor
          · rintro confirmedSound ⟨-, inactive, -⟩
            have active := (confirmedSound.connected rfl).1
            exact Bool.false_ne_true (inactive.symm.trans active)
          · intro joined
            have active : control.joinActive = true := by
              by_contra inactive
              exact
                joined
                  ⟨confirmed.1, by simpa using inactive, fresh,
                    confirmed.2⟩
            exact
              { connected := fun _ => ⟨active, targeted active⟩
                active := fun _ => .inr rfl }
        · rw [if_neg confirmed]
          refine
            iff_of_true ?_ fun joined =>
              confirmed ⟨joined.1, joined.2.2.2⟩
          exact
            { connected := fun connected =>
                have active := (sound.connected connected).1
                ⟨active, targeted active⟩
              active := fun _ => station }
      · rw [if_neg accepted]
        refine iff_of_true sound ?_
        rintro ⟨station, inactive, fresh, -⟩
        exact
          accepted
            (by simp [LdnControl.acceptsSync, station, inactive, fresh])

/-- One step keeps the view sound exactly when it meets `KeepsJoin`. -/
theorem next_sound_iff (system : System) (input : Env × Event)
    (sound : system.control.joinView.Sound) :
    (machine.next system input).control.joinView.Sound ↔
      KeepsJoin system input := by
  rcases input with ⟨env, event⟩
  cases event with
  | command command =>
      simp only [Machine.next, machine, step, KeepsJoin]
      cases position : system.phase with
      | idle =>
          have idle :=
            commandStep_sound_iff system.control env command sound
          simpa using idle
      | _ => exact iff_of_true sound (by simp)
  | ipc =>
      change (system.ipcStep env).1.control.joinView.Sound ↔ _
      rw [joinView_ipcStep]
      simp only [KeepsJoin]
      split
      · rename_i timeout
        have unjoined := system.control.joinView.sound_unjoin_iff
        rw [unjoined]
        exact
          ⟨fun notConnected _ => notConnected,
            fun notConnected => notConnected timeout⟩
      · rename_i notTimeout
        exact iff_of_true sound fun timeout => (notTimeout timeout).elim
  | frame srcIp payload =>
      exact
        onControlFrame_sound_iff system.control env srcIp payload sound
  | tick =>
      refine iff_of_true ?_ trivial
      change (system.control.tick env).control.joinView.Sound
      rcases system.control.joinView_tick env with same | ⟨-, lost⟩
      · rw [same]
        exact sound
      · rw [lost]
        exact JoinView.sound_station ..
  | knownPeer ip => exact iff_of_true sound trivial
  | enterLocalNetworkModePublic =>
      refine iff_of_true ?_ trivial
      change
        (system.control.enterLocalNetworkMode env).2.joinView.Sound
      rw [LdnControl.joinView_enterLocalNetworkMode]
      exact sound
  | exitLocalNetworkModePublic =>
      refine iff_of_true ?_ trivial
      change (system.control.leaveLocalNetworkMode env).joinView.Sound
      rw [LdnControl.joinView_leaveLocalNetworkMode]
      exact sound

/-- Nothing is joined at boot. -/
theorem initial_sound (mtu : UInt32) :
    (initial mtu).control.joinView.Sound :=
  JoinView.sound_of_inactive rfl
    (by simp [initial, LdnControl.constructed, LdnControl.joinView])

/--
The runs in which connected means joined, throughout, are the runs whose
steps all meet `KeepsJoin`.
-/
theorem connected_joined_iff_keepsJoin
    (mtu : UInt32) (inputs : List (Env × Event)) :
    machine.EachState
        (fun system => system.control.joinView.Sound)
        (initial mtu) inputs ↔
      machine.EachStep KeepsJoin (initial mtu) inputs :=
  Machine.eachState_iff_eachStep next_sound_iff (initial_sound mtu)

/-- The system after a game initialized LDN and opened a station. -/
def stationSystem : System :=
  machine.run (initial 1400)
    [(Env.at 0, .command .initializeLdn),
      (Env.at 0, .command .openStation)]

theorem stationSystem_ipv4Address :
    stationSystem.control.ipv4Address = 0x0A0D2502 := by
  decide

end System

/-- A network that lists the console of the example runs as a member. -/
def welcomingNetwork : NetworkInfo :=
  { sampleNetwork with
    ldn :=
      { sampleNetwork.ldn with
        nodeCount := 2
        nodes := fun index =>
          if index.val = 1 then
            { NodeInfo.zero with
              ipv4Address := 0x0A0D2502, isConnected := 1 }
          else sampleNetwork.ldn.nodes index } }

namespace System

/--
A sync that lists a station's address makes it connected although it never
asked to join anything.
-/
theorem stationConnected_without_join :
    ¬ machine.EachState
        (fun system => system.control.joinView.Sound)
        (initial 1400)
        [(Env.at 0, .command .initializeLdn),
          (Env.at 0, .command .openStation),
          (Env.at 0,
            .frame 0x0A0D0003
              (syncArrival (Env.at 0) 0x0A0D0003 welcomingNetwork
                1).payload)] := by
  rw [Machine.eachState_iff_eachStep next_sound_iff (initial_sound 1400)]
  rintro ⟨-, -, keeps, -⟩
  have confirmed :
      (stationSystem.control.confirmSearch (Env.at 0)
        welcomingNetwork).1 = true := by
    rw [LdnControl.confirmSearch, stationSystem_ipv4Address]
    decide
  exact
    keeps welcomingNetwork 1 (syncOf_syncArrival ..)
      ⟨rfl, rfl, rfl, confirmed⟩

end System

end SlpClient.Ldn
