import SlpClient.Ldn.Commands

/-!
# The session gate of `HandleSyncNetwork`

A station that joins a network records the target's BSSID, and a sync that
names another network is rejected before it is copied in.  The sequence
filter, however, runs before that gate and remembers the counter of every
sync it lets pass.  A foreign sync is therefore inert exactly when it does not
get past the sequence filter with a counter of its own, and only then the
syncs of the joined host are applied as if it had never arrived.
-/

namespace SlpClient.Ldn

open SlpClient.Lib

/-! ## What a datagram carries -/

/-- The network information and the counter of a well-formed sync. -/
def syncOf (payload : List UInt8) : Option (NetworkInfo × UInt16) :=
  match LdnControl.openedFrame payload with
  | some (.syncNetwork, body, seq) =>
      if body.length = NetworkInfo.codec.size then
        some (NetworkInfo.codec.decode body, seq)
      else none
  | _ => none

/-- The payload of a well-formed goodbye. -/
def byeOf (payload : List UInt8) : Option RelayHeartbeatPayload :=
  match LdnControl.openedFrame payload with
  | some (.relayBye, body, _) =>
      if body.length = RelayHeartbeatPayload.codec.size then
        some (RelayHeartbeatPayload.codec.decode body)
      else none
  | _ => none

/-- A sync or a goodbye of the network with the given BSSID. -/
def OfNetwork (bssid : MacAddress) (payload : List UInt8) : Prop :=
  (∃ info seq, syncOf payload = some (info, seq) ∧
    info.common.bssid = bssid) ∨
  ∃ bye, byeOf payload = some bye ∧ bye.bssid = bssid

theorem syncOf_eq_some {payload : List UInt8} {info : NetworkInfo}
    {seq : UInt16} (carried : syncOf payload = some (info, seq)) :
    ∃ body,
      LdnControl.openedFrame payload = some (.syncNetwork, body, seq) ∧
        body.length = NetworkInfo.codec.size ∧
        NetworkInfo.codec.decode body = info := by
  unfold syncOf at carried
  split at carried
  · rename_i body carriedSeq opened
    split at carried
    · rename_i length
      simp only [Option.some.injEq, Prod.mk.injEq] at carried
      rcases carried with ⟨rfl, rfl⟩
      exact ⟨body, opened, length, rfl⟩
    · simp at carried
  · simp at carried

/-- A built sync frame carries its information and counter. -/
theorem syncOf_frameBytes (info : NetworkInfo) (seq : UInt16) :
    syncOf
        (frameBytes .syncNetwork seq (NetworkInfo.codec.encode info)) =
      some (info, seq) := by
  have length := NetworkInfo.codec.encode_length info
  rw [syncOf, LdnControl.openedFrame_frameBytes _ _ _ (le_of_eq length)]
  simp only [length, if_true, ByteCodec.decode_encode]

namespace LdnControl

/-! ## Joined stations -/

/-- A station that joins a network, or has joined it. -/
structure Joined (control : LdnControl) : Prop where
  active : control.joinActive = true
  station :
    control.state = .station ∨ control.state = .stationConnected

theorem Joined.not_hosting {control : LdnControl}
    (joined : control.Joined) : control.state ≠ .accessPointCreated := by
  rcases joined.station with station | connected
  · simp [station]
  · simp [connected]

/-- The gates of `HandleSyncNetwork` let this sync through to be copied in. -/
def acceptsSync (control : LdnControl) (info : NetworkInfo)
    (seq : UInt16) : Bool :=
  decide (control.state = .station ∨ control.state = .stationConnected) &&
    !control.staleSync seq &&
    !(control.joinActive &&
      decide (info.common.bssid ≠ control.joinTargetBssid))

/-- An applied sync finds a station. -/
theorem acceptsSync_station {control : LdnControl} {info : NetworkInfo}
    {seq : UInt16} (accepted : control.acceptsSync info seq = true) :
    control.state = .station ∨ control.state = .stationConnected := by
  unfold acceptsSync at accepted
  simp only [Bool.and_eq_true, decide_eq_true_eq] at accepted
  exact accepted.1.1

/-- It has passed the sequence filter and the session gate. -/
theorem acceptsSync_gates {control : LdnControl} {info : NetworkInfo}
    {seq : UInt16} (accepted : control.acceptsSync info seq = true) :
    control.staleSync seq = false ∧
      ¬ (control.joinActive = true ∧
        info.common.bssid ≠ control.joinTargetBssid) := by
  unfold acceptsSync at accepted
  simp only [Bool.and_eq_true, Bool.not_eq_true', Bool.and_eq_false_iff,
    decide_eq_false_iff_not] at accepted
  refine ⟨accepted.1.2, ?_⟩
  rintro ⟨active, other⟩
  rcases accepted.2 with inactive | same
  · rw [active] at inactive
    exact absurd inactive (by decide)
  · exact same other

/-- The counter of a sync makes no difference to the sequence filter. -/
def SeqInert (control : LdnControl) (seq : UInt16) : Prop :=
  seq = 0 ∨
    (control.relaySyncSeqValid = true ∧ control.relaySyncSeq - seq < 256)

/-- A counter is inert when the filter drops the sync or does not look. -/
theorem seqInert_iff (control : LdnControl) (seq : UInt16) :
    control.SeqInert seq ↔ seq = 0 ∨ control.staleSync seq = true := by
  unfold SeqInert staleSync
  by_cases unstamped : seq = 0
  · simp [unstamped]
  · simp [unstamped]

/-- The sequence filter remembers nothing new only for inert counters. -/
theorem noteSyncSeq_eq_self_iff (control : LdnControl) (seq : UInt16)
    (fresh : control.staleSync seq = false) :
    control.noteSyncSeq seq = control ↔ control.SeqInert seq := by
  rw [seqInert_iff, fresh]
  constructor
  · intro unchanged
    by_contra changed
    have stamped : seq ≠ 0 := fun unstamped => changed (.inl unstamped)
    have valid : control.relaySyncSeqValid = true := by
      rw [← unchanged]
      simp [noteSyncSeq, stamped]
    have same : control.relaySyncSeq = seq := by
      rw [← unchanged]
      simp [noteSyncSeq, stamped]
    simp [staleSync, stamped, valid, same] at fresh
  · intro inert
    have unstamped : seq = 0 := by
      simpa using inert
    simp [noteSyncSeq, unstamped]

/-! ## Handling one datagram -/

/-- What a well-formed sync leaves behind in the states that read syncs. -/
theorem onControlFrame_sync_control
    (control : LdnControl) (env : Env) (srcIp : UInt32)
    (payload : List UInt8) (info : NetworkInfo) (seq : UInt16)
    (carried : syncOf payload = some (info, seq))
    (station :
      control.state = .station ∨ control.state = .stationConnected) :
    (control.onControlFrame env srcIp payload).control =
      if control.staleSync seq then control
      else if control.joinActive ∧
          info.common.bssid ≠ control.joinTargetBssid then
        control.noteSyncSeq seq
      else ((control.noteSyncSeq seq).applySync env info).control := by
  rcases syncOf_eq_some carried with ⟨body, opened, length, rfl⟩
  have reads :
      ¬ (control.state ≠ .station ∧
        control.state ≠ .stationConnected) := by
    tauto
  rw [onControlFrame_eq, opened]
  simp only [locked_control, Step.after_control, handleFrame,
    handleSyncNetwork, length, ne_eq, not_true, if_false, reads,
    noteSyncSeq_joinActive, noteSyncSeq_joinTargetBssid]
  split
  · rfl
  · split <;> rfl

/-- In the other states a sync is ignored. -/
theorem onControlFrame_sync_ignored
    (control : LdnControl) (env : Env) (srcIp : UInt32)
    (payload : List UInt8) (info : NetworkInfo) (seq : UInt16)
    (carried : syncOf payload = some (info, seq))
    (elsewhere :
      ¬ (control.state = .station ∨
        control.state = .stationConnected)) :
    (control.onControlFrame env srcIp payload).control = control := by
  rcases syncOf_eq_some carried with ⟨body, opened, length, rfl⟩
  rw [not_or] at elsewhere
  rw [onControlFrame_eq, opened]
  simp only [locked_control, Step.after_control, handleFrame,
    handleSyncNetwork]
  rw [if_neg (not_not.2 length), if_pos elsewhere]

/-- The control with other stored scan results. -/
def withScan (control : LdnControl) (results : Fin 8 → NetworkInfo)
    (count : UInt16) : LdnControl :=
  { control with scanResults := results, scanResultCount := count }

/-- Two controls that differ in the stored scan results at most. -/
def SameButScan (control other : LdnControl) : Prop :=
  ∃ results count, other = control.withScan results count

theorem SameButScan.refl (control : LdnControl) :
    control.SameButScan control :=
  ⟨control.scanResults, control.scanResultCount, rfl⟩

/-- A scan response touches the stored scan results only. -/
theorem handleScanResp_control (control : LdnControl) (srcIp : UInt32)
    (body : List UInt8) :
    control.SameButScan (control.handleScanResp srcIp body).control := by
  unfold handleScanResp
  split
  · exact .refl control
  · split
    · exact .refl control
    · simp only
      split
      · exact .refl control
      · split
        · exact ⟨_, _, rfl⟩
        · split
          · exact ⟨_, _, rfl⟩
          · exact .refl control

section WithScan

variable
    (control : LdnControl)
    (results : Fin 8 → NetworkInfo)
    (count : UInt16)

@[simp]
theorem withScan_state :
    (control.withScan results count).state = control.state :=
  rfl

@[simp]
theorem withScan_joinActive :
    (control.withScan results count).joinActive = control.joinActive :=
  rfl

@[simp]
theorem withScan_joinTargetBssid :
    (control.withScan results count).joinTargetBssid =
      control.joinTargetBssid :=
  rfl

@[simp]
theorem withScan_networkInfo :
    (control.withScan results count).networkInfo = control.networkInfo :=
  rfl

@[simp]
theorem withScan_staleSync (seq : UInt16) :
    (control.withScan results count).staleSync seq =
      control.staleSync seq :=
  rfl

@[simp]
theorem withScan_confirmSearch (env : Env) (info : NetworkInfo) :
    (control.withScan results count).confirmSearch env info =
      control.confirmSearch env info :=
  rfl

@[simp]
theorem withScan_received (env : Env) (info : NetworkInfo) :
    (control.withScan results count).received env info =
      (control.received env info).withScan results count :=
  rfl

@[simp]
theorem withScan_onNetworkInfoChanged :
    (control.withScan results count).onNetworkInfoChanged =
      control.onNetworkInfoChanged.withScan results count :=
  rfl

@[simp]
theorem withScan_noteSyncSeq (seq : UInt16) :
    (control.withScan results count).noteSyncSeq seq =
      (control.noteSyncSeq seq).withScan results count := by
  unfold noteSyncSeq
  split <;> rfl

@[simp]
theorem withScan_setState (state : CommState) :
    (control.withScan results count).setState state =
      (control.setState state).withScan results count := by
  unfold setState
  rw [withScan_state]
  split <;> rfl

@[simp]
theorem withScan_applySync (env : Env) (info : NetworkInfo) :
    ((control.withScan results count).applySync env info).control =
      (control.applySync env info).control.withScan results count := by
  unfold applySync
  simp only [withScan_state, withScan_confirmSearch, withScan_received,
    withScan_setState, withScan_onNetworkInfoChanged]
  split_ifs <;> rfl

/-- Handling a sync neither reads nor writes the stored scan results. -/
theorem withScan_handleSyncNetwork (env : Env)
    (body : List UInt8) (seq : UInt16) :
    ((control.withScan results count).handleSyncNetwork env body
        seq).control =
      (control.handleSyncNetwork env body seq).control.withScan results
        count := by
  unfold handleSyncNetwork
  simp only [withScan_state, withScan_staleSync, withScan_noteSyncSeq,
    withScan_joinActive, withScan_joinTargetBssid]
  split_ifs <;> simp

@[simp]
theorem withScan_loseHost (reason : UInt32) :
    (control.withScan results count).loseHost reason =
      (control.loseHost reason).withScan results count :=
  withScan_setState
    (leaveJoin { control with disconnectReason := reason })
    results count .station

/-- Nor does handling a goodbye, unless this console hosts a network. -/
theorem withScan_handleRelayBye (env : Env) (srcIp : UInt32)
    (body : List UInt8)
    (notHosting : control.state ≠ .accessPointCreated) :
    ((control.withScan results count).handleRelayBye env srcIp
        body).control =
      (control.handleRelayBye env srcIp body).control.withScan results
        count := by
  unfold handleRelayBye
  simp only [withScan_state, withScan_joinActive,
    withScan_joinTargetBssid, withScan_networkInfo, notHosting, if_false,
    withScan_loseHost]
  split_ifs <;> rfl

end WithScan

/-- A console that hosts nothing handles a frame alike in both controls. -/
theorem SameButScan.handleFrame {control other : LdnControl}
    (same : control.SameButScan other)
    (notHosting : control.state ≠ .accessPointCreated)
    (env : Env) (srcIp : UInt32) (type : LanPacketType)
    (body : List UInt8) (seq : UInt16) :
    (control.handleFrame env srcIp type body seq).control.SameButScan
      (other.handleFrame env srcIp type body seq).control := by
  rcases same with ⟨results, count, rfl⟩
  cases type with
  | scan =>
      refine ⟨results, count, ?_⟩
      simp [LdnControl.handleFrame, handleScan, notHosting]
  | scanResp =>
      rcases control.handleScanResp_control srcIp body with
        ⟨firstResults, firstCount, first⟩
      rcases (control.withScan results count).handleScanResp_control srcIp
        body with ⟨secondResults, secondCount, second⟩
      refine ⟨secondResults, secondCount, ?_⟩
      simp only [LdnControl.handleFrame, first, second]
      rfl
  | connect =>
      refine ⟨results, count, ?_⟩
      simp [LdnControl.handleFrame, handleConnect, notHosting]
  | syncNetwork =>
      exact
        ⟨results, count,
          control.withScan_handleSyncNetwork results count env body seq⟩
  | relayHeartbeat =>
      refine ⟨results, count, ?_⟩
      simp [LdnControl.handleFrame, handleRelayHeartbeat, notHosting]
  | relayBye =>
      exact
        ⟨results, count,
          control.withScan_handleRelayBye results count env srcIp body
            notHosting⟩

/-- A joined station applies a sync of its target that is not stale. -/
theorem Joined.acceptsSync_iff {control : LdnControl}
    (joined : control.Joined) (info : NetworkInfo) (seq : UInt16) :
    control.acceptsSync info seq = true ↔
      control.staleSync seq = false ∧
        info.common.bssid = control.joinTargetBssid := by
  simp [acceptsSync, joined.active, joined.station]

end LdnControl

/-! ## A station among the datagrams of a relay -/

/-- A datagram handed up by the tunnel, and the environment it meets. -/
structure Arrival where
  env : Env
  srcIp : UInt32
  payload : List UInt8

/-- `LdnControl` fed with one datagram after another. -/
def frameMachine : Machine LdnControl Arrival (List Effect) where
  step control arrival :=
    let handled :=
      control.onControlFrame arrival.env arrival.srcIp arrival.payload
    (handled.control, handled.effects)

/-- The datagram is a sync that gets copied in. -/
def appliesSync (control : LdnControl) (arrival : Arrival) : Bool :=
  match syncOf arrival.payload with
  | some (info, seq) => control.acceptsSync info seq
  | none => false

/-- The syncs that a run of datagrams gets applied, in order. -/
def appliedSyncs (control : LdnControl) (arrivals : List Arrival) :
    List Arrival :=
  frameMachine.selected appliesSync control arrivals

/-- A sync of another network than the joined one. -/
def ForeignSync (control : LdnControl) (arrival : Arrival)
    (info : NetworkInfo) (seq : UInt16) : Prop :=
  syncOf arrival.payload = some (info, seq) ∧
    info.common.bssid ≠ control.joinTargetBssid

/-- A foreign sync leaves a joined station at its counter's trace at most. -/
theorem frameMachine_foreignSync
    {control : LdnControl} (joined : control.Joined)
    {arrival : Arrival} {info : NetworkInfo} {seq : UInt16}
    (foreign : ForeignSync control arrival info seq) :
    frameMachine.next control arrival =
      if control.staleSync seq then control else control.noteSyncSeq seq := by
  have handled :=
    control.onControlFrame_sync_control arrival.env arrival.srcIp
      arrival.payload info seq foreign.1 joined.station
  have gated :
      control.joinActive = true ∧
        info.common.bssid ≠ control.joinTargetBssid :=
    ⟨joined.active, foreign.2⟩
  rw [if_pos gated] at handled
  exact handled

/-- A foreign sync is inert exactly when its counter is. -/
theorem frameMachine_foreignSync_eq_self_iff
    {control : LdnControl} (joined : control.Joined)
    {arrival : Arrival} {info : NetworkInfo} {seq : UInt16}
    (foreign : ForeignSync control arrival info seq) :
    frameMachine.next control arrival = control ↔
      control.SeqInert seq := by
  rw [frameMachine_foreignSync joined foreign]
  cases stale : control.staleSync seq with
  | true => simp [LdnControl.seqInert_iff, stale]
  | false =>
      rw [if_neg Bool.false_ne_true]
      exact control.noteSyncSeq_eq_self_iff seq stale

/-- A joined station applies no foreign sync. -/
theorem appliesSync_foreignSync
    {control : LdnControl} (joined : control.Joined)
    {arrival : Arrival} {info : NetworkInfo} {seq : UInt16}
    (foreign : ForeignSync control arrival info seq) :
    appliesSync control arrival = false := by
  have rejected :
      ¬ control.acceptsSync info seq = true := by
    rw [joined.acceptsSync_iff]
    exact fun accepted => foreign.2 accepted.2
  simpa [appliesSync, foreign.1] using rejected

/-- The conditions on a datagram in the state it arrives in. -/
structure QuietArrival (keep : Arrival → Bool) (control : LdnControl)
    (arrival : Arrival) : Prop where
  /-- The join lasts. -/
  joined : control.Joined
  /-- What is left out belongs to other networks. -/
  dropped :
    keep arrival = false →
      ¬ OfNetwork control.joinTargetBssid arrival.payload
  /-- The counters of foreign syncs are inert. -/
  inert :
    ∀ info seq, ForeignSync control arrival info seq →
      control.SeqInert seq

/-- A datagram of another network leaves a trace in the scan results only. -/
theorem sameButScan_of_dropped
    {keep : Arrival → Bool} {control : LdnControl} {arrival : Arrival}
    (quiet : QuietArrival keep control arrival)
    (dropped : keep arrival = false) :
    control.SameButScan (frameMachine.next control arrival) := by
  have other := quiet.dropped dropped
  have notHosting := quiet.joined.not_hosting
  cases carried : syncOf arrival.payload with
  | some sync =>
      rcases sync with ⟨info, seq⟩
      have foreign : ForeignSync control arrival info seq :=
        ⟨carried, fun target => other (.inl ⟨info, seq, carried, target⟩)⟩
      rw [(frameMachine_foreignSync_eq_self_iff quiet.joined foreign).2
        (quiet.inert info seq foreign)]
      exact .refl control
  | none =>
      change
        control.SameButScan
          (control.onControlFrame arrival.env arrival.srcIp
            arrival.payload).control
      rw [LdnControl.onControlFrame_eq]
      unfold syncOf at carried
      unfold OfNetwork byeOf at other
      split
      · exact .refl control
      · rename_i type body seq opened
        rw [opened] at carried other
        simp only [locked_control, Step.after_control]
        cases type with
        | scan =>
            simpa [LdnControl.handleFrame, LdnControl.handleScan,
              notHosting] using LdnControl.SameButScan.refl control
        | scanResp =>
            exact control.handleScanResp_control arrival.srcIp body
        | connect =>
            simpa [LdnControl.handleFrame, LdnControl.handleConnect,
              notHosting] using LdnControl.SameButScan.refl control
        | syncNetwork =>
            have malformed : body.length ≠ NetworkInfo.codec.size := by
              simpa using carried
            rw [LdnControl.handleFrame, LdnControl.handleSyncNetwork,
              if_pos malformed]
            exact .refl control
        | relayHeartbeat =>
            simpa [LdnControl.handleFrame,
              LdnControl.handleRelayHeartbeat, notHosting] using
              LdnControl.SameButScan.refl control
        | relayBye =>
            have ignored :
                (control.handleRelayBye arrival.env arrival.srcIp
                  body).control = control := by
              unfold LdnControl.handleRelayBye
              by_cases length :
                  body.length = RelayHeartbeatPayload.codec.size
              · have otherBssid :
                    (RelayHeartbeatPayload.codec.decode body).bssid ≠
                      control.joinTargetBssid := by
                  intro target
                  exact other (.inr ⟨_, if_pos length, target⟩)
                simp only [length, ne_eq, not_true, if_false, otherBssid,
                  false_and, and_false, notHosting]
                split <;> rfl
              · rw [if_pos length]
            rw [LdnControl.handleFrame, ignored]
            exact .refl control

/-- Whether a sync is applied does not depend on the scan results. -/
theorem appliesSync_sameButScan {control other : LdnControl}
    (same : control.SameButScan other) (arrival : Arrival) :
    appliesSync control arrival = appliesSync other arrival := by
  rcases same with ⟨results, count, rfl⟩
  unfold appliesSync
  split <;> rfl

/-- Nothing of another network is applied. -/
theorem appliesSync_dropped
    {keep : Arrival → Bool} {control : LdnControl} {arrival : Arrival}
    (quiet : QuietArrival keep control arrival)
    (dropped : keep arrival = false) :
    appliesSync control arrival = false := by
  cases carried : syncOf arrival.payload with
  | none => simp [appliesSync, carried]
  | some sync =>
      rcases sync with ⟨info, seq⟩
      have foreign : ForeignSync control arrival info seq :=
        ⟨carried, fun target =>
          quiet.dropped dropped (.inl ⟨info, seq, carried, target⟩)⟩
      exact appliesSync_foreignSync quiet.joined foreign

/-- Quiet datagrams of other networks do not change what gets applied. -/
theorem appliedSyncs_filter
    {keep : Arrival → Bool} {control : LdnControl}
    {arrivals : List Arrival}
    (quiet :
      frameMachine.EachStep (QuietArrival keep) control arrivals) :
    appliedSyncs control arrivals =
      appliedSyncs control (arrivals.filter keep) := by
  refine
    Machine.selected_filter_of_simulation
      ?_ ?_ (LdnControl.SameButScan.refl control) quiet
  · intro state other arrival same step _
    refine ⟨?_, appliesSync_sameButScan same arrival⟩
    change
      (state.onControlFrame arrival.env arrival.srcIp
        arrival.payload).control.SameButScan
        (other.onControlFrame arrival.env arrival.srcIp
          arrival.payload).control
    rw [LdnControl.onControlFrame_eq, LdnControl.onControlFrame_eq]
    split
    · exact same
    · exact same.handleFrame step.joined.not_hosting _ _ _ _ _
  · intro state other arrival same step dropped
    refine ⟨?_, appliesSync_dropped step dropped⟩
    rcases sameButScan_of_dropped step dropped with
      ⟨results, count, equality⟩
    rcases same with ⟨otherResults, otherCount, rfl⟩
    exact ⟨otherResults, otherCount, by rw [equality]; rfl⟩

/-- The sync frame of a network, as its host sends it. -/
def syncArrival (env : Env) (srcIp : UInt32) (info : NetworkInfo)
    (seq : UInt16) : Arrival where
  env := env
  srcIp := srcIp
  payload := frameBytes .syncNetwork seq (NetworkInfo.codec.encode info)

@[simp]
theorem syncOf_syncArrival (env : Env) (srcIp : UInt32)
    (info : NetworkInfo) (seq : UInt16) :
    syncOf (syncArrival env srcIp info seq).payload = some (info, seq) :=
  syncOf_frameBytes info seq

@[simp]
theorem appliesSync_syncArrival (control : LdnControl) (env : Env)
    (srcIp : UInt32) (info : NetworkInfo) (seq : UInt16) :
    appliesSync control (syncArrival env srcIp info seq) =
      control.acceptsSync info seq := by
  rw [appliesSync, syncOf_syncArrival]

/-- The information with another BSSID. -/
def NetworkInfo.withBssid (info : NetworkInfo) (bssid : MacAddress) :
    NetworkInfo :=
  { info with common := { info.common with bssid := bssid } }

/--
A counter that is not inert costs the joined host a sync: the one that the
host stamped with the same counter.
-/
theorem appliedSyncs_lost
    {control : LdnControl} (joined : control.Joined)
    {arrival : Arrival} {info : NetworkInfo} {seq : UInt16}
    (foreign : ForeignSync control arrival info seq)
    (moved : ¬ control.SeqInert seq) :
    ∃ host : Arrival,
      appliedSyncs control [host] = [host] ∧
        appliedSyncs control [arrival, host] = [] := by
  rw [LdnControl.seqInert_iff, not_or, Bool.not_eq_true] at moved
  rcases moved with ⟨stamped, fresh⟩
  let target := info.withBssid control.joinTargetBssid
  have next := frameMachine_foreignSync joined foreign
  rw [if_neg (by simp [fresh])] at next
  have accepted : control.acceptsSync target seq = true :=
    (joined.acceptsSync_iff target seq).2 ⟨fresh, rfl⟩
  have stale : (control.noteSyncSeq seq).staleSync seq = true := by
    simp [LdnControl.staleSync, LdnControl.noteSyncSeq, stamped]
  have refused :
      (control.noteSyncSeq seq).acceptsSync target seq = false := by
    simp [LdnControl.acceptsSync, stale]
  refine ⟨syncArrival arrival.env arrival.srcIp target seq, ?_, ?_⟩
  · simp [appliedSyncs, Machine.selected, accepted]
  · simp [appliedSyncs, Machine.selected,
      appliesSync_foreignSync joined foreign, next, refused]

/--
For a joined station, a foreign sync is inert, and the syncs of the joined
host are applied as if it had never arrived, exactly when its counter is
inert; and as long as the foreign counters are inert where they arrive, any
interleaving with datagrams of other networks applies the same syncs.
-/
theorem foreignSync_inert_iff_seqInert
    (control : LdnControl) (joined : control.Joined) :
    (∀ arrival info seq, ForeignSync control arrival info seq →
      (frameMachine.next control arrival = control ↔
        control.SeqInert seq) ∧
      ((∀ later,
          appliedSyncs control (arrival :: later) =
            appliedSyncs control later) ↔
        control.SeqInert seq)) ∧
    ∀ keep arrivals,
      frameMachine.EachStep (QuietArrival keep) control arrivals →
        appliedSyncs control arrivals =
          appliedSyncs control (arrivals.filter keep) := by
  refine ⟨?_, fun keep arrivals quiet => appliedSyncs_filter quiet⟩
  intro arrival info seq foreign
  have unchanged := frameMachine_foreignSync_eq_self_iff joined foreign
  refine ⟨unchanged, ?_, ?_⟩
  · intro same
    by_contra moved
    rcases appliedSyncs_lost joined foreign moved with
      ⟨host, applied, lost⟩
    rw [same [host], applied] at lost
    exact List.cons_ne_nil host [] lost
  · intro inert later
    simp [appliedSyncs, Machine.selected,
      appliesSync_foreignSync joined foreign, unchanged.2 inert]

/-- The network of the example runs: one host at `10.13.0.3`. -/
def sampleNetwork : NetworkInfo :=
  { NetworkInfo.zero with
    common := { NetworkInfo.zero.common with bssid := fakeMac 0x0A0D0003 }
    ldn :=
      { LdnNetworkInfo.zero with
        nodeCount := 1
        nodes := fun _ =>
          { NodeInfo.zero with
            ipv4Address := 0x0A0D0003, isConnected := 1 } } }

/-- The system after a game initialized LDN and asked to join a network. -/
def joiningSystem : System :=
  System.machine.run (System.initial 1400)
    [(Env.at 0, .command .initializeLdn),
      (Env.at 0, .command .openStation),
      (Env.at 0, .command (.connect ⟨⟨fun _ => 0⟩, 0⟩ sampleNetwork))]

theorem joiningSystem_joined : joiningSystem.control.Joined :=
  ⟨rfl, .inl rfl⟩

theorem joiningSystem_target :
    joiningSystem.control.joinTargetBssid = fakeMac 0x0A0D0003 :=
  rfl

/-- A sync of the network of another host, at `10.13.0.4`. -/
def otherSync (seq : UInt16) : Arrival :=
  syncArrival (Env.at 0) 0x0A0D0004
    (sampleNetwork.withBssid (fakeMac 0x0A0D0004)) seq

theorem otherSync_foreign (seq : UInt16) :
    ForeignSync joiningSystem.control (otherSync seq)
      (sampleNetwork.withBssid (fakeMac 0x0A0D0004)) seq := by
  unfold otherSync
  refine ⟨syncOf_syncArrival .., ?_⟩
  rw [joiningSystem_target]
  decide

theorem foreignSync_inert_iff_seqInert_joining :
    joiningSystem.control.Joined ∧
      ((∀ later,
          appliedSyncs joiningSystem.control (otherSync 0 :: later) =
            appliedSyncs joiningSystem.control later) ↔
        joiningSystem.control.SeqInert 0) :=
  ⟨joiningSystem_joined,
    ((foreignSync_inert_iff_seqInert joiningSystem.control
      joiningSystem_joined).1 (otherSync 0) _ 0
        (otherSync_foreign 0)).2⟩

/--
A reachable state in which a foreign sync moves the remembered counter, so
that the next sync of the joined host is dropped as stale.
-/
theorem foreignSync_drops_hostSync :
    System.machine.Reachable (System.initial 1400) joiningSystem ∧
      joiningSystem.control.Joined ∧
      ForeignSync joiningSystem.control (otherSync 10)
        (sampleNetwork.withBssid (fakeMac 0x0A0D0004)) 10 ∧
      frameMachine.next joiningSystem.control (otherSync 10) ≠
        joiningSystem.control ∧
      appliedSyncs joiningSystem.control
          [syncArrival (Env.at 0) 0x0A0D0003 sampleNetwork 5] =
        [syncArrival (Env.at 0) 0x0A0D0003 sampleNetwork 5] ∧
      appliedSyncs joiningSystem.control
          [otherSync 10,
            syncArrival (Env.at 0) 0x0A0D0003 sampleNetwork 5] =
        [] := by
  have joined := joiningSystem_joined
  have foreign := otherSync_foreign 10
  have unmoved : ¬ joiningSystem.control.SeqInert 10 := by
    rintro (unstamped | ⟨valid, -⟩)
    · simp at unstamped
    · exact Bool.false_ne_true valid
  have next :
      frameMachine.next joiningSystem.control (otherSync 10) =
        joiningSystem.control.noteSyncSeq 10 :=
    frameMachine_foreignSync joined foreign
  have accepted :
      joiningSystem.control.acceptsSync sampleNetwork 5 = true := by
    rw [joined.acceptsSync_iff, joiningSystem_target]
    exact ⟨rfl, rfl⟩
  have refused :
      (joiningSystem.control.noteSyncSeq 10).acceptsSync sampleNetwork
        5 = false := by
    have stale :
        (joiningSystem.control.noteSyncSeq 10).staleSync 5 = true :=
      rfl
    simp [LdnControl.acceptsSync, stale]
  refine ⟨⟨_, rfl⟩, joined, foreign, ?_, ?_, ?_⟩
  · rw [Ne, frameMachine_foreignSync_eq_self_iff joined foreign]
    exact unmoved
  · simp [appliedSyncs, Machine.selected, accepted]
  · simp [appliedSyncs, Machine.selected,
      appliesSync_foreignSync joined foreign, next, refused]

end SlpClient.Ldn
