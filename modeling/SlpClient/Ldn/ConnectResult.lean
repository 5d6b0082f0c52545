import SlpClient.Ldn.JoinState

/-!
# The result of `Connect`

`Connect` polls the state once per iteration and releases the lock in
between, so that frames and ticks interleave with its polls.  A schedule is
any list of steps of both threads; `Connect` returns when a step of the IPC
thread replies, after 300 polls at most.  The result agrees with the state
when `Connect` was not called by a connected station, and no sync that
confirms this console is applied between the last poll and the end of the
timeout.
-/

namespace SlpClient.Ldn

open SlpClient.Lib

/-! ## Replies -/

/-- A query reads and replies nothing. -/
theorem LdnControl.reply_not_mem_isKnownSessionPeerPublic
    (control : LdnControl) (env : Env) (ip : UInt32) (reply : Reply) :
    Effect.reply reply ∉ (control.isKnownSessionPeerPublic env ip).2 := by
  have query :
      Effect.reply reply ∉ (control.isKnownSessionPeer env ip).2 := by
    intro member
    rcases access_of_mem_isKnownSessionPeer member with ⟨entry, same⟩
    nomatch same
  simpa [isKnownSessionPeerPublic] using query

theorem LdnControl.reply_not_mem_tunnelSend
    (control : LdnControl) (env : Env) (dst : UInt32)
    (datagram : List UInt8) (reply : Reply) :
    Effect.reply reply ∉ control.tunnelSend env dst datagram := by
  rcases control.tunnelSend_eq env dst datagram with none | query
  · rw [none]
    exact List.not_mem_nil
  · rw [query]
    apply reply_not_mem_isKnownSessionPeerPublic

/-- Nor does sending a frame. -/
theorem LdnControl.reply_not_mem_sendFrame
    (control : LdnControl) (env : Env) (dst : UInt32)
    (type : LanPacketType) (body : List UInt8) (reply : Reply) :
    Effect.reply reply ∉
      (control.sendFrame env dst type body).effects := by
  unfold sendFrame
  split
  · simp [reply_not_mem_tunnelSend]
  · exact List.not_mem_nil

namespace System

/-! ## Schedules -/

/-- An entry inside the node table lists this console as connected. -/
def ListsSelf (control : LdnControl) (info : NetworkInfo) : Prop :=
  ∃ index : Fin 8,
    index.val < info.ldn.nodeCount.toNat ∧
      NodeInfo.connectedAs control.ipv4Address (info.ldn.nodes index) =
        true

/-- The step applies a sync of the network that lists this console. -/
def Confirms (bssid : MacAddress) (system : System)
    (input : Env × Event) : Prop :=
  ∃ srcIp payload info seq,
    input.2 = .frame srcIp payload ∧
      syncOf payload = some (info, seq) ∧
      system.control.acceptsSync info seq = true ∧
      info.common.bssid = bssid ∧
      ListsSelf system.control info

/-- `Connect` has polled for the last time. -/
def PastLastPoll : IpcPhase → Prop
  | .connectWait _ _ iteration => 299 ≤ iteration
  | .connectTimeout => True
  | _ => False

/-- A position inside `Connect`. -/
def InConnect : IpcPhase → Prop
  | .connectSend _ _ => True
  | .connectPoll _ _ _ => True
  | .connectWait _ _ _ => True
  | .connectTimeout => True
  | _ => False

/-- The steps of a schedule of `Connect` that keep its result in line. -/
structure InTime (system : System) (input : Env × Event) : Prop where
  /-- `Connect` goes on after the step. -/
  inProgress : (machine.next system input).phase ≠ .idle
  /-- A confirming sync lists this console, and the last poll sees it. -/
  confirming :
    ∀ srcIp payload info seq,
      input.2 = .frame srcIp payload →
      syncOf payload = some (info, seq) →
      system.control.acceptsSync info seq = true →
      system.control.state = .station →
      (system.control.confirmSearch input.1 info).1 = true →
        ListsSelf system.control info ∧ ¬ PastLastPoll system.phase

/-- `Connect` returns `result` in this step of the IPC thread. -/
def Returns (system : System) (env : Env) (result : Result) : Prop :=
  Effect.reply (.code result) ∈ machine.output system (env, .ipc)

/-- The result of `Connect` at the end of a schedule agrees with the state. -/
structure Agrees (bssid : MacAddress) (started : System)
    (inputs : List (Env × Event)) (env : Env) : Prop where
  success :
    Returns (machine.run started inputs) env .success →
      machine.SomeStep (Confirms bssid) started inputs ∧
        (machine.next (machine.run started inputs)
          (env, .ipc)).control.state = .stationConnected
  failed :
    Returns (machine.run started inputs) env .connectFailed →
      (machine.next (machine.run started inputs)
        (env, .ipc)).control.state ≠ .stationConnected

/-! ## Steps during `Connect` -/

/-- The IPC thread inside `Connect`: where it goes and what it replies. -/
theorem ipcStep_inConnect (system : System) (env : Env)
    (position : InConnect system.phase) :
    (∃ hostIp my, system.phase = .connectSend hostIp my ∧
      (system.ipcStep env).1.phase = .connectPoll hostIp my 0 ∧
      ∀ result,
        Effect.reply (.code result) ∉ (system.ipcStep env).2) ∨
    (∃ hostIp my iteration,
      system.phase = .connectPoll hostIp my iteration ∧
      system.control.state = .stationConnected ∧
      (system.ipcStep env).1.phase = .idle ∧
      ∀ result,
        Effect.reply (.code result) ∈ (system.ipcStep env).2 →
          result = .success) ∨
    (∃ hostIp my iteration,
      system.phase = .connectPoll hostIp my iteration ∧
      system.control.state ≠ .stationConnected ∧
      (system.ipcStep env).1.phase = .connectWait hostIp my iteration ∧
      ∀ result,
        Effect.reply (.code result) ∉ (system.ipcStep env).2) ∨
    (∃ hostIp my iteration,
      system.phase = .connectWait hostIp my iteration ∧
      (system.ipcStep env).1.phase =
        afterConnectWait hostIp my iteration ∧
      ∀ result,
        Effect.reply (.code result) ∉ (system.ipcStep env).2) ∨
    (system.phase = .connectTimeout ∧
      (system.ipcStep env).1.phase = .idle ∧
      ∀ result,
        Effect.reply (.code result) ∈ (system.ipcStep env).2 →
          result = .connectFailed) := by
  cases located : system.phase with
  | idle => simp [InConnect, located] at position
  | scanBroadcast filter capacity =>
      simp [InConnect, located] at position
  | scanWait filter capacity iteration lastCount stable =>
      simp [InConnect, located] at position
  | scanPoll filter capacity iteration lastCount stable =>
      simp [InConnect, located] at position
  | scanCollect filter capacity =>
      simp [InConnect, located] at position
  | connectSend hostIp my =>
      refine .inl ⟨hostIp, my, rfl, ?_, ?_⟩
      · simp [ipcStep, located, enter]
      · simp [ipcStep, located, enter,
          LdnControl.reply_not_mem_sendFrame]
  | connectPoll hostIp my iteration =>
      by_cases connected : system.control.state = .stationConnected
      · refine
          .inr (.inl ⟨hostIp, my, iteration, rfl, connected, ?_, ?_⟩)
        · simp [ipcStep, located, connected, enter]
        · simp [ipcStep, located, connected, enter,
            LdnControl.answerOnly, LdnControl.answer]
      · refine
          .inr (.inr (.inl
            ⟨hostIp, my, iteration, rfl, connected, ?_, ?_⟩))
        · simp [ipcStep, located, connected, enter]
        · simp [ipcStep, located, connected, enter]
  | connectWait hostIp my iteration =>
      refine .inr (.inr (.inr (.inl ⟨hostIp, my, iteration, rfl, ?_, ?_⟩)))
      · simp [ipcStep, located, enter]
      · intro result
        simp only [ipcStep, located, enter]
        split
        · simp [LdnControl.reply_not_mem_sendFrame]
        · simp
  | connectTimeout =>
      refine .inr (.inr (.inr (.inr ⟨rfl, ?_, ?_⟩)))
      · simp [ipcStep, located, enter]
      · simp [ipcStep, located, enter, LdnControl.answer]

/-- The position of the IPC thread after a step of the other thread. -/
theorem next_phase (system : System) (input : Env × Event)
    (busy : system.phase ≠ .idle) (other : input.2 ≠ .ipc) :
    (machine.next system input).phase = system.phase := by
  rcases input with ⟨env, event⟩
  cases event with
  | command command =>
      simp only [Machine.next, machine, step]
  | ipc => exact (other rfl).elim
  | frame srcIp payload => rfl
  | tick => rfl
  | knownPeer ip => rfl
  | enterLocalNetworkModePublic => rfl
  | exitLocalNetworkModePublic => rfl

theorem next_frame (system : System) (env : Env) (srcIp : UInt32)
    (payload : List UInt8) :
    machine.next system (env, .frame srcIp payload) =
      ⟨(system.control.onControlFrame env srcIp payload).control,
        system.phase⟩ :=
  rfl

/-- A step that `Connect` survives leaves the IPC thread inside of it. -/
theorem inConnect_next (system : System) (input : Env × Event)
    (position : InConnect system.phase)
    (inProgress : (machine.next system input).phase ≠ .idle) :
    InConnect (machine.next system input).phase := by
  have busy : system.phase ≠ .idle := by
    intro idle
    simp [idle, InConnect] at position
  by_cases ipc : input.2 = .ipc
  · rcases input with ⟨env, event⟩
    subst ipc
    change InConnect (system.ipcStep env).1.phase
    rcases ipcStep_inConnect system env position with
      ⟨hostIp, my, -, next, -⟩ | ⟨_, _, _, -, -, next, -⟩ |
      ⟨hostIp, my, iteration, -, -, next, -⟩ |
      ⟨hostIp, my, iteration, -, next, -⟩ | ⟨-, next, -⟩
    · rw [next]
      trivial
    · exact (inProgress next).elim
    · rw [next]
      trivial
    · rw [next, afterConnectWait]
      split <;> trivial
    · exact (inProgress next).elim
  · rw [next_phase system input busy ipc]
    exact position

/-- What a step of the run loop during `Connect` does to the view. -/
theorem joinView_next_of_not_confirming
    (system : System) (input : Env × Event)
    (busy : system.phase ≠ .idle) (other : input.2 ≠ .ipc)
    (notConnected : system.control.state ≠ .stationConnected)
    (unconfirmed :
      ∀ srcIp payload info seq,
        input.2 = .frame srcIp payload →
        syncOf payload = some (info, seq) →
        system.control.acceptsSync info seq = true →
        system.control.state = .station →
        (system.control.confirmSearch input.1 info).1 = false) :
    ∃ bssid,
      (machine.next system input).control.joinView =
        { system.control.joinView with bssid := bssid } := by
  rcases input with ⟨env, event⟩
  cases event with
  | command command =>
      refine ⟨system.control.networkInfo.common.bssid, ?_⟩
      simp only [Machine.next, machine, step]
      rfl
  | ipc => exact (other rfl).elim
  | frame srcIp payload =>
      change
        ∃ bssid,
          (system.control.onControlFrame env srcIp
            payload).control.joinView =
            { system.control.joinView with bssid := bssid }
      cases carried : syncOf payload with
      | none =>
          rcases system.control.joinView_onControlFrame_other env srcIp
            payload carried with same | ⟨connected, -⟩
          · exact ⟨_, same⟩
          · exact (notConnected connected).elim
      | some sync =>
          rcases sync with ⟨info, seq⟩
          rw [system.control.joinView_onControlFrame_sync env srcIp
            payload info seq carried]
          split
          · rename_i accepted
            refine ⟨info.common.bssid, ?_⟩
            rw [if_neg]
            · rfl
            · rintro ⟨station, confirmed⟩
              have refused :=
                unconfirmed srcIp payload info seq rfl carried accepted
                  station
              exact Bool.false_ne_true (refused.symm.trans confirmed)
          · exact ⟨_, rfl⟩
  | tick =>
      rcases system.control.joinView_tick env with
        same | ⟨connected, -⟩
      · exact ⟨_, same⟩
      · exact (notConnected connected).elim
  | knownPeer ip => exact ⟨_, rfl⟩
  | enterLocalNetworkModePublic =>
      exact ⟨_, system.control.joinView_enterLocalNetworkMode env⟩
  | exitLocalNetworkModePublic =>
      exact ⟨_, system.control.joinView_leaveLocalNetworkMode env⟩

/-! ## Success -/

/-- `Connect` is under way and nothing confirmed this console yet. -/
structure Waiting (bssid : MacAddress) (system : System) : Prop where
  position : InConnect system.phase
  notConnected : system.control.state ≠ .stationConnected
  active : system.control.joinActive = true
  target : system.control.joinTargetBssid = bssid

/-- A waiting `Connect` keeps waiting until a sync confirms this console. -/
theorem waiting_next (bssid : MacAddress) (system : System)
    (input : Env × Event) (waiting : Waiting bssid system)
    (inTime : InTime system input) :
    Waiting bssid (machine.next system input) ∨
      Confirms bssid system input := by
  have position :=
    inConnect_next system input waiting.position inTime.inProgress
  have busy : system.phase ≠ .idle := by
    intro idle
    have inside := waiting.position
    simp [idle, InConnect] at inside
  by_cases confirms : Confirms bssid system input
  · exact .inr confirms
  · refine .inl ?_
    have view :
        ∃ known,
          (machine.next system input).control.joinView =
            { system.control.joinView with bssid := known } := by
      by_cases ipc : input.2 = .ipc
      · rcases input with ⟨env, event⟩
        subst ipc
        have after := joinView_ipcStep system env
        by_cases timeout : system.phase = .connectTimeout
        · have ended : (system.ipcStep env).1.phase = .idle := by
            simp [ipcStep, timeout, enter]
          exact (inTime.inProgress ended).elim
        · rw [if_neg timeout] at after
          exact ⟨_, after⟩
      · refine
          joinView_next_of_not_confirming system input busy ipc
            waiting.notConnected ?_
        intro srcIp payload info seq frame carried accepted station
        by_contra confirmed
        rw [Bool.not_eq_false] at confirmed
        have listed :=
          (inTime.confirming srcIp payload info seq frame carried
            accepted station confirmed).1
        have joined : system.control.Joined :=
          ⟨waiting.active, .inl station⟩
        have targeted := ((joined.acceptsSync_iff info seq).1 accepted).2
        exact
          confirms
            ⟨srcIp, payload, info, seq, frame, carried, accepted,
              targeted.trans waiting.target, listed⟩
    rcases view with ⟨known, view⟩
    have sameState :
        (machine.next system input).control.state =
          system.control.state :=
      congrArg JoinView.state view
    have sameActive :
        (machine.next system input).control.joinActive =
          system.control.joinActive :=
      congrArg JoinView.active view
    have sameTarget :
        (machine.next system input).control.joinTargetBssid =
          system.control.joinTargetBssid :=
      congrArg JoinView.target view
    exact
      { position := position
        notConnected := by rw [sameState]; exact waiting.notConnected
        active := sameActive.trans waiting.active
        target := sameTarget.trans waiting.target }

/-! ## Failure -/

/-- `Connect` is under way, and unconnected once it polled the last time. -/
structure Polling (system : System) : Prop where
  position : InConnect system.phase
  late :
    PastLastPoll system.phase →
      system.control.state ≠ .stationConnected

/-- Steps in time keep a late `Connect` unconnected. -/
theorem polling_next (system : System) (input : Env × Event)
    (polling : Polling system) (inTime : InTime system input) :
    Polling (machine.next system input) := by
  have position :=
    inConnect_next system input polling.position inTime.inProgress
  have busy : system.phase ≠ .idle := by
    intro idle
    have inside := polling.position
    simp [idle, InConnect] at inside
  refine ⟨position, ?_⟩
  by_cases ipc : input.2 = .ipc
  · rcases input with ⟨env, event⟩
    subst ipc
    have sameState :
        (system.ipcStep env).1.control.state = system.control.state := by
      have after := joinView_ipcStep system env
      split at after <;> exact congrArg JoinView.state after
    change
      PastLastPoll (system.ipcStep env).1.phase →
        (system.ipcStep env).1.control.state ≠ .stationConnected
    rw [sameState]
    rcases ipcStep_inConnect system env polling.position with
      ⟨hostIp, my, -, next, -⟩ | ⟨_, _, _, -, -, next, -⟩ |
      ⟨hostIp, my, iteration, -, notConnected, next, -⟩ |
      ⟨hostIp, my, iteration, located, next, -⟩ | ⟨-, next, -⟩
    · rw [next]
      exact fun late => late.elim
    · exact (inTime.inProgress next).elim
    · exact fun _ => notConnected
    · rw [next, afterConnectWait]
      split
      · exact fun late => late.elim
      · rename_i finished
        have late : PastLastPoll system.phase := by
          rw [located]
          change 299 ≤ iteration
          omega
        exact fun _ => polling.late late
    · exact (inTime.inProgress next).elim
  · rw [next_phase system input busy ipc]
    intro late
    have notConnected := polling.late late
    rcases joinView_next_of_not_confirming system input busy ipc
      notConnected
      (fun srcIp payload info seq frame carried accepted station => by
        by_contra confirmed
        rw [Bool.not_eq_false] at confirmed
        exact
          (inTime.confirming srcIp payload info seq frame carried accepted
            station confirmed).2 late) with ⟨known, view⟩
    have sameState :
        (machine.next system input).control.state =
          system.control.state :=
      congrArg JoinView.state view
    rw [sameState]
    exact notConnected

/-! ## The result -/

/-- The system after the first section of an accepted `Connect`. -/
def connectStarted (control : LdnControl) (my : NodeInfo)
    (data : NetworkInfo) : System :=
  ⟨control.connectBegin data,
    .connectSend (data.ldn.nodes 0).ipv4Address my⟩

/-- An accepted `Connect` starts like that. -/
theorem next_connect (control : LdnControl) (env : Env)
    (dat : ConnectNetworkData) (data : NetworkInfo)
    (initialized : control.state ≠ .none)
    (nonempty : data.ldn.nodeCount ≠ 0) :
    machine.next ⟨control, .idle⟩ (env, .command (.connect dat data)) =
      connectStarted control (control.joiningNode dat) data := by
  simp [Machine.next, machine, step, commandStep, initialized, nonempty,
    enter, connectStarted]

/-- `Connect` succeeds only when a poll finds the station connected. -/
theorem returns_success (system : System) (env : Env)
    (position : InConnect system.phase)
    (returned : Returns system env .success) :
    system.control.state = .stationConnected ∧
      (machine.next system (env, .ipc)).control.state =
        .stationConnected := by
  rcases ipcStep_inConnect system env position with
    ⟨_, _, -, -, silent⟩ | ⟨_, _, _, located, connected, -, -⟩ |
    ⟨_, _, _, -, -, -, silent⟩ | ⟨_, _, _, -, -, silent⟩ |
    ⟨-, -, only⟩
  · exact (silent _ returned).elim
  · refine ⟨connected, ?_⟩
    have view := joinView_ipcStep system env
    rw [located, if_neg (by simp)] at view
    exact (congrArg JoinView.state view).trans connected
  · exact (silent _ returned).elim
  · exact (silent _ returned).elim
  · exact absurd (only _ returned) (by decide)

/-- `Connect` fails only at the end of its timeout. -/
theorem returns_connectFailed (system : System) (env : Env)
    (position : InConnect system.phase)
    (returned : Returns system env .connectFailed) :
    system.phase = .connectTimeout ∧
      (machine.next system (env, .ipc)).control.state =
        system.control.state := by
  rcases ipcStep_inConnect system env position with
    ⟨_, _, -, -, silent⟩ | ⟨_, _, _, -, -, -, only⟩ |
    ⟨_, _, _, -, -, -, silent⟩ | ⟨_, _, _, -, -, silent⟩ |
    ⟨located, -, -⟩
  · exact (silent _ returned).elim
  · exact absurd (only _ returned) (by decide)
  · exact (silent _ returned).elim
  · exact (silent _ returned).elim
  · refine ⟨located, ?_⟩
    have view := joinView_ipcStep system env
    rw [if_pos located] at view
    exact congrArg JoinView.state view

/-! ## Termination -/

/-- How many steps the IPC thread takes before the timeout, at most. -/
def connectStepsLeft : IpcPhase → Nat
  | .connectSend _ _ => 601
  | .connectPoll _ _ iteration => 2 * (299 - iteration) + 2
  | .connectWait _ _ iteration => 2 * (299 - iteration) + 1
  | _ => 0

/-- After a wait the next iteration begins, or none is left. -/
theorem connectStepsLeft_afterConnectWait (hostIp : UInt32)
    (my : NodeInfo) (iteration : Nat) :
    connectStepsLeft (afterConnectWait hostIp my iteration) <
      2 * (299 - iteration) + 1 := by
  unfold afterConnectWait
  split
  · show 2 * (299 - (iteration + 1)) + 2 < _
    omega
  · exact Nat.succ_pos _

/-- A poll that finds the station connected returns. -/
theorem returns_of_connected {system : System} {hostIp : UInt32}
    {my : NodeInfo} {iteration : Nat} (env : Env)
    (located : system.phase = .connectPoll hostIp my iteration)
    (connected : system.control.state = .stationConnected) :
    Returns system env .success := by
  show Effect.reply (.code .success) ∈ (system.ipcStep env).2
  simp [ipcStep, located, connected, enter, LdnControl.answerOnly,
    LdnControl.answer]

theorem returns_of_timeout {system : System} (env : Env)
    (located : system.phase = .connectTimeout) :
    Returns system env .connectFailed := by
  show Effect.reply (.code .connectFailed) ∈ (system.ipcStep env).2
  simp [ipcStep, located, enter, LdnControl.answer]

/-- Inside of `Connect` every step returns or comes closer to it. -/
theorem connect_progress (system : System) (input : Env × Event)
    (position : InConnect system.phase) :
    (input.2 = .ipc ∧ ∃ result, Returns system input.1 result) ∨
      InConnect (machine.next system input).phase ∧
        connectStepsLeft (machine.next system input).phase +
            (input.2 == .ipc).toNat ≤
          connectStepsLeft system.phase := by
  rcases input with ⟨env, event⟩
  by_cases ipc : event = .ipc
  · subst ipc
    have closer {phase : IpcPhase}
        (next : (system.ipcStep env).1.phase = phase)
        (inside : InConnect phase)
        (lower : connectStepsLeft phase < connectStepsLeft system.phase) :
        InConnect (system.ipcStep env).1.phase ∧
          connectStepsLeft (system.ipcStep env).1.phase + 1 ≤
            connectStepsLeft system.phase := by
      rw [next]
      exact ⟨inside, lower⟩
    rcases ipcStep_inConnect system env position with
      ⟨hostIp, my, located, next, -⟩ |
      ⟨hostIp, my, iteration, located, connected, -, -⟩ |
      ⟨hostIp, my, iteration, located, -, next, -⟩ |
      ⟨hostIp, my, iteration, located, next, -⟩ | ⟨located, -, -⟩
    · rw [located] at closer ⊢
      exact .inr (closer next trivial (Nat.lt_succ_self 600))
    · exact .inl ⟨rfl, .success, returns_of_connected env located connected⟩
    · rw [located] at closer ⊢
      exact .inr (closer next trivial (Nat.lt_succ_self _))
    · rw [located] at closer ⊢
      refine
        .inr (closer next ?_ (connectStepsLeft_afterConnectWait ..))
      unfold afterConnectWait
      split <;> trivial
    · exact .inl ⟨rfl, .connectFailed, returns_of_timeout env located⟩
  · right
    have busy : system.phase ≠ .idle := by
      intro idle
      rw [idle] at position
      exact position
    have same := next_phase system (env, event) busy ipc
    have uncounted : (event == Event.ipc) = false :=
      beq_eq_false_iff_ne.mpr ipc
    rw [same, uncounted]
    exact ⟨position, le_rfl⟩

/--
Whatever else happens, an accepted `Connect` returns within 602 steps of its
thread.
-/
theorem exists_returns_connect (control : LdnControl) (my : NodeInfo)
    (data : NetworkInfo) {inputs : List (Env × Event)}
    (enough : 602 ≤ inputs.countP fun input => input.2 == .ipc) :
    ∃ before env after result,
      inputs = before ++ (env, .ipc) :: after ∧
        Returns (machine.run (connectStarted control my data) before)
          env result := by
  let inside (system : System) : Prop :=
    InConnect system.phase
  let left (system : System) : Nat :=
    connectStepsLeft system.phase
  have begins : inside (connectStarted control my data) := trivial
  have few :
      left (connectStarted control my data) <
        inputs.countP fun input => input.2 == .ipc :=
    enough
  rcases Machine.exists_last_of_measure
    (fun system input (position : inside system) =>
      connect_progress system input position) begins few with
    ⟨before, ⟨env, event⟩, after, rfl, -, rfl, result, returned⟩
  exact ⟨before, env, after, result, rfl, returned⟩

/-! ## Agreement -/

/-- A `Connect` of an unconnected console that runs in time agrees. -/
theorem agrees_of_inTime
    (control : LdnControl) (my : NodeInfo) (data : NetworkInfo)
    (notConnected : control.state ≠ .stationConnected)
    (inputs : List (Env × Event)) (env : Env)
    (inTime :
      machine.EachStep InTime (connectStarted control my data) inputs) :
    Agrees data.common.bssid (connectStarted control my data) inputs
      env := by
  have waiting :
      Waiting data.common.bssid (connectStarted control my data) :=
    ⟨trivial, notConnected, rfl, rfl⟩
  have polling : Polling (connectStarted control my data) :=
    ⟨trivial, fun late => late.elim⟩
  have lastPolling :=
    (Machine.eachState_of_eachStep polling_next polling inTime).last
  constructor
  · intro returned
    have connected :=
      returns_success _ env lastPolling.position returned
    refine ⟨?_, connected.2⟩
    rcases Machine.invariant_or_someStep
      (waiting_next data.common.bssid) waiting inTime with
      still | confirmed
    · exact (still.notConnected connected.1).elim
    · exact confirmed
  · intro returned
    have timeout :=
      returns_connectFailed _ env lastPolling.position returned
    rw [timeout.2]
    apply lastPolling.late
    rw [timeout.1]
    trivial

/-- A connected station that calls `Connect` is told success by a poll. -/
theorem not_agrees_of_connected
    (control : LdnControl) (my : NodeInfo) (data : NetworkInfo)
    (connected : control.state = .stationConnected) (env : Env) :
    machine.EachStep InTime (connectStarted control my data)
        [(env, .ipc)] ∧
      ¬ Agrees data.common.bssid (connectStarted control my data)
        [(env, .ipc)] env := by
  have sameState :
      (machine.next (connectStarted control my data)
        (env, .ipc)).control.state = .stationConnected := by
    have view := joinView_ipcStep (connectStarted control my data) env
    rw [if_neg (by simp [connectStarted])] at view
    exact (congrArg JoinView.state view).trans connected
  refine ⟨⟨⟨?_, ?_⟩, trivial⟩, ?_⟩
  · simp [Machine.next, machine, step, ipcStep, connectStarted, enter]
  · intro srcIp payload info seq frame
    simp at frame
  · intro agrees
    have returned :
        Returns
          (machine.run (connectStarted control my data) [(env, .ipc)])
          env .success := by
      have located :
          (machine.next (connectStarted control my data)
            (env, .ipc)).phase =
            .connectPoll (data.ldn.nodes 0).ipv4Address my 0 := by
        simp [Machine.next, machine, step, ipcStep, connectStarted, enter]
      exact returns_of_connected env located sameState
    rcases (agrees.success returned).1 with
      ⟨before, input, after, split, srcIp, payload, info, seq, frame, -⟩
    have member : input ∈ [(env, Event.ipc)] := by
      rw [split]
      simp
    rw [List.mem_singleton.1 member] at frame
    simp at frame

/--
The result of an accepted `Connect` agrees with the state in every schedule
that runs in time exactly when it was not called by a connected station.
-/
theorem connect_agrees_iff_notConnected
    (control : LdnControl) (env : Env) (dat : ConnectNetworkData)
    (data : NetworkInfo)
    (initialized : control.state ≠ .none)
    (nonempty : data.ldn.nodeCount ≠ 0) :
    (∀ inputs returnEnv,
      machine.EachStep InTime
          (machine.next ⟨control, .idle⟩
            (env, .command (.connect dat data))) inputs →
        Agrees data.common.bssid
          (machine.next ⟨control, .idle⟩
            (env, .command (.connect dat data))) inputs returnEnv) ↔
      control.state ≠ .stationConnected := by
  rw [next_connect control env dat data initialized nonempty]
  constructor
  · intro agrees connected
    have refuted :=
      not_agrees_of_connected control (control.joiningNode dat) data
        connected env
    exact refuted.2 (agrees [(env, .ipc)] env refuted.1)
  · intro notConnected inputs returnEnv inTime
    exact
      agrees_of_inTime control (control.joiningNode dat) data notConnected
        inputs returnEnv inTime

theorem connect_agrees_iff_notConnected_station :
    (∀ inputs returnEnv,
      machine.EachStep InTime
          (machine.next ⟨stationSystem.control, .idle⟩
            (Env.at 0,
              .command (.connect ⟨⟨fun _ => 0⟩, 0⟩ sampleNetwork)))
          inputs →
        Agrees sampleNetwork.common.bssid
          (machine.next ⟨stationSystem.control, .idle⟩
            (Env.at 0,
              .command (.connect ⟨⟨fun _ => 0⟩, 0⟩ sampleNetwork)))
          inputs returnEnv) ↔
      stationSystem.control.state ≠ .stationConnected :=
  connect_agrees_iff_notConnected stationSystem.control (Env.at 0)
    ⟨⟨fun _ => 0⟩, 0⟩ sampleNetwork (by decide) (by decide)

/-- The system after a sync confirmed the station of `stationSystem`. -/
def connectedSystem : System :=
  machine.next stationSystem
    (Env.at 0,
      .frame 0x0A0D0003
        (syncArrival (Env.at 0) 0x0A0D0003 welcomingNetwork 1).payload)

theorem connectedSystem_state :
    connectedSystem.control.state = .stationConnected := by
  have view :=
    stationSystem.control.joinView_onControlFrame_sync (Env.at 0)
      0x0A0D0003 _ welcomingNetwork 1
      (syncOf_syncArrival (Env.at 0) 0x0A0D0003 welcomingNetwork 1)
  have accepted :
      stationSystem.control.acceptsSync welcomingNetwork 1 = true :=
    rfl
  have confirmed :
      stationSystem.control.state = .station ∧
        (stationSystem.control.confirmSearch (Env.at 0)
          welcomingNetwork).1 = true := by
    rw [LdnControl.confirmSearch, stationSystem_ipv4Address]
    decide
  rw [if_pos accepted, if_pos confirmed] at view
  rw [connectedSystem, next_frame, ← LdnControl.joinView_state, view]

theorem connectedSystem_phase : connectedSystem.phase = .idle := by
  rw [connectedSystem, next_frame]
  rfl

/--
A connected station asks to join another network and is told success by the
first poll, although no sync of that network ever arrived.
-/
theorem connect_success_without_sync :
    machine.Reachable (initial 1400) connectedSystem ∧
      connectedSystem.phase = .idle ∧
      ¬ Agrees (fakeMac 0x0A0D0004)
        (machine.next connectedSystem
          (Env.at 0,
            .command
              (.connect ⟨⟨fun _ => 0⟩, 0⟩
                (sampleNetwork.withBssid (fakeMac 0x0A0D0004)))))
        [(Env.at 0, .ipc)] (Env.at 0) := by
  have reachable :
      machine.Reachable (initial 1400) connectedSystem := by
    refine
      ⟨[(Env.at 0, .command .initializeLdn),
        (Env.at 0, .command .openStation)] ++
        [(Env.at 0,
          .frame 0x0A0D0003
            (syncArrival (Env.at 0) 0x0A0D0003 welcomingNetwork
              1).payload)], ?_⟩
    rw [Machine.run_append, Machine.run_cons _ (machine.run _ _),
      Machine.run_nil, connectedSystem, stationSystem]
  have idle := connectedSystem_phase
  refine ⟨reachable, idle, ?_⟩
  have connected := connectedSystem_state
  have started :=
    next_connect connectedSystem.control (Env.at 0) ⟨⟨fun _ => 0⟩, 0⟩
      (sampleNetwork.withBssid (fakeMac 0x0A0D0004))
      (by rw [connected]; decide) (by decide)
  have whole : connectedSystem = ⟨connectedSystem.control, .idle⟩ := by
    rw [← idle]
  rw [whole, started]
  have refuted :=
    not_agrees_of_connected connectedSystem.control
      (connectedSystem.control.joiningNode ⟨⟨fun _ => 0⟩, 0⟩)
      (sampleNetwork.withBssid (fakeMac 0x0A0D0004)) connected (Env.at 0)
  exact refuted.2

end System

end SlpClient.Ldn
