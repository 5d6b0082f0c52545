import SlpClient.Ldn.FrameRoundTrip
import SlpClient.Ldn.HostTable
import SlpClient.Ldn.Transitions

/-!
# The syncs that a console sends

Frames leave a console through `SendFrame` only, and syncs through the loop
at the end of `UpdateNodes` only, which visits live stations.  A console
without a room has no live station, so whatever a step sends as a sync is the
network information that a host holds at the end of that step.
-/

namespace SlpClient.Ldn

open SlpClient.Lib

/-- Every frame sent fits a datagram, and every sync among them is good. -/
def SendsOnly (good : List UInt8 → Prop) (effects : List Effect) : Prop :=
  ∀ frame, Effect.send frame ∈ effects →
    frame.body.length ≤ NetworkInfo.codec.size ∧
      (frame.type = .syncNetwork → good frame.body)

section SendsOnly

variable {good : List UInt8 → Prop}

theorem mem_sentFrames {frame : Frame} {effects : List Effect} :
    frame ∈ sentFrames effects ↔ Effect.send frame ∈ effects := by
  unfold sentFrames
  rw [List.mem_filterMap]
  constructor
  · rintro ⟨effect, member, sent⟩
    cases effect with
    | send other =>
        rw [Effect.sent, Option.some.injEq] at sent
        exact sent ▸ member
    | _ => simp [Effect.sent] at sent
  · intro member
    exact ⟨_, member, rfl⟩

/-- Effects among which nothing is sent. -/
theorem sendsOnly_of_sentFrames_nil {effects : List Effect}
    (silent : sentFrames effects = []) : SendsOnly good effects := by
  intro frame sent
  rw [← mem_sentFrames, silent] at sent
  exact absurd sent List.not_mem_nil

@[simp]
theorem sendsOnly_append {first second : List Effect} :
    SendsOnly good (first ++ second) ↔
      SendsOnly good first ∧ SendsOnly good second := by
  constructor
  · intro sends
    exact
      ⟨fun frame sent => sends frame (List.mem_append_left _ sent),
        fun frame sent => sends frame (List.mem_append_right _ sent)⟩
  · rintro ⟨before, later⟩ frame sent
    rcases List.mem_append.mp sent with early | late
    · exact before frame early
    · exact later frame late

theorem SendsOnly.mono {other : List UInt8 → Prop}
    {effects : List Effect} (sends : SendsOnly good effects)
    (weaker : ∀ body, good body → other body) :
    SendsOnly other effects :=
  fun frame sent =>
    ⟨(sends frame sent).1,
      fun sync => weaker _ ((sends frame sent).2 sync)⟩

@[simp]
theorem sendsOnly_nil : SendsOnly good [] :=
  sendsOnly_of_sentFrames_nil rfl

theorem sendsOnly_locked {step : Step}
    (sends : SendsOnly good step.effects) :
    SendsOnly good (locked step).effects := by
  rw [locked_effects, ← List.singleton_append, List.append_assoc,
    sendsOnly_append, sendsOnly_append]
  exact
    ⟨sendsOnly_of_sentFrames_nil rfl, sends,
      sendsOnly_of_sentFrames_nil rfl⟩

namespace LdnControl

theorem sendsOnly_answer {step : Step} {reply : Reply}
    (sends : SendsOnly good step.effects) :
    SendsOnly good (answer step reply).effects := by
  rw [answer, Step.followedBy_effects, sendsOnly_append]
  exact ⟨sendsOnly_locked sends, sendsOnly_of_sentFrames_nil rfl⟩

theorem sendsOnly_answerOnly (control : LdnControl) (reply : Reply) :
    SendsOnly good (control.answerOnly reply).effects :=
  sendsOnly_answer sendsOnly_nil

theorem sendsOnly_sendFrame (control : LdnControl) (env : Env)
    (dst : UInt32) {type : LanPacketType} {body : List UInt8}
    (fits : body.length ≤ NetworkInfo.codec.size)
    (sync : type = .syncNetwork → good body) :
    SendsOnly good (control.sendFrame env dst type body).effects := by
  intro frame sent
  rw [← mem_sentFrames, sentFrames_sendFrame] at sent
  split at sent
  · rw [List.mem_singleton.mp sent]
    exact ⟨fits, sync⟩
  · exact absurd sent List.not_mem_nil

/-! ## Helpers -/

theorem sentFrames_placeStations (control : LdnControl)
    (slots : List (Fin 8)) (nodes : Fin 8 → NodeInfo) (count : Nat) :
    sentFrames (control.placeStations slots nodes count).2.2 = [] := by
  induction slots generalizing nodes count with
  | nil => rfl
  | cons slot rest induction =>
      unfold placeStations
      split
      · exact induction _ _
      · exact induction _ _

theorem sentFrames_buildNetwork (control : LdnControl) :
    sentFrames control.buildNetwork.2 = [] := by
  unfold buildNetwork
  simp [sentFrames_placeStations, Effect.sent]

/-- The sync loop sends the known network, if there is a live station. -/
theorem sendsOnly_syncStations (control : LdnControl) (env : Env)
    (slots : List (Fin 8)) :
    SendsOnly
      (fun body =>
        (∃ slot ∈ slots, (control.stations slot).live = true) ∧
          body = NetworkInfo.codec.encode control.networkInfo)
      (control.syncStations env slots).effects := by
  induction slots generalizing control with
  | nil => exact sendsOnly_nil
  | cons slot rest induction =>
      unfold syncStations
      split
      · rename_i live
        rw [Step.andThen_effects, sendsOnly_append]
        constructor
        · have visited :
              ∃ other ∈ slot :: rest,
                (control.stations other).live = true :=
            ⟨slot, List.mem_cons_self, live⟩
          exact
            control.sendsOnly_sendFrame env _
              (NetworkInfo.codec.encode_length _).le
              fun _ => ⟨visited, Eq.refl _⟩
        · refine (induction _).mono ?_
          rintro body ⟨⟨other, member, alive⟩, same⟩
          rw [sendFrame_control] at alive same
          dsimp only at alive same
          exact ⟨⟨other, List.mem_cons_of_mem _ member, alive⟩, same⟩
      · refine (induction _).mono ?_
        rintro body ⟨⟨other, member, alive⟩, same⟩
        exact ⟨⟨other, List.mem_cons_of_mem _ member, alive⟩, same⟩

/-- `UpdateNodes` sends what it leaves behind. -/
theorem sendsOnly_updateNodes (control : LdnControl) (env : Env) :
    SendsOnly
      (fun body =>
        (∃ slot ∈ stationSlots,
            (control.stations slot).live = true) ∧
          body =
            NetworkInfo.codec.encode
              (control.updateNodes env).control.networkInfo)
      (control.updateNodes env).effects := by
  have known :
      (control.updateNodes env).control.networkInfo =
        control.buildNetwork.1 := by
    rw [updateNodes_control]
    rfl
  rw [known]
  unfold updateNodes
  rw [Step.after_effects, Step.andThen_effects, List.append_nil,
    sendsOnly_append]
  have synced :=
    sendsOnly_syncStations
      { control with networkInfo := control.buildNetwork.1 } env
      stationSlots
  dsimp only at synced
  exact
    ⟨sendsOnly_of_sentFrames_nil control.sentFrames_buildNetwork,
      synced⟩

end LdnControl

end SendsOnly

/-! ## Operations -/

/-- The network information of a host, as it is sent. -/
def HostedBody (control : LdnControl) (body : List UInt8) : Prop :=
  control.state = .accessPointCreated ∧
    body = NetworkInfo.codec.encode control.networkInfo

/-- Syncs that a step sends are those of the host it ends as. -/
def Step.SendsHosted (step : Step) : Prop :=
  SendsOnly (HostedBody step.control) step.effects

theorem Step.SendsHosted.locked {step : Step}
    (sends : step.SendsHosted) : (locked step).SendsHosted :=
  sendsOnly_locked sends

theorem Step.SendsHosted.after {step : Step} {effects : List Effect}
    (silent : sentFrames effects = []) (sends : step.SendsHosted) :
    (Step.after effects step).SendsHosted := by
  unfold SendsHosted
  rw [Step.after_effects, sendsOnly_append]
  exact ⟨sendsOnly_of_sentFrames_nil silent, sends⟩

theorem Step.SendsHosted.of_silent {step : Step}
    (silent : sentFrames step.effects = []) : step.SendsHosted :=
  sendsOnly_of_sentFrames_nil silent

namespace LdnControl

theorem sendsHosted_answer {step : Step} {reply : Reply}
    (sends : step.SendsHosted) : (answer step reply).SendsHosted :=
  sendsOnly_answer sends

theorem sendsHosted_answerOnly (control : LdnControl) (reply : Reply) :
    (control.answerOnly reply).SendsHosted :=
  sendsOnly_answerOnly control reply

/-- A frame that is no sync. -/
theorem sendsHosted_sendFrame (control : LdnControl) (env : Env)
    (dst : UInt32) {type : LanPacketType} {body : List UInt8}
    (fits : body.length ≤ NetworkInfo.codec.size)
    (other : type ≠ .syncNetwork) :
    (control.sendFrame env dst type body).SendsHosted :=
  control.sendsOnly_sendFrame env dst fits fun sync => absurd sync other

theorem relayPayload_fits (control : LdnControl) (bssid : MacAddress) :
    (control.relayPayload bssid).length ≤ NetworkInfo.codec.size := by
  rw [relayPayload, ByteCodec.encode_length, relayHeartbeatPayload_size,
    networkInfo_size]
  decide

/-- Only a host updates nodes while a station is live. -/
theorem sendsHosted_updateNodes {control : LdnControl} (env : Env)
    (hosting :
      (∃ slot ∈ stationSlots, (control.stations slot).live = true) →
        control.state = .accessPointCreated) :
    (control.updateNodes env).SendsHosted := by
  refine (control.sendsOnly_updateNodes env).mono ?_
  rintro body ⟨live, same⟩
  have state :
      (control.updateNodes env).control.state = control.state := by
    rw [updateNodes_control]
    rfl
  exact ⟨state.trans (hosting live), same⟩

/-- In a sound room a live station is an active one. -/
theorem RoomInvariant.hosting_of_live {control : LdnControl}
    (holds : control.RoomInvariant)
    (live :
      ∃ slot ∈ stationSlots, (control.stations slot).live = true) :
    control.state = .accessPointCreated := by
  rcases live with ⟨slot, member, alive⟩
  by_contra elsewhere
  have active : slot ∈ control.activeSlots := by
    rw [mem_activeSlots]
    rw [Station.live, Bool.and_eq_true] at alive
    exact ⟨member, alive.1⟩
  rw [holds.empty elsewhere] at active
  exact absurd active List.not_mem_nil

theorem sendsHosted_openRole (control : LdnControl) (env : Env)
    (role : CommState) : (control.openRole env role).SendsHosted := by
  unfold openRole
  dsimp only
  split
  · exact sendsHosted_answerOnly _ _
  · exact sendsHosted_answer (.of_silent rfl)

theorem sendsHosted_closeRole (control : LdnControl) (env : Env) :
    (control.closeRole env).SendsHosted := by
  unfold closeRole
  split
  · exact sendsHosted_answerOnly _ _
  · exact sendsHosted_answer (.of_silent rfl)

theorem sendsHosted_createNetwork (control : LdnControl) (env : Env)
    (data : CreateNetworkConfig) :
    (control.createNetwork env data).SendsHosted := by
  unfold createNetwork
  split
  · exact sendsHosted_answerOnly _ _
  · refine sendsHosted_answer (sendsHosted_updateNodes env fun _ => ?_)
    exact state_eq_of_core (core_setState _ .accessPointCreated)

theorem sendsHosted_destroyNetwork (control : LdnControl) (env : Env) :
    (control.destroyNetwork env).SendsHosted := by
  unfold destroyNetwork
  apply sendsHosted_answer
  unfold Step.SendsHosted
  rw [Step.andThen_effects, List.append_nil]
  split
  · exact
      control.sendsOnly_sendFrame env _ (control.relayPayload_fits _) nofun
  · exact sendsOnly_nil

theorem sendsHosted_disconnect (control : LdnControl) (env : Env) :
    (control.disconnect env).SendsHosted := by
  unfold disconnect
  apply sendsHosted_answer
  unfold Step.SendsHosted
  rw [Step.andThen_effects, List.append_nil]
  split
  · exact
      control.sendsOnly_sendFrame env _ (control.relayPayload_fits _) nofun
  · exact sendsOnly_nil

theorem sendsHosted_setAdvertiseData {control : LdnControl}
    (holds : control.RoomInvariant) (env : Env) (data : List UInt8) :
    (control.setAdvertiseData env data).SendsHosted := by
  unfold setAdvertiseData
  split
  · exact sendsHosted_answerOnly _ _
  · apply sendsHosted_answer
    apply Step.SendsHosted.after rfl
    exact sendsHosted_updateNodes env holds.hosting_of_live

theorem sendsHosted_getNetworkInfoLatestUpdate (control : LdnControl)
    (capacity : Nat) :
    (control.getNetworkInfoLatestUpdate capacity).SendsHosted := by
  unfold getNetworkInfoLatestUpdate
  split
  · exact sendsHosted_answerOnly _ _
  · split
    · exact sendsHosted_answerOnly _ _
    · exact sendsHosted_answer (.of_silent rfl)

theorem sendsHosted_whenInNetwork (control : LdnControl) (reply : Reply) :
    (control.whenInNetwork reply).SendsHosted := by
  unfold whenInNetwork
  split
  · exact sendsHosted_answerOnly _ _
  · exact sendsHosted_answerOnly _ _

/-! ### Frames -/

theorem sendsHosted_handleScan (control : LdnControl) (env : Env)
    (srcIp : UInt32) : (control.handleScan env srcIp).SendsHosted := by
  unfold handleScan
  split
  · exact .of_silent rfl
  · exact
      .after (sentFrames_buildNetwork _)
        (sendsHosted_sendFrame _ env srcIp
          (NetworkInfo.codec.encode_length _).le nofun)

theorem sendsHosted_handleScanResp (control : LdnControl)
    (srcIp : UInt32) (body : List UInt8) :
    (control.handleScanResp srcIp body).SendsHosted := by
  unfold handleScanResp
  split
  · exact .of_silent rfl
  · split
    · exact .of_silent rfl
    · dsimp only
      split
      · exact .of_silent rfl
      · split
        · exact .of_silent rfl
        · split <;> exact .of_silent rfl

theorem sendsHosted_handleConnect (control : LdnControl) (env : Env)
    (srcIp : UInt32) (body : List UInt8) :
    (control.handleConnect env srcIp body).SendsHosted := by
  unfold handleConnect
  split
  · exact .of_silent rfl
  · rename_i hosting
    rw [not_not] at hosting
    split
    · exact .of_silent rfl
    · split
      · exact .of_silent rfl
      · dsimp only
        split
        · exact .of_silent rfl
        · exact .after rfl (sendsHosted_updateNodes env fun _ => hosting)

theorem sendsHosted_handleRelayHeartbeat (control : LdnControl)
    (env : Env) (srcIp : UInt32) (body : List UInt8) :
    (control.handleRelayHeartbeat env srcIp body).SendsHosted := by
  unfold handleRelayHeartbeat
  split
  · exact .of_silent rfl
  · split
    · exact .of_silent rfl
    · dsimp only
      split
      · exact .of_silent rfl
      · split <;> exact .of_silent rfl

theorem sendsHosted_handleRelayBye (control : LdnControl) (env : Env)
    (srcIp : UInt32) (body : List UInt8) :
    (control.handleRelayBye env srcIp body).SendsHosted := by
  unfold handleRelayBye
  split
  · exact .of_silent rfl
  · dsimp only
    split
    · split <;> exact .of_silent rfl
    · split
      · rename_i hosting
        split
        · exact .of_silent rfl
        · split
          · exact .of_silent rfl
          · exact
              .after rfl (sendsHosted_updateNodes env fun _ => hosting)
      · exact .of_silent rfl

theorem sendsHosted_handleSyncNetwork (control : LdnControl) (env : Env)
    (body : List UInt8) (seq : UInt16) :
    (control.handleSyncNetwork env body seq).SendsHosted := by
  unfold handleSyncNetwork
  split
  · exact .of_silent rfl
  · split
    · exact .of_silent rfl
    · split
      · exact .of_silent rfl
      · dsimp only
        split
        · exact .of_silent rfl
        · apply Step.SendsHosted.after rfl
          unfold applySync
          split
          · split
            · exact .of_silent (sentFrames_searchNodes ..)
            · exact .of_silent (sentFrames_searchNodes ..)
          · exact .of_silent rfl

theorem sentFrames_openAccesses (payload : List UInt8) :
    sentFrames (openAccesses payload) = [] := by
  unfold openAccesses
  split
  · rfl
  · split
    · rfl
    · split
      · split <;> rfl
      · rfl

theorem sendsHosted_onControlFrame (control : LdnControl) (env : Env)
    (srcIp : UInt32) (payload : List UInt8) :
    (control.onControlFrame env srcIp payload).SendsHosted := by
  rw [onControlFrame_eq]
  apply Step.SendsHosted.locked
  apply Step.SendsHosted.after (sentFrames_openAccesses payload)
  split
  · exact .of_silent rfl
  · rename_i type body seq opened
    cases type with
    | scan => exact control.sendsHosted_handleScan env srcIp
    | scanResp => exact control.sendsHosted_handleScanResp srcIp body
    | connect => exact control.sendsHosted_handleConnect env srcIp body
    | syncNetwork =>
        exact control.sendsHosted_handleSyncNetwork env body seq
    | relayHeartbeat =>
        exact control.sendsHosted_handleRelayHeartbeat env srcIp body
    | relayBye => exact control.sendsHosted_handleRelayBye env srcIp body

theorem sendsHosted_tick (control : LdnControl) (env : Env) :
    (control.tick env).SendsHosted := by
  unfold tick
  apply Step.SendsHosted.locked
  split
  · exact .of_silent rfl
  · split
    · rename_i hosting
      exact sendsHosted_updateNodes env fun _ => hosting
    · split
      · unfold Step.SendsHosted
        rw [Step.andThen_effects, List.append_nil]
        unfold sendHeartbeat
        split
        · exact
            sendsOnly_sendFrame _ env _ (relayPayload_fits ..) nofun
        · exact sendsOnly_nil
      · exact .of_silent rfl

/-! ### The two threads -/

theorem sentFrames_collectScan (control : LdnControl)
    (filter : ScanFilter) (capacity : Nat) (indices : List (Fin 8))
    (count : Nat) :
    sentFrames (control.collectScan filter capacity indices count).2 =
      [] := by
  have compared (info : NetworkInfo) :
      sentFrames (ssidAccesses filter info) = [] := by
    unfold ssidAccesses
    split <;> rfl
  induction indices generalizing count with
  | nil => rfl
  | cons index rest induction =>
      unfold collectScan
      split
      · dsimp only
        split
        · simp [Effect.sent, compared, induction]
        · simp [Effect.sent, compared, induction]
      · rfl

end LdnControl

namespace System

open LdnControl

theorem sendsHosted_ipcStep (system : System) (env : Env) :
    SendsOnly (HostedBody (system.ipcStep env).1.control)
      (system.ipcStep env).2 := by
  have nodeFits (node : NodeInfo) :
      (NodeInfo.codec.encode node).length ≤ NetworkInfo.codec.size := by
    rw [ByteCodec.encode_length, nodeInfo_size, networkInfo_size]
    decide
  unfold ipcStep
  dsimp only
  split
  · exact sendsOnly_nil
  · exact sendsHosted_sendFrame _ env _ (Nat.zero_le _) nofun
  · split
    · exact sendsHosted_sendFrame _ env _ (Nat.zero_le _) nofun
    · exact sendsOnly_nil
  · exact Step.SendsHosted.locked (.of_silent rfl)
  · exact sendsHosted_answer (.of_silent (sentFrames_collectScan ..))
  · exact sendsHosted_sendFrame _ env _ (nodeFits _) nofun
  · split
    · exact sendsHosted_answerOnly _ _
    · exact Step.SendsHosted.locked (.of_silent rfl)
  · split
    · exact sendsHosted_sendFrame _ env _ (nodeFits _) nofun
    · exact sendsOnly_nil
  · exact sendsHosted_answer (.of_silent rfl)

theorem sendsHosted_commandStep {control : LdnControl}
    (holds : control.RoomInvariant) (env : Env) (command : Command) :
    SendsOnly (HostedBody (commandStep control env command).1.control)
      (commandStep control env command).2 := by
  cases command with
  | getState => exact sendsHosted_answerOnly _ _
  | getNetworkInfo => exact sendsHosted_whenInNetwork _ _
  | getIpv4Address =>
      exact sendsOnly_append.mpr
        ⟨sendsOnly_locked sendsOnly_nil, sendsOnly_answerOnly _ _⟩
  | getDisconnectReason => exact sendsHosted_answerOnly _ _
  | getSecurityParameter => exact sendsHosted_whenInNetwork _ _
  | getNetworkConfig => exact sendsHosted_whenInNetwork _ _
  | attachStateChangeEvent => exact sendsOnly_of_sentFrames_nil rfl
  | getNetworkInfoLatestUpdate capacity =>
      exact control.sendsHosted_getNetworkInfoLatestUpdate capacity
  | scan filter capacity =>
      unfold commandStep
      dsimp only
      split
      · exact sendsHosted_answerOnly _ _
      · exact Step.SendsHosted.locked (.of_silent rfl)
  | openAccessPoint => exact control.sendsHosted_openRole env _
  | closeAccessPoint => exact control.sendsHosted_closeRole env
  | createNetwork data => exact control.sendsHosted_createNetwork env data
  | destroyNetwork => exact control.sendsHosted_destroyNetwork env
  | setAdvertiseData data =>
      exact sendsHosted_setAdvertiseData holds env data
  | openStation => exact control.sendsHosted_openRole env _
  | closeStation => exact control.sendsHosted_closeRole env
  | connect dat data =>
      unfold commandStep
      dsimp only
      split
      · exact sendsHosted_answerOnly _ _
      · split
        · exact sendsHosted_answerOnly _ _
        · exact Step.SendsHosted.locked (.of_silent rfl)
  | disconnect => exact control.sendsHosted_disconnect env
  | initializeLdn => exact sendsHosted_answer (.of_silent rfl)
  | finalize => exact sendsHosted_answer (.of_silent rfl)

/-- The frames of a step fit, and its syncs are those of a host. -/
theorem sendsHosted_output {system : System}
    (holds : system.control.RoomInvariant) (input : Env × Event) :
    SendsOnly (HostedBody (machine.next system input).control)
      (machine.output system input) := by
  rcases input with ⟨env, event⟩
  cases event with
  | command command =>
      unfold Machine.next Machine.output
      by_cases idle : system.phase = .idle
      · rw [next_command env command idle]
        exact sendsHosted_commandStep holds env command
      · rw [next_command_busy env command idle]
        exact sendsOnly_nil
  | ipc => exact system.sendsHosted_ipcStep env
  | frame srcIp payload =>
      exact system.control.sendsHosted_onControlFrame env srcIp payload
  | tick => exact system.control.sendsHosted_tick env
  | knownPeer ip =>
      apply sendsOnly_of_sentFrames_nil
      change
        sentFrames (system.control.isKnownSessionPeerPublic env ip).2 = []
      simp [isKnownSessionPeerPublic, Effect.sent,
        sentFrames_isKnownSessionPeer]
  | enterLocalNetworkModePublic =>
      exact Step.SendsHosted.locked (.of_silent rfl)
  | exitLocalNetworkModePublic =>
      exact Step.SendsHosted.locked (.of_silent rfl)

end System

end SlpClient.Ldn
