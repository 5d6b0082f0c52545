import SlpClient.Ldn.HostLiveness
import SlpClient.Ldn.HostWatch

/-!
# A host that must be heard

Seen through its state and the time of the last applied sync, a station is a
roster with one place, for its host: accepted syncs that find or make a
connected station keep the host on it, a goodbye of the host takes it off,
and so do the commands that end the connection and a Tick that finds the host
silent for too long.
-/

namespace SlpClient.Ldn

open SlpClient.Lib
open SlpClient.Lib.Liveness (Happening Roster)

namespace System

open LdnControl

/-- The host of a connected station, and when it was heard last. -/
def hostRoster (system : System) : Roster Unit := fun _ =>
  if system.control.state = .stationConnected then
    some system.control.hostLastSeen
  else none

/-- An accepted sync finds a connected station, or makes one. -/
def keepsConnected (system : System) (env : Env) (info : NetworkInfo)
    (seq : UInt16) : Bool :=
  system.control.acceptsSync info seq &&
    (decide (system.control.state = .stationConnected) ||
      (system.control.confirmSearch env info).1)

/-- What an event tells a station about its host. -/
def hostSignal (system : System) (input : Env × Event) :
    Option (Happening Unit) :=
  match input.2 with
  | .frame _ payload =>
      match syncOf payload with
      | some (info, seq) =>
          if system.keepsConnected input.1 info seq then
            some (.join () input.1.now)
          else none
      | none =>
          if system.control.hostLeaves payload then some (.leave ())
          else none
  | .tick =>
      if input.1.now - system.control.lastBeacon <
          relayBeaconIntervalTicks then none
      else some (.sweep input.1.now)
  | .command command =>
      if system.phase = .idle ∧ command.resets system.control.state then
        some .reset
      else none
  | _ => none

section HostRoster

variable {system after : System} {env : Env}

theorem hostRoster_connected
    (connected : after.control.state = .stationConnected) :
    after.hostRoster = fun _ => some after.control.hostLastSeen := by
  unfold hostRoster
  rw [if_pos connected]

theorem hostRoster_elsewhere
    (elsewhere : after.control.state ≠ .stationConnected) :
    after.hostRoster = Roster.empty := by
  unfold hostRoster
  rw [if_neg elsewhere]
  rfl

theorem hostRoster_congr
    (state :
      after.control.state = .stationConnected ↔
        system.control.state = .stationConnected)
    (watch :
      after.control.hostLastSeen = system.control.hostLastSeen) :
    after.hostRoster = system.hostRoster := by
  unfold hostRoster
  simp only [state, watch]

/-- The one place is taken. -/
theorem hostRoster_joined (now : Int) :
    Function.update system.hostRoster () (some now) =
      fun _ => some now := by
  funext place
  rw [Function.update_self]

theorem hostRoster_left :
    Function.update system.hostRoster () none = Roster.empty := by
  funext place
  rw [Function.update_self]
  rfl

/-- A sync in the eyes of a station. -/
theorem hostRoster_sync {srcIp : UInt32} {payload : List UInt8}
    {info : NetworkInfo} {seq : UInt16}
    (carried : syncOf payload = some (info, seq)) :
    (machine.next system (env, .frame srcIp payload)).hostRoster =
      system.hostRoster.follow relayPeerTimeoutTicks
        (system.hostSignal (env, .frame srcIp payload)) := by
  have watch := system.hostWatch_next (env, .frame srcIp payload)
  have state :=
    congrArg JoinView.state
      (system.control.joinView_onControlFrame_sync env srcIp payload info
        seq carried)
  rw [joinView_state] at state
  change
    (machine.next system (env, .frame srcIp payload)).control.state = _
    at state
  have stays : system.control.hostLeaves payload = false := by
    rcases syncOf_eq_some carried with ⟨body, opened, -, -⟩
    apply hostLeaves_of_other
    intro other seq'
    rw [opened]
    nofun
  unfold hostSignal keepsConnected
  dsimp only
  rw [carried]
  dsimp only
  by_cases accepted : system.control.acceptsSync info seq = true
  · have applied :
        system.appliedBody (env, .frame srcIp payload) =
          some (NetworkInfo.codec.encode info) :=
      appliedBody_of_accepted carried accepted
    have heard :
        (machine.next system
            (env, .frame srcIp payload)).control.hostLastSeen = env.now := by
      have seen := congrArg HostWatch.hostLastSeen watch
      unfold watchAfter frameWatch at seen
      dsimp only at seen
      rw [applied] at seen
      exact seen
    rw [if_pos accepted] at state
    dsimp only at state
    rw [accepted, Bool.true_and]
    by_cases connected : system.control.state = .stationConnected
    · rw [decide_eq_true connected, Bool.true_or, if_pos rfl,
        Roster.follow_some, Roster.after, hostRoster_joined,
        hostRoster_connected, heard]
      rw [state, if_neg (by rw [connected]; simp)]
      exact connected
    · have station : system.control.state = .station :=
        (acceptsSync_station accepted).resolve_right connected
      rw [decide_eq_false connected, Bool.false_or]
      by_cases confirmed :
          (system.control.confirmSearch env info).1 = true
      · rw [if_pos confirmed, Roster.follow_some, Roster.after,
          hostRoster_joined, hostRoster_connected, heard]
        rw [state, if_pos ⟨station, confirmed⟩]
      · rw [if_neg confirmed, Roster.follow_none,
          hostRoster_elsewhere connected, hostRoster_elsewhere]
        rw [state, if_neg fun both => confirmed both.2]
        exact connected
  · have unapplied :
        system.appliedBody (env, .frame srcIp payload) = none := by
      rcases syncOf_eq_some carried with ⟨body, opened, length, rfl⟩
      unfold appliedBody
      dsimp only
      rw [opened]
      exact if_neg fun both => accepted both.2
    have kept :
        (machine.next system
            (env, .frame srcIp payload)).control.hostLastSeen =
          system.control.hostLastSeen := by
      have seen := congrArg HostWatch.hostLastSeen watch
      unfold watchAfter frameWatch at seen
      dsimp only at seen
      rw [unapplied, stays] at seen
      exact seen
    rw [if_neg accepted] at state
    have refused : system.control.acceptsSync info seq = false :=
      Bool.eq_false_of_not_eq_true accepted
    rw [refused, Bool.false_and, if_neg Bool.false_ne_true,
      Roster.follow_none]
    apply hostRoster_congr _ kept
    rw [state]
    rfl

/-- A frame that is no sync changes the state by a goodbye of the host. -/
theorem state_of_unsynced {srcIp : UInt32} {payload : List UInt8}
    (unsynced : syncOf payload = none) :
    (system.control.onControlFrame env srcIp payload).control.state =
      if system.control.hostLeaves payload then .station
      else system.control.state := by
  rw [onControlFrame_eq, locked_control, Step.after_control]
  cases opened : openedFrame payload with
  | none =>
      rw [hostLeaves_of_other fun _ _ some => by
        rw [opened] at some
        contradiction]
      rfl
  | some frame =>
      rcases frame with ⟨type, body, seq⟩
      have stays (other : type ≠ .relayBye) :
          system.control.hostLeaves payload = false := by
        apply hostLeaves_of_other
        intro body' seq' bye
        rw [opened, Option.some.injEq, Prod.mk.injEq] at bye
        exact other bye.1
      cases type with
      | scan =>
          rw [stays (by decide)]
          exact
            congrArg JoinView.state
              (system.control.joinView_handleScan env srcIp)
      | scanResp =>
          rw [stays (by decide)]
          exact
            congrArg JoinView.state
              (system.control.joinView_handleScanResp srcIp body)
      | connect =>
          rw [stays (by decide)]
          exact
            congrArg JoinView.state
              (system.control.joinView_handleConnect env srcIp body)
      | syncNetwork =>
          have malformed : body.length ≠ NetworkInfo.codec.size := by
            intro length
            rw [syncOf, opened] at unsynced
            exact absurd unsynced (by simp [length])
          rw [stays (by decide)]
          show
            (system.control.handleSyncNetwork env body
              seq).control.state = _
          unfold handleSyncNetwork
          rw [if_pos malformed]
          rfl
      | relayHeartbeat =>
          rw [stays (by decide)]
          exact
            congrArg JoinView.state
              (system.control.joinView_handleRelayHeartbeat env srcIp body)
      | relayBye =>
          show
            (system.control.handleRelayBye env srcIp body).control.state = _
          by_cases leaves : system.control.hostLeaves payload = true
          · rcases (hostLeaves_of_bye opened).mp leaves with
              ⟨length, connected, own⟩
            rw [if_pos leaves]
            unfold handleRelayBye
            rw [if_neg (not_not.mpr length)]
            dsimp only
            rw [if_pos connected, if_pos own]
            exact
              congrArg JoinView.state
                (system.control.joinView_loseHost 3)
          · rw [if_neg leaves]
            unfold handleRelayBye
            dsimp only
            split_ifs with length connected own
            · rfl
            · exact
                absurd
                  ((hostLeaves_of_bye opened).mpr
                    ⟨not_not.mp length, connected, own⟩)
                  leaves
            · rfl
            · rfl
            · split
              · rfl
              · exact
                  congrArg JoinView.state
                    (joinView_updateNodes (system.control.withStation _ _)
                      env)
            · rfl

theorem hostRoster_unsynced {srcIp : UInt32} {payload : List UInt8}
    (unsynced : syncOf payload = none) :
    (machine.next system (env, .frame srcIp payload)).hostRoster =
      system.hostRoster.follow relayPeerTimeoutTicks
        (system.hostSignal (env, .frame srcIp payload)) := by
  have state :
      (machine.next system (env, .frame srcIp payload)).control.state =
        if system.control.hostLeaves payload then .station
        else system.control.state :=
    state_of_unsynced unsynced
  have unapplied :
      system.appliedBody (env, .frame srcIp payload) = none := by
    cases applied : system.appliedBody (env, .frame srcIp payload) with
    | none => rfl
    | some body =>
        rcases appliedBody_eq_some applied with
          ⟨_, _, _, same, -, carried, -⟩
        cases same
        rw [unsynced] at carried
        contradiction
  unfold hostSignal
  dsimp only
  rw [unsynced]
  dsimp only
  by_cases leaves : system.control.hostLeaves payload = true
  · rw [if_pos leaves] at state
    rw [if_pos leaves, Roster.follow_some, Roster.after, hostRoster_left]
    apply hostRoster_elsewhere
    rw [state]
    decide
  · rw [if_neg leaves] at state
    rw [if_neg leaves, Roster.follow_none]
    apply hostRoster_congr (by rw [state])
    have watch := system.hostWatch_next (env, .frame srcIp payload)
    have seen := congrArg HostWatch.hostLastSeen watch
    unfold watchAfter frameWatch at seen
    dsimp only at seen
    rw [unapplied, if_neg leaves] at seen
    exact seen

/-- Ticks change the state of a connected station by its silent host. -/
theorem state_tick (system : System) (env : Env) :
    (system.control.tick env).control.state =
      if env.now - system.control.lastBeacon <
          relayBeaconIntervalTicks then
        system.control.state
      else if system.control.hostSilent env.now then .station
      else system.control.state := by
  unfold tick
  rw [locked_control]
  by_cases early :
      env.now - system.control.lastBeacon < relayBeaconIntervalTicks
  · rw [if_pos early, if_pos early]
  · have quiet (elsewhere : system.control.state ≠ .stationConnected) :
        system.control.hostSilent env.now = false := by
      rw [hostSilent, decide_eq_false elsewhere, Bool.false_and]
    rw [if_neg early, if_neg early]
    by_cases hosting : system.control.state = .accessPointCreated
    · rw [if_pos hosting, quiet (by rw [hosting]; decide)]
      exact congrArg JoinView.state (joinView_updateNodes _ env)
    · rw [if_neg hosting]
      split
      · have host :=
          sendHeartbeat_host (system.control.withBeacon env.now) env
        have silent :
            ((system.control.withBeacon env.now).sendHeartbeat
                env).control.hostSilent env.now =
              system.control.hostSilent env.now := by
          unfold hostSilent
          rw [host.1, host.2]
          rfl
        rw [Step.andThen_control]
        unfold dropSilentHost
        by_cases alone : system.control.hostSilent env.now = true
        · rw [if_pos (hostSilent_iff.mp (silent.trans alone)),
            if_pos alone]
          exact congrArg JoinView.state (joinView_loseHost _ 6)
        · rw [if_neg (mt hostSilent_iff.mpr (silent ▸ alone)),
            if_neg alone]
          exact host.1
      next outside =>
        rw [quiet fun connected => outside (.inr connected)]
        rfl

theorem hostRoster_tick (system : System) (env : Env) :
    (machine.next system (env, .tick)).hostRoster =
      system.hostRoster.follow relayPeerTimeoutTicks
        (system.hostSignal (env, .tick)) := by
  have state :
      (machine.next system (env, .tick)).control.state =
        if env.now - system.control.lastBeacon <
            relayBeaconIntervalTicks then
          system.control.state
        else if system.control.hostSilent env.now then .station
        else system.control.state :=
    system.state_tick env
  have kept :
      (machine.next system (env, .tick)).control.hostLastSeen =
        system.control.hostLastSeen := by
    have watch := system.hostWatch_next (env, .tick)
    refine (congrArg HostWatch.hostLastSeen watch).trans ?_
    unfold watchAfter
    dsimp only
    split <;> rfl
  unfold hostSignal
  dsimp only
  by_cases early :
      env.now - system.control.lastBeacon < relayBeaconIntervalTicks
  · rw [if_pos early] at state
    rw [if_pos early, Roster.follow_none]
    exact hostRoster_congr (by rw [state]) kept
  · rw [if_neg early] at state
    rw [if_neg early, Roster.follow_some, Roster.after]
    by_cases silent : system.control.hostSilent env.now = true
    · rcases hostSilent_iff.mp silent with ⟨connected, late⟩
      rw [if_pos silent] at state
      rw [hostRoster_elsewhere (by rw [state]; decide),
        hostRoster_connected connected]
      funext place
      rw [Option.filter_some, if_neg]
      · rfl
      · rw [decide_eq_true_iff]
        exact not_lt.mpr late
    · rw [if_neg silent] at state
      rw [hostRoster_congr (by rw [state]) kept]
      by_cases connected :
          system.control.state = .stationConnected
      · have recent :
            env.now - system.control.hostLastSeen <
              relayPeerTimeoutTicks :=
          not_le.mp fun late =>
            silent (hostSilent_iff.mpr ⟨connected, late⟩)
        rw [hostRoster_connected connected]
        funext place
        rw [Option.filter_some, if_pos (decide_eq_true recent)]
      · rw [hostRoster_elsewhere connected]
        rfl

/-- A command that empties the table also ends the connection. -/
theorem connected_commandStep (control : LdnControl) (env : Env)
    (command : Command) :
    (commandStep control env command).1.control.state =
        .stationConnected ↔
      control.state = .stationConnected ∧
        command.resets control.state = false := by
  have kept (after : LdnControl)
      (same : after.joinView = control.joinView)
      (stays : command.resets control.state = false) :
      after.state = .stationConnected ↔
        control.state = .stationConnected ∧
          command.resets control.state = false := by
    have state := congrArg JoinView.state same
    rw [joinView_state, joinView_state] at state
    rw [state, stays]
    simp
  have left (after : LdnControl) {state : CommState} {view : JoinView}
      (same : after.joinView = { view with state := state })
      (elsewhere : state ≠ .stationConnected)
      (resets : command.resets control.state = true) :
      after.state = .stationConnected ↔
        control.state = .stationConnected ∧
          command.resets control.state = false := by
    have reached := congrArg JoinView.state same
    rw [joinView_state] at reached
    rw [reached, resets]
    exact iff_of_false elsewhere fun both => by simp at both
  have role (after : LdnControl) {state : CommState}
      (same :
        after.joinView =
          if control.state = .none then control.joinView
          else { control.joinView with state := state })
      (elsewhere : state ≠ .stationConnected)
      (resets :
        command.resets control.state = decide (control.state ≠ .none)) :
      after.state = .stationConnected ↔
        control.state = .stationConnected ∧
          command.resets control.state = false := by
    by_cases closed : control.state = .none
    · rw [if_pos closed] at same
      exact kept after same (by rw [resets, closed]; rfl)
    · rw [if_neg closed] at same
      exact left after same elsewhere (by rw [resets]; simp [closed])
  have query (reply : Reply) :
      (control.whenInNetwork reply).control.joinView = control.joinView :=
    congrArg joinView (control.whenInNetwork_control reply)
  cases command with
  | getState => exact kept control rfl rfl
  | getNetworkInfo => exact kept _ (query _) rfl
  | getIpv4Address => exact kept control rfl rfl
  | getDisconnectReason => exact kept control rfl rfl
  | getSecurityParameter => exact kept _ (query _) rfl
  | getNetworkConfig => exact kept _ (query _) rfl
  | attachStateChangeEvent => exact kept control rfl rfl
  | getNetworkInfoLatestUpdate capacity =>
      refine
        kept (control.getNetworkInfoLatestUpdate capacity).control ?_ rfl
      unfold getNetworkInfoLatestUpdate
      split
      · rfl
      · split <;> rfl
  | scan filter capacity =>
      refine
        kept (commandStep control env (.scan filter capacity)).1.control
          ?_ rfl
      unfold commandStep
      dsimp only
      split <;> rfl
  | openAccessPoint =>
      exact
        role _ (control.joinView_openRole env .accessPoint) (by decide) rfl
  | closeAccessPoint =>
      exact role _ (control.joinView_closeRole env) (by decide) rfl
  | createNetwork data =>
      have created := control.joinView_createNetwork env data
      by_cases opened : control.state = .accessPoint
      · rw [if_pos opened] at created
        have state := congrArg JoinView.state created
        refine iff_of_false ?_ fun both => ?_
        · intro connected
          have elsewhere :
              CommState.accessPointCreated ≠ .stationConnected := by
            decide
          exact elsewhere (state.symm.trans connected)
        · rw [opened] at both
          exact absurd both.1 (by decide)
      · rw [if_neg opened] at created
        exact kept _ created (decide_eq_false opened)
  | destroyNetwork =>
      exact left _ (control.joinView_destroyNetwork env) (by decide) rfl
  | setAdvertiseData data =>
      exact kept _ (control.joinView_setAdvertiseData env data) rfl
  | openStation =>
      exact role _ (control.joinView_openRole env .station) (by decide) rfl
  | closeStation =>
      exact role _ (control.joinView_closeRole env) (by decide) rfl
  | connect dat data =>
      have state :
          (commandStep control env
              (.connect dat data)).1.control.state =
            control.state := by
        unfold commandStep
        dsimp only
        split
        · rfl
        · split <;> rfl
      rw [state]
      simp [Command.resets]
  | disconnect =>
      have gone :
          (control.disconnect env).control.joinView =
            { { control.joinView with active := false } with
              state := .station } :=
        control.joinView_disconnect env
      exact left _ gone (by decide) rfl
  | initializeLdn =>
      exact left _ (control.joinView_initializeLdn env) (by decide) rfl
  | finalize =>
      have gone :
          (control.finalize env).control.joinView =
            { { control.joinView with active := false } with
              state := .none } :=
        control.joinView_finalize env
      exact left _ gone (by decide) rfl

theorem hostRoster_command (command : Command)
    (idle : system.phase = .idle) :
    (machine.next system (env, .command command)).hostRoster =
      if command.resets system.control.state then Roster.empty
      else system.hostRoster := by
  have kept :
      (machine.next system
          (env, .command command)).control.hostLastSeen =
        system.control.hostLastSeen := by
    have watch := system.hostWatch_next (env, .command command)
    refine (congrArg HostWatch.hostLastSeen watch).trans ?_
    unfold watchAfter
    dsimp only
    split <;> rfl
  have connected :
      (machine.next system (env, .command command)).control.state =
          .stationConnected ↔
        system.control.state = .stationConnected ∧
          command.resets system.control.state = false := by
    unfold Machine.next
    rw [next_command env command idle]
    exact connected_commandStep system.control env command
  by_cases resets : command.resets system.control.state = true
  · rw [if_pos resets]
    apply hostRoster_elsewhere
    rw [ne_eq, connected, resets]
    simp
  · rw [if_neg resets]
    apply hostRoster_congr _ kept
    rw [connected, Bool.eq_false_of_not_eq_true resets]
    simp

/-- Every step of either thread, seen through the place of the host. -/
theorem hostRoster_next (system : System) (input : Env × Event) :
    (machine.next system input).hostRoster =
      system.hostRoster.follow relayPeerTimeoutTicks
        (system.hostSignal input) := by
  rcases input with ⟨env, event⟩
  have still (state :
        (machine.next system (env, event)).control.state =
          system.control.state)
      (unseen :
        system.watchAfter (env, event) = system.control.hostWatch) :
      (machine.next system (env, event)).hostRoster =
        system.hostRoster := by
    apply hostRoster_congr (by rw [state])
    have watch := system.hostWatch_next (env, event)
    rw [unseen] at watch
    exact congrArg HostWatch.hostLastSeen watch
  cases event with
  | command command =>
      by_cases idle : system.phase = .idle
      · rw [hostRoster_command command idle]
        unfold hostSignal
        dsimp only
        by_cases resets : command.resets system.control.state = true
        · rw [if_pos resets, if_pos ⟨idle, resets⟩]
          rfl
        · rw [if_neg resets, if_neg fun both => resets both.2]
          rfl
      · have busy :
            (machine.next system (env, .command command)).control =
              system.control := by
          unfold Machine.next
          rw [next_command_busy env command idle]
        unfold hostSignal
        dsimp only
        rw [if_neg fun both => idle both.1, Roster.follow_none]
        exact
          hostRoster_congr (by rw [busy])
            (congrArg LdnControl.hostLastSeen busy)
  | ipc =>
      rcases system.next_move (env, .ipc) with ⟨target, move, same⟩
      refine still ((state_eq_of_core same).trans ?_) rfl
      cases move <;> rfl
  | frame srcIp payload =>
      cases carried : syncOf payload with
      | some sync => exact hostRoster_sync carried
      | none => exact hostRoster_unsynced carried
  | tick => exact system.hostRoster_tick env
  | knownPeer => rfl
  | enterLocalNetworkModePublic =>
      rcases system.next_move (env, .enterLocalNetworkModePublic) with
        ⟨target, move, same⟩
      refine still ((state_eq_of_core same).trans ?_) rfl
      cases move
      rfl
  | exitLocalNetworkModePublic =>
      rcases system.next_move (env, .exitLocalNetworkModePublic) with
        ⟨target, move, same⟩
      refine still ((state_eq_of_core same).trans ?_) rfl
      cases move
      rfl

/-- What the events of a run tell a station about its host. -/
def hostSignals (mtu : UInt32) (inputs : List (Env × Event)) :
    List (Happening Unit) :=
  machine.fed (fun system input => (system.hostSignal input).toList)
    (initial mtu) inputs

theorem hostRoster_run (mtu : UInt32) (inputs : List (Env × Event)) :
    (machine.run (initial mtu) inputs).hostRoster =
      (Roster.machine relayPeerTimeoutTicks).run Roster.empty
        (hostSignals mtu inputs) := by
  have start : (initial mtu).hostRoster = Roster.empty :=
    hostRoster_elsewhere nofun
  rw [hostSignals, ← start]
  apply machine.part_run
  intro system input
  rw [Roster.machine_run_toList]
  exact system.hostRoster_next input

end HostRoster

end System

end SlpClient.Ldn
