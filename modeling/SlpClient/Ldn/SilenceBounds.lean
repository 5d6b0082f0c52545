import SlpClient.Ldn.Goodbye
import SlpClient.Ldn.HostLease

/-!
# Nobody is silent for long

Hosts and stations both do their periodic work in a Tick that is at least
five seconds after the last one that did, and both give up on a peer that was
silent for thirty.  With a clock that does not run backwards, a host that
lists a station at some Tick has heard it less than thirty-five seconds ago,
and so has a connected station its host.
-/

namespace SlpClient.Ldn

open SlpClient.Lib
open SlpClient.Lib.Liveness (Happening Roster)

namespace System

/-- The periodic work is due, at this time. -/
def dueAt (system : System) (input : Env × Event) : Option Int :=
  match input.2 with
  | .tick =>
      if input.1.now - system.control.lastBeacon <
          relayBeaconIntervalTicks then none
      else some input.1.now
  | _ => none

/-- The clock does not run backwards, and starts at zero. -/
def Chronological (inputs : List (Env × Event)) : Prop :=
  ((0 : Int) :: inputs.map fun input => input.1.now).Pairwise (· ≤ ·)

theorem lastBeacon_next (system : System) (input : Env × Event) :
    (machine.next system input).control.lastBeacon =
      (system.dueAt input).getD system.control.lastBeacon := by
  have watch :=
    congrArg HostWatch.lastBeacon (system.hostWatch_next input)
  refine Eq.trans watch ?_
  rcases input with ⟨env, event⟩
  unfold watchAfter dueAt
  cases event with
  | command command =>
      dsimp only
      split <;> rfl
  | frame srcIp payload =>
      dsimp only
      unfold frameWatch
      split
      · rfl
      · split <;> rfl
  | tick =>
      dsimp only
      split <;> rfl
  | ipc => rfl
  | knownPeer => rfl
  | enterLocalNetworkModePublic => rfl
  | exitLocalNetworkModePublic => rfl

/-! ## Runs with an ordered clock -/

section Bounds

variable {mtu : UInt32} {inputs : List (Env × Event)}

theorem Chronological.front {input : Env × Event}
    (ordered : Chronological (inputs ++ [input])) : Chronological inputs := by
  unfold Chronological at ordered ⊢
  rw [List.map_append, ← List.cons_append, List.pairwise_append] at ordered
  exact ordered.1

theorem Chronological.last {input other : Env × Event}
    (ordered : Chronological (inputs ++ [input])) (member : other ∈ inputs) :
    other.1.now ≤ input.1.now := by
  unfold Chronological at ordered
  rw [List.map_append, ← List.cons_append, List.pairwise_append] at ordered
  exact
    ordered.2.2 _
      (List.mem_cons_of_mem _ (List.mem_map_of_mem member)) _
      (List.mem_singleton_self _)

/-- At any Tick of a run the last periodic work was not long ago. -/
theorem tick_recent (ordered : Chronological inputs) {env : Env}
    (tick : (env, Event.tick) ∈ inputs) :
    env.now - (machine.run (initial mtu) inputs).control.lastBeacon <
      relayBeaconIntervalTicks := by
  induction inputs using List.reverseRecOn with
  | nil => exact absurd tick List.not_mem_nil
  | append_singleton inputs input induction =>
      rw [Machine.run_append, Machine.run_cons, Machine.run_nil,
        lastBeacon_next]
      have positive : (0 : Int) < relayBeaconIntervalTicks := by decide
      cases due : dueAt (machine.run (initial mtu) inputs) input with
      | some now =>
          have time : now = input.1.now := by
            unfold dueAt at due
            split at due
            · split at due
              · contradiction
              · exact (Option.some.inj due).symm
            · contradiction
          rw [Option.getD_some, time]
          rcases List.mem_append.mp tick with old | new
          · have before := ordered.last old
            dsimp only at before
            omega
          · rw [← List.mem_singleton.mp new]
            dsimp only
            omega
      | none =>
          rw [Option.getD_none]
          rcases List.mem_append.mp tick with old | new
          · exact induction ordered.front old
          · rw [← List.mem_singleton.mp new, dueAt] at due
            dsimp only at due
            split at due
            next early => exact early
            · contradiction

variable {Key : Type} [DecidableEq Key]
  {feed : System → Env × Event → Option (Happening Key)}

omit [DecidableEq Key] in
/-- Sweeps are the periodic work. -/
theorem lastBeacon_eq_lastSweep
    (sweeps :
      ∀ system input,
        (feed system input).bind Happening.swept = system.dueAt input) :
    (machine.run (initial mtu) inputs).control.lastBeacon =
      (Roster.lastSweep
        (machine.fed (fun system input => (feed system input).toList)
          (initial mtu) inputs)).getD 0 := by
  induction inputs using List.reverseRecOn with
  | nil => rfl
  | append_singleton inputs input induction =>
      rw [Machine.run_append, Machine.run_cons, Machine.run_nil,
        lastBeacon_next, Machine.fed_concat, ← sweeps, induction]
      cases feed (machine.run (initial mtu) inputs) input with
      | none =>
          rw [Option.toList_none, List.append_nil, Option.bind_none,
            Option.getD_none]
      | some happening =>
          rw [Option.toList_some, Roster.lastSweep_concat,
            Option.bind_some]
          cases happening.swept <;> rfl

/--
A roster that is swept by the periodic work knows only members that were
heard less than thirty-five seconds before any Tick.
-/
theorem silence_bound (ordered : Chronological inputs)
    (sweeps :
      ∀ system input,
        (feed system input).bind Happening.swept = system.dueAt input)
    (times :
      ∀ system input time,
        (feed system input).bind Happening.time = some time →
          time = input.1.now)
    {env : Env} (tick : (env, Event.tick) ∈ inputs) {key : Key}
    {seen : Int}
    (member :
      (Roster.machine relayPeerTimeoutTicks).run Roster.empty
        (machine.fed (fun system input => (feed system input).toList)
          (initial mtu) inputs) key = some seen) :
    env.now - seen <
      relayPeerTimeoutTicks + relayBeaconIntervalTicks := by
  have sublist :
      ((machine.fed (fun system input => (feed system input).toList)
          (initial mtu) inputs).filterMap Happening.time).Sublist
        (inputs.map fun input => input.1.now) := by
    apply Machine.fed_filterMap_sublist
    intro system input
    cases happens : feed system input with
    | none => exact List.nil_sublist _
    | some happening =>
        cases timed : happening.time with
        | none =>
            rw [Option.toList_some, List.filterMap_cons_none timed]
            exact List.nil_sublist _
        | some time =>
            have same := times system input time
            rw [happens, Option.bind_some] at same
            rw [Option.toList_some, List.filterMap_cons_some timed,
              same timed]
            exact List.Sublist.refl _
  rcases List.pairwise_cons.mp ordered with ⟨positive, increasing⟩
  have recent :
      env.now - (machine.run (initial mtu) inputs).control.lastBeacon <
        relayBeaconIntervalTicks :=
    tick_recent ordered tick
  rw [lastBeacon_eq_lastSweep sweeps] at recent
  cases swept :
      Roster.lastSweep
        (machine.fed (fun system input => (feed system input).toList)
          (initial mtu) inputs) with
  | none =>
      rw [swept, Option.getD_none] at recent
      have heard := Roster.run_eq_lastHeard member
      have listed := List.mem_of_getLast? heard
      rcases List.mem_filterMap.mp listed with ⟨happening, inside, sign⟩
      have timed := Happening.time_of_heard sign
      have early :=
        positive seen
          (sublist.subset (List.mem_filterMap.mpr ⟨_, inside, timed⟩))
      have more : (0 : Int) < relayPeerTimeoutTicks := by decide
      omega
  | some last =>
      rw [swept, Option.getD_some] at recent
      have bound :=
        Roster.run_recent (increasing.sublist sublist) member (by decide)
          swept
      omega

/-! ## Stations of a host -/

theorem signal_swept (system : System) (input : Env × Event) :
    (system.signal input).bind Happening.swept = system.dueAt input := by
  rcases input with ⟨env, event⟩
  unfold signal dueAt
  cases event with
  | command command =>
      dsimp only
      split <;> rfl
  | frame srcIp payload =>
      dsimp only
      unfold LdnControl.frameSignal
      split_ifs <;> rfl
  | tick =>
      dsimp only
      split <;> rfl
  | ipc => rfl
  | knownPeer => rfl
  | enterLocalNetworkModePublic => rfl
  | exitLocalNetworkModePublic => rfl

theorem signal_time {system : System} {input : Env × Event} {time : Int}
    (timed : (system.signal input).bind Happening.time = some time) :
    time = input.1.now := by
  rcases input with ⟨env, event⟩
  unfold signal at timed
  cases event with
  | command command =>
      dsimp only at timed
      split at timed <;> contradiction
  | frame srcIp payload =>
      dsimp only at timed
      unfold LdnControl.frameSignal at timed
      split_ifs at timed
      · contradiction
      · exact (Option.some.inj timed).symm
      · exact (Option.some.inj timed).symm
      · contradiction
      · contradiction
  | tick =>
      dsimp only at timed
      split at timed
      · contradiction
      · exact (Option.some.inj timed).symm
  | ipc => contradiction
  | knownPeer => contradiction
  | enterLocalNetworkModePublic => contradiction
  | exitLocalNetworkModePublic => contradiction

/--
After any run the station table of a host holds exactly the addresses of the
consoles it admitted and did not lose since: no goodbye for the room came, no
command emptied the table, and all periodic work found a sign of life less
than thirty seconds old.  It holds the time of the last sign of life.
-/
theorem station_listed_iff (mtu : UInt32) (inputs : List (Env × Event))
    (srcIp : UInt32) (seen : Int) :
    (∃ slot ∈ LdnControl.stationSlots,
      let station := (machine.run (initial mtu) inputs).control.stations slot
      station.active = true ∧ station.srcIp = srcIp ∧
        station.lastSeen = seen) ↔
      (∃ first joined rest,
        signals mtu inputs = first ++ .join srcIp joined :: rest ∧
          Roster.Stays relayPeerTimeoutTicks srcIp joined rest) ∧
        Roster.lastHeard srcIp (signals mtu inputs) = some seen := by
  have sound :
      (machine.run (initial mtu) inputs).control.StationsSound :=
    (roomInvariant_of_reachable ⟨inputs, rfl⟩).sound
  rw [← Roster.run_eq_some_iff, ← roster_run]
  exact sound.roster_eq_some.symm

/--
A console that a host advertises as connected has shown a sign of life less
than thirty-five seconds before any Tick, and the host knows when.
-/
theorem advertised_station_heard (chronological : Chronological inputs)
    (hosting :
      (machine.run (initial mtu) inputs).control.state =
        .accessPointCreated)
    {env : Env} (tick : (env, Event.tick) ∈ inputs) {place : Fin 8}
    (other : place ≠ 0)
    (connected :
      ((machine.run (initial mtu) inputs).control.networkInfo.ldn.nodes
        place).isConnected = 1) :
    ∃ seen,
      Roster.lastHeard
          ((machine.run (initial mtu) inputs).control.networkInfo.ldn.nodes
            place).ipv4Address
          (signals mtu inputs) = some seen ∧
        env.now - seen <
          relayPeerTimeoutTicks + relayBeaconIntervalTicks := by
  have holds :
      (machine.run (initial mtu) inputs).control.RoomInvariant :=
    roomInvariant_of_reachable ⟨inputs, rfl⟩
  rcases (holds.advertises hosting).entry place with
    ⟨first, -⟩ | ⟨index, slot, -, found, node⟩ | zero
  · exact absurd (Fin.ext first) other
  · rcases LdnControl.mem_activeSlots.mp
      (List.mem_of_getElem? found) with ⟨member, active⟩
    have listed :=
      holds.sound.roster_eq_some.mpr ⟨slot, member, active, rfl, rfl⟩
    have address := (holds.sound.node slot member active).1
    rw [node, address]
    rw [roster_run] at listed
    exact
      ⟨_, Roster.run_eq_lastHeard listed,
        silence_bound chronological signal_swept
          (fun _ _ _ timed => signal_time timed) tick listed⟩
  · rw [zero] at connected
    exact absurd connected (by decide)

end Bounds

/-- A Tick after twenty-five seconds. -/
def lateTick : Env × Event := (Env.at 480000000, .tick)

theorem visitedSystem_lastBeacon :
    visitedSystem.control.lastBeacon = 0 := by
  rw [visitedSystem_control, LdnControl.updateNodes_control,
    scannedControl_eq]
  rfl

theorem run_visited_lateTick :
    (machine.run (initial 1400) (visited ++ [lateTick])).control =
      (((visitedSystem.control.withBeacon 480000000).reapStations
        480000000).updateNodes (Env.at 480000000)).control := by
  rw [Machine.run_append, run_visited, Machine.run_cons, Machine.run_nil]
  show (visitedSystem.control.tick (Env.at 480000000)).control = _
  unfold LdnControl.tick
  rw [locked_control, visitedSystem_lastBeacon, if_neg (by decide),
    if_pos visitedSystem_state]
  rfl

/-- The periodic work finds the station alive. -/
theorem lateTick_keeps_visitor :
    (machine.run (initial 1400) (visited ++ [lateTick])).control.state =
        .accessPointCreated ∧
      ((machine.run (initial 1400)
          (visited ++ [lateTick])).control.networkInfo.ldn.nodes
        1).isConnected = 1 ∧
        ((machine.run (initial 1400)
            (visited ++ [lateTick])).control.networkInfo.ldn.nodes
          1).ipv4Address = 0x0A0D0003 := by
  rw [run_visited_lateTick, LdnControl.updateNodes_control,
    visitedSystem_control, LdnControl.updateNodes_control,
    scannedControl_eq]
  exact ⟨rfl, rfl, rfl⟩

theorem visited_tick_heard :
    ∃ seen,
      Roster.lastHeard 0x0A0D0003
          (signals 1400 (visited ++ [lateTick])) = some seen ∧
        (Env.at 480000000).now - seen <
          relayPeerTimeoutTicks + relayBeaconIntervalTicks := by
  have chronological : Chronological (visited ++ [lateTick]) := by
    show List.Pairwise (· ≤ ·) ([0, 0, 0, 0, 0, 0, 480000000] : List Int)
    decide
  have tick : (Env.at 480000000, Event.tick) ∈ visited ++ [lateTick] :=
    List.mem_append_right visited (List.mem_singleton_self _)
  rcases lateTick_keeps_visitor with ⟨hosting, connected, address⟩
  have heard :=
    advertised_station_heard chronological hosting tick (by decide)
      connected
  rw [address] at heard
  exact heard

/-! ## The host of a station -/

theorem hostSignal_swept (system : System) (input : Env × Event) :
    (system.hostSignal input).bind Happening.swept =
      system.dueAt input := by
  rcases input with ⟨env, event⟩
  unfold hostSignal dueAt
  cases event with
  | command command =>
      dsimp only
      split <;> rfl
  | frame srcIp payload =>
      dsimp only
      split <;> split <;> rfl
  | tick =>
      dsimp only
      split <;> rfl
  | ipc => rfl
  | knownPeer => rfl
  | enterLocalNetworkModePublic => rfl
  | exitLocalNetworkModePublic => rfl

theorem hostSignal_time {system : System} {input : Env × Event}
    {time : Int}
    (timed : (system.hostSignal input).bind Happening.time = some time) :
    time = input.1.now := by
  rcases input with ⟨env, event⟩
  unfold hostSignal at timed
  cases event with
  | command command =>
      dsimp only at timed
      split at timed <;> contradiction
  | frame srcIp payload =>
      dsimp only at timed
      split at timed
      · split at timed
        · exact (Option.some.inj timed).symm
        · contradiction
      · split at timed <;> contradiction
  | tick =>
      dsimp only at timed
      split at timed
      · contradiction
      · exact (Option.some.inj timed).symm
  | ipc => contradiction
  | knownPeer => contradiction
  | enterLocalNetworkModePublic => contradiction
  | exitLocalNetworkModePublic => contradiction

theorem hostRoster_eq_some {system : System} {seen : Int} :
    system.hostRoster () = some seen ↔
      system.control.state = .stationConnected ∧
        system.control.hostLastSeen = seen := by
  unfold hostRoster
  split
  next connected =>
    rw [Option.some.injEq]
    exact (and_iff_right connected).symm
  next elsewhere =>
    exact iff_of_false nofun fun both => elsewhere both.1

/--
After any run a console is a connected station exactly when a sync made it
one and nothing has ended that since: no goodbye of the host came, no command
ended it, and all periodic work found a sync less than thirty seconds old.
It holds the time of the last sync.
-/
theorem stationConnected_iff (mtu : UInt32)
    (inputs : List (Env × Event)) (seen : Int) :
    (machine.run (initial mtu) inputs).control.state =
          .stationConnected ∧
        (machine.run (initial mtu) inputs).control.hostLastSeen = seen ↔
      (∃ first joined rest,
        hostSignals mtu inputs = first ++ .join () joined :: rest ∧
          Roster.Stays relayPeerTimeoutTicks () joined rest) ∧
        Roster.lastHeard () (hostSignals mtu inputs) = some seen := by
  rw [← Roster.run_eq_some_iff, ← hostRoster_run, hostRoster_eq_some]

/--
A connected station has applied a sync less than thirty-five seconds before
any Tick.
-/
theorem stationConnected_heard {mtu : UInt32}
    {inputs : List (Env × Event)} (chronological : Chronological inputs)
    (connected :
      (machine.run (initial mtu) inputs).control.state =
        .stationConnected)
    {env : Env} (tick : (env, Event.tick) ∈ inputs) :
    env.now - (machine.run (initial mtu) inputs).control.hostLastSeen <
      relayPeerTimeoutTicks + relayBeaconIntervalTicks := by
  have member := hostRoster_eq_some.mpr ⟨connected, rfl⟩
  rw [hostRoster_run] at member
  exact
    silence_bound chronological hostSignal_swept
      (fun _ _ _ timed => hostSignal_time timed) tick member

/-- A frame that comes when the host was heard last does not change that. -/
theorem hostLastSeen_of_same {system : System} {env : Env}
    (same : system.control.hostLastSeen = env.now) (srcIp : UInt32)
    (payload : List UInt8) :
    (machine.next system (env, .frame srcIp payload)).control.hostLastSeen =
      env.now := by
  have watch :=
    congrArg HostWatch.hostLastSeen
      (system.hostWatch_next (env, .frame srcIp payload))
  refine Eq.trans watch ?_
  unfold watchAfter frameWatch
  dsimp only
  split
  · rfl
  · split <;> exact same

/-- The periodic work finds the host alive. -/
theorem lateTick_keeps_host :
    (machine.run (initial 1400)
        (welcomed ++ [lateTick])).control.state =
      .stationConnected := by
  have seen : connectedSystem.control.hostLastSeen = 0 := by
    rw [connectedSystem]
    exact hostLastSeen_of_same rfl _ _
  have beacon : connectedSystem.control.lastBeacon = 0 := by
    rw [connectedSystem, lastBeacon_next]
    rfl
  have before : connectedSystem.hostRoster () = some 0 :=
    hostRoster_eq_some.mpr ⟨connectedSystem_state, seen⟩
  have sweeps :
      connectedSystem.hostSignal lateTick = some (.sweep 480000000) := by
    unfold hostSignal lateTick
    dsimp only
    rw [beacon]
    exact if_neg (by decide)
  rw [Machine.run_append, run_welcomed, Machine.run_cons, Machine.run_nil]
  have after :
      (machine.next connectedSystem lateTick).hostRoster () = some 0 := by
    rw [hostRoster_next, sweeps, Roster.follow_some, Roster.after]
    dsimp only
    rw [before]
    rfl
  exact (hostRoster_eq_some.mp after).1

theorem welcomed_heard :
    (Env.at 480000000).now -
        (machine.run (initial 1400)
          (welcomed ++ [lateTick])).control.hostLastSeen <
      relayPeerTimeoutTicks + relayBeaconIntervalTicks := by
  have chronological : Chronological (welcomed ++ [lateTick]) := by
    show List.Pairwise (· ≤ ·) ([0, 0, 0, 0, 480000000] : List Int)
    decide
  have tick : (Env.at 480000000, Event.tick) ∈ welcomed ++ [lateTick] :=
    List.mem_append_right welcomed (List.mem_singleton_self _)
  exact stationConnected_heard chronological lateTick_keeps_host tick

/-! ## Why a host was lost -/

/-- The reason that a step leaves, or forgets. -/
def reasonLeft (system : System) (input : Env × Event) : Option UInt32 :=
  match input.2 with
  | .command command =>
      if system.phase = .idle ∧ command.forgets then some 0 else none
  | .frame _ payload =>
      if system.control.hostLeaves payload then some 3 else none
  | .tick =>
      if (system.dueAt input).isSome ∧
          system.control.hostSilent input.1.now then some 6
      else none
  | _ => none

theorem disconnectReason_next (system : System) (input : Env × Event) :
    (machine.next system input).control.disconnectReason =
      (system.reasonLeft input).getD system.control.disconnectReason := by
  have watch :=
    congrArg HostWatch.disconnectReason (system.hostWatch_next input)
  refine Eq.trans watch ?_
  rcases input with ⟨env, event⟩
  unfold watchAfter reasonLeft
  cases event with
  | command command =>
      dsimp only
      split <;> rfl
  | frame srcIp payload =>
      dsimp only
      unfold frameWatch
      by_cases leaves : system.control.hostLeaves payload = true
      · have unapplied :
            system.appliedBody (env, .frame srcIp payload) = none := by
          apply appliedBody_of_other
          intro body seq opened
          rw [LdnControl.hostLeaves_of_other (by rw [opened]; nofun)] at leaves
          contradiction
        rw [unapplied, if_pos leaves, if_pos leaves]
        rfl
      · rw [if_neg leaves, if_neg leaves]
        split <;> rfl
  | tick =>
      dsimp only
      unfold dueAt
      dsimp only
      split
      · rfl
      next due =>
        by_cases silent : system.control.hostSilent env.now = true
        · rw [if_pos silent, if_pos ⟨rfl, silent⟩]
          rfl
        · rw [if_neg silent, if_neg fun both => silent both.2]
          rfl
  | ipc => rfl
  | knownPeer => rfl
  | enterLocalNetworkModePublic => rfl
  | exitLocalNetworkModePublic => rfl

/-- A connection that no command ended was lost, and the reason says how. -/
def NamesLoss (system : System) (input : Env × Event) : Prop :=
  system.control.state = .stationConnected →
    (machine.next system input).control.state ≠ .stationConnected →
      (∀ command, input.2 ≠ .command command) →
        (∃ srcIp payload,
          input.2 = .frame srcIp payload ∧
            system.control.hostLeaves payload = true ∧
            (machine.next system input).control.disconnectReason = 3) ∨
          input.2 = .tick ∧
            system.control.hostSilent input.1.now = true ∧
            (machine.next system input).control.disconnectReason = 6

theorem namesLoss (system : System) (input : Env × Event) :
    system.NamesLoss input := by
  intro connected lost ownWill
  have member :
      system.hostRoster () = some system.control.hostLastSeen :=
    hostRoster_eq_some.mpr ⟨connected, rfl⟩
  have gone : (machine.next system input).hostRoster () = none := by
    rw [hostRoster_elsewhere lost]
    rfl
  have reason := system.disconnectReason_next input
  rw [hostRoster_next] at gone
  rcases input with ⟨env, event⟩
  cases event with
  | command command => exact absurd rfl (ownWill command)
  | frame srcIp payload =>
      refine .inl ⟨srcIp, payload, rfl, ?_⟩
      have leaves : system.control.hostLeaves payload = true := by
        unfold hostSignal at gone
        dsimp only at gone
        split at gone
        · split at gone
          · rw [Roster.follow_some, Roster.after,
              Function.update_self] at gone
            contradiction
          · rw [Roster.follow_none, member] at gone
            contradiction
        · split at gone
          next leaves => exact leaves
          · rw [Roster.follow_none, member] at gone
            contradiction
      refine ⟨leaves, ?_⟩
      unfold reasonLeft at reason
      dsimp only at reason
      rw [if_pos leaves] at reason
      exact reason
  | tick =>
      refine .inr ⟨rfl, ?_⟩
      unfold hostSignal at gone
      dsimp only at gone
      split at gone
      · rw [Roster.follow_none, member] at gone
        contradiction
      next due =>
        rw [Roster.follow_some] at gone
        rcases (Roster.after_eq_none_iff member _).mp gone with
          leaves | resets | ⟨now, sweeps, late⟩
        · contradiction
        · contradiction
        · rw [Happening.sweep.injEq] at sweeps
          subst sweeps
          have silent : system.control.hostSilent env.now = true :=
            LdnControl.hostSilent_iff.mpr ⟨connected, late⟩
          refine ⟨silent, ?_⟩
          unfold reasonLeft dueAt at reason
          dsimp only at reason
          rw [if_neg due, if_pos ⟨rfl, silent⟩] at reason
          exact reason
  | ipc => rw [hostSignal, Roster.follow_none, member] at gone; contradiction
  | knownPeer =>
      rw [hostSignal, Roster.follow_none, member] at gone
      contradiction
  | enterLocalNetworkModePublic =>
      rw [hostSignal, Roster.follow_none, member] at gone
      contradiction
  | exitLocalNetworkModePublic =>
      rw [hostSignal, Roster.follow_none, member] at gone
      contradiction

/--
`GetDisconnectReason` tells the last loss: three after a goodbye of the host,
six after its silence, and zero once a command has forgotten it.  Whenever a
connection ends and no command ended it, one of the two is told.
-/
theorem disconnectReason_tells (mtu : UInt32)
    (inputs : List (Env × Event)) :
    (machine.run (initial mtu) inputs).control.disconnectReason =
        (machine.latest reasonLeft none (initial mtu) inputs).getD 0 ∧
      machine.EachStep NamesLoss (initial mtu) inputs := by
  constructor
  · induction inputs using List.reverseRecOn with
    | nil => rfl
    | append_singleton inputs input induction =>
        rw [Machine.run_append, Machine.run_cons, Machine.run_nil,
          disconnectReason_next, Machine.latest_concat, induction]
        cases reasonLeft (machine.run (initial mtu) inputs) input <;> rfl
  · exact machine.eachStep_of_forall namesLoss _ _

end System

end SlpClient.Ldn
