import SlpClient.Ldn.HostTable
import SlpClient.Ldn.SeqOrder
import SlpClient.Ldn.Transitions

/-!
# The view of a connected station

A connected station shows the game the network of its host: the body of the
last sync it applied.  The same object also holds the network of a host, and
the commands of a host rewrite it.  One of them, `SetAdvertiseData`, does not
look at the role; as long as a connected station does not use it, the view
stays the host's.
-/

namespace SlpClient.Ldn

open SlpClient.Lib

namespace System

/-- The body of a sync that this event brings and that gets copied in. -/
def appliedBody (system : System) (input : Env × Event) :
    Option (List UInt8) :=
  match input.2 with
  | .frame _ payload =>
      match LdnControl.openedFrame payload with
      | some (.syncNetwork, body, seq) =>
          if body.length = NetworkInfo.codec.size ∧
              system.control.acceptsSync
                (NetworkInfo.codec.decode body) seq = true then
            some body
          else none
      | _ => none
  | _ => none

/-- The body of the last sync that a run has applied. -/
def lastApplied (mtu : UInt32) (inputs : List (Env × Event)) :
    Option (List UInt8) :=
  machine.latest appliedBody none (initial mtu) inputs

/-- The game does not advertise while this console is a connected station. -/
def StationDoesNotAdvertise (system : System) (input : Env × Event) :
    Prop :=
  system.phase = .idle → system.control.state = .stationConnected →
    ∀ data, input.2 = .command (.setAdvertiseData data) →
      advertiseDataSizeMax < data.length

/-- The view: what is known of the network, and the changes not yet told. -/
structure ViewKept (system : System) (input : Env × Event) : Prop where
  networkInfo :
    (machine.next system input).control.networkInfo =
      system.control.networkInfo
  changes :
    input.2 ≠ .command .initializeLdn →
      (machine.next system input).control.prevNodeConnected =
          system.control.prevNodeConnected ∧
        ∀ index,
          (machine.next system input).control.nodeChanges index =
              system.control.nodeChanges index ∨
            ((machine.next system input).control.nodeChanges index = 0 ∧
              ∃ capacity,
                input.2 =
                    .command (.getNetworkInfoLatestUpdate capacity) ∧
                  index.val < capacity)

/-! ## Syncs that get applied -/

/-- An accepted sync is copied in byte for byte. -/
theorem appliedBody_eq_some {system : System} {input : Env × Event}
    {body : List UInt8} (applied : system.appliedBody input = some body) :
    ∃ srcIp payload seq,
      input.2 = .frame srcIp payload ∧
        body.length = NetworkInfo.codec.size ∧
        syncOf payload = some (NetworkInfo.codec.decode body, seq) ∧
        system.control.acceptsSync (NetworkInfo.codec.decode body) seq =
          true := by
  unfold appliedBody at applied
  split at applied
  · rename_i srcIp payload frame
    split at applied
    · rename_i carried seq opened
      split at applied
      · rename_i accepted
        rw [Option.some.injEq] at applied
        subst applied
        refine ⟨srcIp, payload, seq, frame, accepted.1, ?_, accepted.2⟩
        rw [syncOf, opened]
        exact if_pos accepted.1
      · simp at applied
    · simp at applied
  · simp at applied

theorem appliedBody_of_accepted {system : System} {env : Env}
    {srcIp : UInt32} {payload : List UInt8} {info : NetworkInfo}
    {seq : UInt16} (carried : syncOf payload = some (info, seq))
    (accepted : system.control.acceptsSync info seq = true) :
    system.appliedBody (env, .frame srcIp payload) =
      some (NetworkInfo.codec.encode info) := by
  rcases syncOf_eq_some carried with ⟨body, opened, length, rfl⟩
  unfold appliedBody
  dsimp only
  rw [opened]
  dsimp only
  rw [if_pos ⟨length, accepted⟩, NetworkInfo.codec.encode_decode _ length]

/-- The information of an accepted sync becomes what is known. -/
theorem next_networkInfo_of_appliedBody {system : System}
    {input : Env × Event} {body : List UInt8}
    (applied : system.appliedBody input = some body) :
    NetworkInfo.codec.encode
        (machine.next system input).control.networkInfo = body := by
  rcases appliedBody_eq_some applied with
    ⟨srcIp, payload, seq, frame, length, carried, accepted⟩
  rcases input with ⟨env, event⟩
  dsimp only at frame
  subst frame
  have handled :=
    system.control.onControlFrame_sync_control env srcIp payload _ seq
      carried (LdnControl.acceptsSync_station accepted)
  have gates := LdnControl.acceptsSync_gates accepted
  rw [if_neg (by simp [gates.1]), if_neg gates.2] at handled
  have known :
      (machine.next system (env, .frame srcIp payload)).control.networkInfo =
        NetworkInfo.codec.decode body :=
    (congrArg LdnControl.networkInfo handled).trans
      (LdnControl.applySync_relaySyncSeq _ env _).2.2
  rw [known, NetworkInfo.codec.encode_decode _ length]

/-! ## Steps -/

theorem noteSyncSeq_view (control : LdnControl) (seq : UInt16) :
    (control.noteSyncSeq seq).networkInfo = control.networkInfo ∧
      (control.noteSyncSeq seq).prevNodeConnected =
        control.prevNodeConnected ∧
      (control.noteSyncSeq seq).nodeChanges = control.nodeChanges := by
  unfold LdnControl.noteSyncSeq
  split <;> exact ⟨rfl, rfl, rfl⟩

/-- A move of a connected station that applies no sync keeps the view. -/
theorem view_of_move {system : System} {env : Env} {event : Event}
    {target : LdnControl} (move : Move system env event target)
    (connected : system.control.state = .stationConnected)
    (silent : system.StationDoesNotAdvertise (env, event))
    (unapplied : system.appliedBody (env, event) = none) :
    target.networkInfo = system.control.networkInfo ∧
      (event ≠ .command .initializeLdn →
        target.prevNodeConnected = system.control.prevNodeConnected ∧
          ∀ index,
            target.nodeChanges index = system.control.nodeChanges index ∨
              (target.nodeChanges index = 0 ∧
                ∃ capacity,
                  event =
                      .command (.getNetworkInfoLatestUpdate capacity) ∧
                    index.val < capacity)) := by
  have hosting (state : system.control.state = .accessPointCreated) :
      False := by
    rw [connected] at state
    exact absurd state (by decide)
  cases move with
  | still => exact ⟨rfl, fun _ => ⟨rfl, fun _ => .inl rfl⟩⟩
  | initializeLdn => exact ⟨rfl, fun other => absurd rfl other⟩
  | finalize => exact ⟨rfl, fun _ => ⟨rfl, fun _ => .inl rfl⟩⟩
  | openAccessPoint => exact ⟨rfl, fun _ => ⟨rfl, fun _ => .inl rfl⟩⟩
  | openStation => exact ⟨rfl, fun _ => ⟨rfl, fun _ => .inl rfl⟩⟩
  | closeAccessPoint => exact ⟨rfl, fun _ => ⟨rfl, fun _ => .inl rfl⟩⟩
  | closeStation => exact ⟨rfl, fun _ => ⟨rfl, fun _ => .inl rfl⟩⟩
  | createNetwork data idle opened =>
      rw [connected] at opened
      exact absurd opened (by decide)
  | destroyNetwork => exact ⟨rfl, fun _ => ⟨rfl, fun _ => .inl rfl⟩⟩
  | setAdvertiseData data idle fits =>
      exact absurd fits (not_le.mpr (silent idle connected data rfl))
  | disconnect => exact ⟨rfl, fun _ => ⟨rfl, fun _ => .inl rfl⟩⟩
  | connect => exact ⟨rfl, fun _ => ⟨rfl, fun _ => .inl rfl⟩⟩
  | connectTimeout => exact ⟨rfl, fun _ => ⟨rfl, fun _ => .inl rfl⟩⟩
  | getNetworkInfoLatestUpdate capacity =>
      refine ⟨rfl, fun _ => ⟨rfl, fun index => ?_⟩⟩
      by_cases told : index.val < capacity
      · exact .inr ⟨if_pos told, capacity, rfl, told⟩
      · exact .inl (if_neg told)
  | takeIn srcIp payload node slot state => exact (hosting state).elim
  | stationBye srcIp payload slot state => exact (hosting state).elim
  | reap state => exact (hosting state).elim
  | noteSync srcIp payload info seq =>
      rcases noteSyncSeq_view system.control seq with
        ⟨networkInfo, previous, changes⟩
      exact
        ⟨networkInfo, fun _ =>
          ⟨previous, fun index => .inl (congrFun changes index)⟩⟩
  | applySync srcIp payload info seq carried accepted =>
      rw [appliedBody_of_accepted carried accepted] at unapplied
      exact absurd unapplied (by simp)
  | hostBye => exact ⟨rfl, fun _ => ⟨rfl, fun _ => .inl rfl⟩⟩
  | hostSilent => exact ⟨rfl, fun _ => ⟨rfl, fun _ => .inl rfl⟩⟩

/-- A connected station's step that applies no sync keeps the view. -/
theorem viewKept_of_connected {system : System} {input : Env × Event}
    (connected : system.control.state = .stationConnected)
    (silent : system.StationDoesNotAdvertise input)
    (unapplied : system.appliedBody input = none) :
    system.ViewKept input := by
  rcases system.next_move input with ⟨target, move, same⟩
  rcases LdnControl.view_eq_of_core same with
    ⟨networkInfo, previous, changes⟩
  have kept := view_of_move move connected silent unapplied
  constructor
  · rw [networkInfo]
    exact kept.1
  · intro other
    rw [previous, changes]
    exact kept.2 other

/-- Only an applied sync makes a station connected. -/
theorem connected_of_unapplied {system : System} {input : Env × Event}
    (unapplied : system.appliedBody input = none)
    (enters :
      (machine.next system input).control.state = .stationConnected) :
    system.control.state = .stationConnected := by
  rcases system.next_move input with ⟨target, move, same⟩
  rw [LdnControl.state_eq_of_core same] at enters
  rcases input with ⟨env, event⟩
  dsimp only at move
  cases move with
  | still => exact enters
  | setAdvertiseData => exact enters
  | connect => exact enters
  | connectTimeout => exact enters
  | getNetworkInfoLatestUpdate => exact enters
  | takeIn => exact enters
  | stationBye => exact enters
  | reap => exact enters
  | noteSync srcIp payload info seq =>
      rw [LdnControl.noteSyncSeq_state] at enters
      exact enters
  | applySync srcIp payload info seq carried accepted =>
      rw [appliedBody_of_accepted carried accepted] at unapplied
      exact absurd unapplied (by simp)
  | initializeLdn => exact absurd enters nofun
  | finalize => exact absurd enters nofun
  | openAccessPoint => exact absurd enters nofun
  | openStation => exact absurd enters nofun
  | closeAccessPoint => exact absurd enters nofun
  | closeStation => exact absurd enters nofun
  | createNetwork => exact absurd enters nofun
  | destroyNetwork => exact absurd enters nofun
  | disconnect => exact absurd enters nofun
  | hostBye => exact absurd enters nofun
  | hostSilent => exact absurd enters nofun

/-- A connected station shows the last sync. -/
def ShowsLast (known : Option (List UInt8)) (system : System) : Prop :=
  system.control.state = .stationConnected →
    known =
      some (NetworkInfo.codec.encode system.control.networkInfo)

theorem ShowsLast.next {known : Option (List UInt8)} {system : System}
    {input : Env × Event} (shows : ShowsLast known system)
    (silent : system.StationDoesNotAdvertise input) :
    ShowsLast ((system.appliedBody input).or known)
      (machine.next system input) := by
  intro enters
  cases applied : system.appliedBody input with
  | some body =>
      rw [next_networkInfo_of_appliedBody applied]
      rfl
  | none =>
      have connected := connected_of_unapplied applied enters
      have kept := viewKept_of_connected connected silent applied
      rw [kept.networkInfo]
      exact shows connected

/-! ## Runs -/

/--
As long as the game does not advertise while connected as a station, what a
connected station knows of its network is, byte for byte, the last sync that
was applied, and no step but an applied sync changes it.  The changes of the
node list are kept as well: only `GetNetworkInfoLatestUpdate` clears those it
returns, and `Initialize`, which ends the connection, starts them over.
-/
theorem connectedView_eq_lastApplied
    (mtu : UInt32) (inputs : List (Env × Event))
    (silent :
      machine.EachStep StationDoesNotAdvertise (initial mtu) inputs) :
    ((machine.run (initial mtu) inputs).control.state =
        .stationConnected →
      lastApplied mtu inputs =
        some
          (NetworkInfo.codec.encode
            (machine.run (initial mtu) inputs).control.networkInfo)) ∧
      machine.EachStep
        (fun system input =>
          system.control.state = .stationConnected →
            system.appliedBody input = none → system.ViewKept input)
        (initial mtu) inputs := by
  constructor
  · have initially : ShowsLast none (initial mtu) :=
      fun connected => absurd connected nofun
    exact
      Machine.latest_invariant
        (fun _ _ _ shows silent => ShowsLast.next shows silent)
        initially silent
  · exact
      silent.mono fun _ _ silent connected unapplied =>
        viewKept_of_connected connected silent unapplied

/-- A sync that lists the console of the example runs. -/
def welcome : Env × Event :=
  (Env.at 0,
    .frame 0x0A0D0003
      (syncArrival (Env.at 0) 0x0A0D0003 welcomingNetwork 1).payload)

/-- A game that joins nothing, and a sync that lists its console. -/
def welcomed : List (Env × Event) :=
  [(Env.at 0, .command .initializeLdn),
    (Env.at 0, .command .openStation)] ++ [welcome]

theorem run_welcomed :
    machine.run (initial 1400) welcomed = connectedSystem := by
  rw [welcomed, Machine.run_append, Machine.run_cons _ (machine.run _ _),
    Machine.run_nil, welcome, connectedSystem, stationSystem]

theorem connectedSystem_reachable :
    machine.Reachable (initial 1400) connectedSystem :=
  ⟨welcomed, run_welcomed⟩

theorem welcomed_shows :
    connectedSystem.control.state = .stationConnected ∧
      lastApplied 1400 welcomed =
        some
          (NetworkInfo.codec.encode
            connectedSystem.control.networkInfo) := by
  have silent :
      machine.EachStep StationDoesNotAdvertise (initial 1400)
        welcomed := by
    refine ⟨?_, ?_, ?_, trivial⟩ <;>
      · intro _ _ data advertises
        simp [welcome] at advertises
  have shows := (connectedView_eq_lastApplied 1400 welcomed silent).1
  rw [run_welcomed] at shows
  exact ⟨connectedSystem_state, shows connectedSystem_state⟩

/-- A station that advertises replaces its node list by itself alone. -/
theorem setAdvertiseData_nodeCount {mtu : UInt32} {system : System}
    (reachable : machine.Reachable (initial mtu) system)
    (elsewhere : system.control.state ≠ .accessPointCreated)
    (env : Env) {data : List UInt8}
    (fits : data.length ≤ advertiseDataSizeMax) :
    (system.control.setAdvertiseData env
      data).control.networkInfo.ldn.nodeCount = 1 := by
  have holds := roomInvariant_of_reachable reachable
  have empty :
      (system.control.advertised data).liveSlots
        LdnControl.stationSlots = [] :=
    holds.sound.liveSlots_eq.trans (holds.empty elsewhere)
  have placed :=
    (system.control.advertised data).placeStations_ofFn
      LdnControl.stationSlots
      (fun index =>
        if index.val = 0 then (system.control.advertised data).hostNode
        else NodeInfo.zero)
      1 (by rw [empty]; decide)
  rw [empty] at placed
  unfold LdnControl.setAdvertiseData
  rw [if_neg (not_lt.mpr fits), LdnControl.answer_control,
    Step.after_control, LdnControl.updateNodes_control]
  exact congrArg UInt8.ofNat placed.2

/-- The last sync of `welcomed` is the network that lists the console. -/
theorem lastApplied_welcomed :
    lastApplied 1400 welcomed =
      some (NetworkInfo.codec.encode welcomingNetwork) := by
  have applied :
      stationSystem.appliedBody welcome =
        some (NetworkInfo.codec.encode welcomingNetwork) :=
    appliedBody_of_accepted
      (syncOf_syncArrival (Env.at 0) 0x0A0D0003 welcomingNetwork 1) rfl
  rw [lastApplied, welcomed, Machine.latest_concat, ← stationSystem,
    applied, Option.some_or]

/-- The game of `welcomed` advertises no bytes. -/
def emptyAdvertisement : Env × Event :=
  (Env.at 0, .command (.setAdvertiseData []))

theorem next_emptyAdvertisement {system : System}
    (idle : system.phase = .idle) :
    (machine.next system emptyAdvertisement).control =
      (system.control.setAdvertiseData (Env.at 0) []).control := by
  unfold Machine.next emptyAdvertisement
  rw [next_command (Env.at 0) (.setAdvertiseData []) idle]
  rfl

/--
A connected station that advertises stays connected, but no longer shows the
network of its host.
-/
theorem welcomed_advertises :
    (machine.run (initial 1400)
        (welcomed ++ [emptyAdvertisement])).control.state =
        .stationConnected ∧
      lastApplied 1400 (welcomed ++ [emptyAdvertisement]) ≠
        some
          (NetworkInfo.codec.encode
            (machine.run (initial 1400)
              (welcomed ++
                [emptyAdvertisement])).control.networkInfo) := by
  have control :
      (machine.run (initial 1400)
          (welcomed ++ [emptyAdvertisement])).control =
        (connectedSystem.control.setAdvertiseData (Env.at 0)
          []).control := by
    rw [Machine.run_append, run_welcomed, Machine.run_cons,
      Machine.run_nil, next_emptyAdvertisement connectedSystem_phase]
  have known :
      lastApplied 1400 (welcomed ++ [emptyAdvertisement]) =
        some (NetworkInfo.codec.encode welcomingNetwork) := by
    rw [lastApplied, Machine.latest_concat, appliedBody,
      emptyAdvertisement, Option.none_or, ← lastApplied,
      lastApplied_welcomed]
  rw [control, known]
  constructor
  · rw [← LdnControl.joinView_state, LdnControl.joinView_setAdvertiseData,
      LdnControl.joinView_state, connectedSystem_state]
  · intro shows
    rw [Option.some.injEq] at shows
    have same := congrArg NetworkInfo.codec.decode shows
    rw [ByteCodec.decode_encode, ByteCodec.decode_encode] at same
    have elsewhere :
        connectedSystem.control.state ≠ .accessPointCreated := by
      rw [connectedSystem_state]
      nofun
    have fits : ([] : List UInt8).length ≤ advertiseDataSizeMax :=
      Nat.zero_le advertiseDataSizeMax
    have alone :=
      setAdvertiseData_nodeCount connectedSystem_reachable elsewhere
        (Env.at 0) fits
    rw [← same] at alone
    exact absurd alone (by decide)

end System

end SlpClient.Ldn
