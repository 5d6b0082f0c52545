import SlpClient.Lib.Relay
import SlpClient.Ldn.Goodbye
import SlpClient.Ldn.SentSyncs

/-!
# Sessions across consoles

Consoles share a relay.  A network is known by the BSSID of its host and by
the session id that `CreateNetwork` draws, but the gate for syncs compares
only the BSSID, which depends on nothing but the address of the host.  Two
networks that one host creates after another look the same to it.  As long as
no such pair meets a join, a joined station follows the network it asked for.
-/

namespace SlpClient.Ldn

open SlpClient.Lib

/-- Which network a network information is of. -/
def NetworkInfo.identity (info : NetworkInfo) : MacAddress × SessionId :=
  (info.common.bssid, info.networkId.sessionId)

/-- The networks created so far, and the last argument of each `Connect`. -/
structure Sessions (Index : Type) where
  created : List (MacAddress × SessionId)
  joined : Index → NetworkInfo

namespace System

/-- The identity of the network that this input creates. -/
def createsNetwork (system : System) (input : Env × Event) :
    Option (MacAddress × SessionId) :=
  match input.2 with
  | .command (.createNetwork _) =>
      if system.phase = .idle ∧ system.control.state = .accessPoint then
        some
          (fakeMac system.control.ipv4Address, input.1.randomSessionId)
      else none
  | _ => none

/-- The network information that this input passes to `Connect`. -/
def joinsNetwork (system : System) (input : Env × Event) :
    Option NetworkInfo :=
  match input.2 with
  | .command (.connect _ data) =>
      if system.phase = .idle ∧ system.control.state ≠ .none ∧
          data.ldn.nodeCount ≠ 0 then
        some data
      else none
  | _ => none

end System

/-- The datagram that an event brings in. -/
def Event.datagram : Event → Option (List UInt8)
  | .frame _ payload => some payload
  | _ => none

/-- Consoles over one relay; the source address of a frame is not trusted. -/
def consoles (Index : Type) [DecidableEq Index] :
    Relay Index System (Env × Event) (List Effect) (List UInt8)
      (Sessions Index) where
  machine := System.machine
  consumes input := input.2.datagram
  emits effects := (sentFrames effects).map Frame.bytes
  record who system input sessions :=
    { created :=
        (system.createsNetwork input).toList ++ sessions.created
      joined :=
        Function.update sessions.joined who
          ((system.joinsNetwork input).getD (sessions.joined who)) }

/-- Consoles before anything happened. -/
def initialConsoles {Index : Type} (mtu : Index → UInt32) :
    Relay.Network Index System (List UInt8) (Sessions Index) where
  nodes index := System.initial (mtu index)
  air := []
  ghost := ⟨[], fun _ => .zero⟩

/-! ## One console -/

namespace System

open LdnControl

/-- A host keeps the identity of its network. -/
theorem identity_of_move {system : System} {env : Env} {event : Event}
    {target : LdnControl} (move : Move system env event target)
    (hosting : target.state = .accessPointCreated) :
    system.createsNetwork (env, event) =
        some target.networkInfo.identity ∨
      (system.control.state = .accessPointCreated ∧
        target.networkInfo.identity =
          system.control.networkInfo.identity) := by
  cases move with
  | initializeLdn => nomatch hosting
  | finalize => nomatch hosting
  | openAccessPoint => nomatch hosting
  | openStation => nomatch hosting
  | closeAccessPoint => nomatch hosting
  | closeStation => nomatch hosting
  | destroyNetwork => nomatch hosting
  | disconnect => nomatch hosting
  | hostBye => nomatch hosting
  | hostSilent => nomatch hosting
  | createNetwork data idle opened =>
      refine .inl ?_
      unfold createsNetwork
      dsimp only
      rw [if_pos ⟨idle, opened⟩]
      rfl
  | noteSync srcIp payload info seq carried station =>
      rw [noteSyncSeq_state] at hosting
      rw [hosting] at station
      rcases station with station | station <;> nomatch station
  | applySync srcIp payload info seq carried accepted =>
      have station := acceptsSync_station accepted
      rcases applySync_state (system.control.noteSyncSeq seq) env info with
        same | connected
      · rw [same, noteSyncSeq_state] at hosting
        rw [hosting] at station
        rcases station with station | station <;> nomatch station
      · rw [connected] at hosting
        nomatch hosting
  | _ => exact .inr ⟨hosting, rfl⟩

theorem identity_next (system : System) (input : Env × Event)
    (hosting :
      (machine.next system input).control.state = .accessPointCreated) :
    system.createsNetwork input =
        some (machine.next system input).control.networkInfo.identity ∨
      (system.control.state = .accessPointCreated ∧
        (machine.next system input).control.networkInfo.identity =
          system.control.networkInfo.identity) := by
  rcases system.next_move input with ⟨target, move, same⟩
  rw [state_eq_of_core same] at hosting
  rw [(view_eq_of_core same).1]
  exact identity_of_move move hosting

/-- The join of a console is no bookkeeping. -/
theorem join_eq_of_core {control other : LdnControl}
    (same : control.core = other.core) :
    control.joinActive = other.joinActive ∧
      control.joinTargetBssid = other.joinTargetBssid := by
  have active := congrArg LdnControl.joinActive same
  have target := congrArg LdnControl.joinTargetBssid same
  exact ⟨active, target⟩

/-- An accepted `Connect`, and what it asks for. -/
theorem joinsNetwork_eq_some {system : System} {input : Env × Event}
    {data : NetworkInfo} (joins : system.joinsNetwork input = some data) :
    ∃ dat,
      input.2 = .command (.connect dat data) ∧ system.phase = .idle ∧
        system.control.state ≠ .none ∧ data.ldn.nodeCount ≠ 0 := by
  unfold joinsNetwork at joins
  split at joins
  · rename_i dat given asked
    split at joins
    · rename_i accepted
      rw [Option.some.injEq] at joins
      subst joins
      exact ⟨dat, asked, accepted⟩
    · simp at joins
  · simp at joins

/-- An accepted `Connect` sets the target. -/
theorem target_of_joins {system : System} {input : Env × Event}
    {data : NetworkInfo} (joins : system.joinsNetwork input = some data) :
    (machine.next system input).control.joinTargetBssid =
      data.common.bssid := by
  rcases input with ⟨env, event⟩
  rcases joinsNetwork_eq_some joins with
    ⟨dat, rfl, idle, ready, nodes⟩
  have whole : system = ⟨system.control, .idle⟩ := by
    rw [← idle]
  rw [whole, next_connect system.control env dat data ready nodes]
  rfl

/-- Nothing else starts a join or changes its target. -/
theorem join_of_move {system : System} {env : Env} {event : Event}
    {target : LdnControl} (move : Move system env event target)
    (none : system.joinsNetwork (env, event) = none)
    (active : target.joinActive = true) :
    system.control.joinActive = true ∧
      target.joinTargetBssid = system.control.joinTargetBssid := by
  cases move with
  | finalize => nomatch active
  | disconnect => nomatch active
  | connectTimeout => nomatch active
  | hostBye => nomatch active
  | hostSilent => nomatch active
  | connect dat data idle ready nodes =>
      unfold joinsNetwork at none
      dsimp only at none
      rw [if_pos ⟨idle, ready, nodes⟩] at none
      nomatch none
  | noteSync srcIp payload info seq =>
      rw [noteSyncSeq_joinActive] at active
      exact ⟨active, noteSyncSeq_joinTargetBssid ..⟩
  | applySync srcIp payload info seq =>
      have copied :=
        applySync_join (system.control.noteSyncSeq seq) env info
      rw [copied.1, noteSyncSeq_joinActive] at active
      rw [copied.2, noteSyncSeq_joinTargetBssid]
      exact ⟨active, rfl⟩
  | _ => exact ⟨active, rfl⟩

theorem join_next {system : System} {input : Env × Event}
    (none : system.joinsNetwork input = none)
    (active : (machine.next system input).control.joinActive = true) :
    system.control.joinActive = true ∧
      (machine.next system input).control.joinTargetBssid =
        system.control.joinTargetBssid := by
  rcases system.next_move input with ⟨target, move, same⟩
  rw [(join_eq_of_core same).1] at active
  rw [(join_eq_of_core same).2]
  exact join_of_move move none active

end System

/-! ## All consoles -/

section Consoles

variable {Index : Type} [DecidableEq Index]

/-- What holds of one console, given what happened. -/
structure FollowsSessions (sessions : Sessions Index) (who : Index)
    (system : System) : Prop where
  room : system.control.RoomInvariant
  hosted :
    system.control.state = .accessPointCreated →
      system.control.networkInfo.identity ∈ sessions.created
  target :
    system.control.joinActive = true →
      system.control.joinTargetBssid = (sessions.joined who).common.bssid
  apart :
    system.control.joinActive = true →
      ∀ network ∈ sessions.created,
        network.1 = (sessions.joined who).common.bssid →
          network.2 = (sessions.joined who).networkId.sessionId

/-- A sync in the air is of a network that was created. -/
def GenuineSync (sessions : Sessions Index) (payload : List UInt8) :
    Prop :=
  ∀ info seq, syncOf payload = some (info, seq) →
    info.identity ∈ sessions.created

/--
A network is not created under the BSSID that a console has joined as another
session, and `Connect` is not called for a BSSID under which another session
than the given one was created.
-/
structure KeepsApart
    (network : Relay.Network Index System (List UInt8) (Sessions Index))
    (input : Index × Env × Event) : Prop where
  creates :
    ∀ fresh ∈ (network.nodes input.1).createsNetwork input.2,
      ∀ other, (network.nodes other).control.joinActive = true →
        fresh.1 = (network.ghost.joined other).common.bssid →
          fresh.2 = (network.ghost.joined other).networkId.sessionId
  joins :
    ∀ data ∈ (network.nodes input.1).joinsNetwork input.2,
      ∀ old ∈ network.ghost.created,
        old.1 = data.common.bssid → old.2 = data.networkId.sessionId

/-- What a joined console copies in is of the session it asked for. -/
def FollowsJoined
    (network : Relay.Network Index System (List UInt8) (Sessions Index))
    (input : Index × Env × Event) : Prop :=
  (consoles Index).Carries network input.2 →
    ∀ body, (network.nodes input.1).appliedBody input.2 = some body →
      (network.nodes input.1).control.joinActive = true →
        (NetworkInfo.codec.decode body).networkId.sessionId =
          (network.ghost.joined input.1).networkId.sessionId

variable
  {network : Relay.Network Index System (List UInt8) (Sessions Index)}

theorem mem_record_created {who : Index} {system : System}
    {input : Env × Event} {sessions : Sessions Index}
    {identity : MacAddress × SessionId} :
    identity ∈
        ((consoles Index).record who system input sessions).created ↔
      identity ∈ system.createsNetwork input ∨
        identity ∈ sessions.created := by
  change identity ∈ _ ++ _ ↔ _
  rw [List.mem_append, Option.mem_toList, Option.mem_def]

theorem record_joined_other {who other : Index} (system : System)
    (input : Env × Event) (sessions : Sessions Index)
    (differs : other ≠ who) :
    ((consoles Index).record who system input sessions).joined other =
      sessions.joined other :=
  Function.update_of_ne differs _ _

/-- A console creates nothing while it joins. -/
theorem createsNetwork_of_joins {system : System} {input : Env × Event}
    {data : NetworkInfo} (joins : system.joinsNetwork input = some data) :
    system.createsNetwork input = none := by
  rcases input with ⟨env, event⟩
  rcases System.joinsNetwork_eq_some joins with ⟨dat, rfl, -⟩
  rfl

theorem FollowsSessions.own
    {who : Index} {input : Env × Event}
    (follows :
      FollowsSessions network.ghost who (network.nodes who))
    (keeps : KeepsApart network (who, input)) :
    FollowsSessions
      ((consoles Index).record who (network.nodes who) input
        network.ghost)
      who (System.machine.next (network.nodes who) input) := by
  have recorded :
      ((consoles Index).record who (network.nodes who) input
          network.ghost).joined who =
        ((network.nodes who).joinsNetwork input).getD
          (network.ghost.joined who) :=
    Function.update_self ..
  constructor
  · exact System.roomInvariant_next input follows.room
  · intro hosting
    rw [mem_record_created]
    rcases System.identity_next _ input hosting with fresh | ⟨before, same⟩
    · exact .inl fresh
    · rw [same]
      exact .inr (follows.hosted before)
  · intro active
    rw [recorded]
    cases joins : (network.nodes who).joinsNetwork input with
    | some data => exact System.target_of_joins joins
    | none =>
        rcases System.join_next joins active with ⟨before, same⟩
        rw [same]
        exact follows.target before
  · intro active identity member
    rw [recorded]
    rw [mem_record_created] at member
    cases joins : (network.nodes who).joinsNetwork input with
    | some data =>
        rw [createsNetwork_of_joins joins] at member
        rcases member with fresh | old
        · nomatch fresh
        · exact keeps.joins data joins identity old
    | none =>
        have before := (System.join_next joins active).1
        rcases member with fresh | old
        · exact keeps.creates identity fresh who before
        · exact follows.apart before identity old

theorem FollowsSessions.others
    {who other : Index} {input : Env × Event}
    (follows :
      FollowsSessions network.ghost other (network.nodes other))
    (keeps : KeepsApart network (who, input)) (differs : other ≠ who) :
    FollowsSessions
      ((consoles Index).record who (network.nodes who) input
        network.ghost)
      other (network.nodes other) := by
  have same :=
    record_joined_other (network.nodes who) input network.ghost differs
  constructor
  · exact follows.room
  · intro hosting
    exact mem_record_created.mpr (.inr (follows.hosted hosting))
  · rw [same]
    exact follows.target
  · intro active identity member
    rw [same]
    rcases mem_record_created.mp member with fresh | old
    · exact keeps.creates identity fresh other active
    · exact follows.apart active identity old

/-- A sync frame that fits is read as it was sent. -/
theorem syncOf_bytes {frame : Frame} {info : NetworkInfo} {seq : UInt16}
    (fits : frame.body.length ≤ NetworkInfo.codec.size)
    (carried : syncOf frame.bytes = some (info, seq)) :
    frame.type = .syncNetwork ∧
      info = NetworkInfo.codec.decode frame.body := by
  rcases syncOf_eq_some carried with ⟨body, opened, length, rfl⟩
  have sent :=
    LdnControl.openedFrame_frameBytes frame.type frame.seq frame.body fits
  have same := opened.symm.trans sent
  rw [Option.some.injEq, Prod.mk.injEq, Prod.mk.injEq] at same
  exact ⟨same.1.symm, by rw [same.2.1]⟩

/-- The syncs of a step are of networks created by then. -/
theorem FollowsSessions.sent
    {who : Index} {input : Env × Event}
    (follows :
      FollowsSessions network.ghost who (network.nodes who))
    (keeps : KeepsApart network (who, input)) :
    ∀ payload ∈
        (consoles Index).emits
          (System.machine.output (network.nodes who) input),
      GenuineSync
        ((consoles Index).record who (network.nodes who) input
          network.ghost)
        payload := by
  intro payload member info seq carried
  rcases List.mem_map.mp member with ⟨frame, sent, rfl⟩
  have sends :=
    System.sendsHosted_output follows.room input frame
      (mem_sentFrames.mp sent)
  rcases syncOf_bytes sends.1 carried with ⟨sync, rfl⟩
  rcases sends.2 sync with ⟨hosting, same⟩
  rw [same, ByteCodec.decode_encode]
  exact (follows.own keeps).hosted hosting

theorem guarantees_of_keepsApart
    (holds :
      Relay.Holds FollowsSessions GenuineSync network)
    {who : Index} {input : Env × Event}
    (keeps : KeepsApart network (who, input)) :
    Relay.Guarantees FollowsSessions GenuineSync (consoles Index)
      network who input where
  own := (holds.nodes who).own keeps
  others other differs := (holds.nodes other).others keeps differs
  sent := (holds.nodes who).sent keeps
  kept payload old info seq carried :=
    mem_record_created.mpr (.inr (holds.air payload old info seq carried))

/-- A sync that is genuine and passes the gate is of the joined session. -/
theorem followsJoined_of_holds
    (holds : Relay.Holds FollowsSessions GenuineSync network)
    (input : Index × Env × Event) : FollowsJoined network input := by
  rcases input with ⟨who, env, event⟩
  intro carries body applied active
  rcases System.appliedBody_eq_some applied with
    ⟨srcIp, payload, seq, frame, length, carried, accepted⟩
  have air : payload ∈ network.air := by
    apply carries
    dsimp only at frame
    rw [frame]
    rfl
  have created := holds.air payload air _ seq carried
  have gate := (LdnControl.acceptsSync_gates accepted).2
  have bssid :
      (NetworkInfo.codec.decode body).common.bssid =
        (network.ghost.joined who).common.bssid := by
    by_contra other
    rw [← (holds.nodes who).target active] at other
    exact gate ⟨active, other⟩
  exact (holds.nodes who).apart active _ created bssid

omit [DecidableEq Index] in
theorem holds_initialConsoles (mtu : Index → UInt32) :
    Relay.Holds FollowsSessions GenuineSync (initialConsoles mtu) where
  nodes index :=
    { room := System.roomInvariant_initial (mtu index)
      hosted := fun hosting => nomatch hosting
      target := fun active => nomatch active
      apart := fun active => nomatch active }
  air _ none := absurd none List.not_mem_nil

/--
Consoles over a relay that loses, delays, duplicates and floods frames: as
long as sessions are kept apart by their BSSIDs, every sync that a console
with an active join copies in is of the session passed to `Connect`.
-/
theorem followsJoined_of_keepsApart
    (mtu : Index → UInt32) (inputs : List (Index × Env × Event))
    (apart :
      (consoles Index).world.EachStep KeepsApart (initialConsoles mtu)
        inputs) :
    (consoles Index).world.EachStep FollowsJoined (initialConsoles mtu)
      inputs :=
  Machine.eachStep_of_invariant
    (fun _ input holds keeps =>
      Relay.Holds.next holds input fun _ =>
        guarantees_of_keepsApart holds keeps)
    (fun _ input holds _ => followsJoined_of_holds holds input)
    (holds_initialConsoles mtu) apart

/-! ## A host that opens two rooms -/

/-- What is known of a network of consoles; the air may hold more. -/
structure Stage
    (network : Relay.Network Index System (List UInt8) (Sessions Index))
    (nodes : Index → System) (packets : List (List UInt8))
    (sessions : Sessions Index) : Prop where
  nodes : network.nodes = nodes
  air : ∀ packet ∈ packets, packet ∈ network.air
  ghost : network.ghost = sessions

variable {nodes : Index → System} {packets : List (List UInt8)}
  {sessions : Sessions Index}

/-- The next stage, when the datagram of the input is in the air. -/
theorem Stage.next (stage : Stage network nodes packets sessions)
    (who : Index) (input : Env × Event)
    (carried : ∀ packet ∈ input.2.datagram, packet ∈ packets) :
    Stage ((consoles Index).world.next network (who, input))
      (Function.update nodes who (System.machine.next (nodes who) input))
      (packets ++
        (sentFrames (System.machine.output (nodes who) input)).map
          Frame.bytes)
      ((consoles Index).record who (nodes who) input sessions) := by
  have carries : (consoles Index).Carries network input :=
    fun packet member => stage.air packet (carried packet member)
  rw [Relay.next_of_carries carries]
  constructor
  · rw [← stage.nodes]
    rfl
  · intro packet member
    rw [← stage.nodes] at member
    rcases List.mem_append.mp member with old | fresh
    · exact List.mem_append_left _ (stage.air packet old)
    · exact List.mem_append_right _ fresh
  · rw [← stage.nodes, ← stage.ghost]
    rfl

omit [DecidableEq Index] in
theorem Stage.fewer {fewer : List (List UInt8)}
    (stage : Stage network nodes packets sessions)
    (subset : ∀ packet ∈ fewer, packet ∈ packets) :
    Stage network nodes fewer sessions :=
  ⟨stage.nodes, fun packet member => stage.air packet (subset packet member),
    stage.ghost⟩

/-- Events that neither create nor join a network. -/
def Event.Unrecorded : Event → Prop
  | .command (.createNetwork _) => False
  | .command (.connect _ _) => False
  | _ => True

theorem Event.Unrecorded.quiet {event : Event}
    (unrecorded : event.Unrecorded) (system : System) (env : Env) :
    system.createsNetwork (env, event) = none ∧
      system.joinsNetwork (env, event) = none := by
  cases event with
  | command command =>
      cases command <;> first | exact ⟨rfl, rfl⟩ | nomatch unrecorded
  | _ => exact ⟨rfl, rfl⟩

theorem record_unrecorded {input : Env × Event}
    (unrecorded : input.2.Unrecorded) (who : Index) (system : System)
    (sessions : Sessions Index) :
    (consoles Index).record who system input sessions = sessions := by
  have quiet := unrecorded.quiet system input.1
  unfold consoles
  dsimp only
  rw [quiet.1, quiet.2]
  simp

theorem record_creates {input : Env × Event} {system : System}
    {identity : MacAddress × SessionId}
    (creates : system.createsNetwork input = some identity)
    (who : Index) (sessions : Sessions Index) :
    (consoles Index).record who system input sessions =
      ⟨identity :: sessions.created, sessions.joined⟩ := by
  have apart : system.joinsNetwork input = none := by
    cases joins : system.joinsNetwork input with
    | none => rfl
    | some data =>
        rw [createsNetwork_of_joins joins] at creates
        nomatch creates
  unfold consoles
  dsimp only
  rw [creates, apart]
  simp

theorem record_joins {input : Env × Event} {system : System}
    {data : NetworkInfo} (joins : system.joinsNetwork input = some data)
    (who : Index) (sessions : Sessions Index) :
    (consoles Index).record who system input sessions =
      ⟨sessions.created, Function.update sessions.joined who data⟩ := by
  unfold consoles
  dsimp only
  rw [createsNetwork_of_joins joins, joins]
  rfl

/-- Inputs of one console that bring no datagram. -/
theorem Stage.run (stage : Stage network nodes packets sessions)
    (who : Index) (inputs : List (Env × Event))
    (alone :
      ∀ input ∈ inputs, input.2.Unrecorded ∧ input.2.datagram = none) :
    Stage
      ((consoles Index).world.run network (inputs.map (Prod.mk who)))
      (Function.update nodes who
        (System.machine.run (nodes who) inputs))
      packets sessions := by
  induction inputs generalizing network nodes with
  | nil =>
      rw [Machine.run_nil, Function.update_eq_self]
      exact stage
  | cons input rest induction =>
      have first := alone input List.mem_cons_self
      have stepped := stage.next who input (by rw [first.2]; nofun)
      rw [record_unrecorded first.1] at stepped
      have weaker :=
        stepped.fewer fun packet member =>
          List.mem_append_left _ member
      have later :=
        induction weaker fun other member =>
          alone other (List.mem_cons_of_mem _ member)
      rw [Function.update_idem, Function.update_self] at later
      exact later

/-- Steps that record nothing keep sessions apart. -/
theorem keepsApart_unrecorded
    (inputs : List (Index × Env × Event))
    (unrecorded : ∀ input ∈ inputs, input.2.2.Unrecorded) :
    (consoles Index).world.EachStep KeepsApart network inputs := by
  induction inputs generalizing network with
  | nil => trivial
  | cons input rest induction =>
      rcases input with ⟨who, env, event⟩
      have quiet :=
        (unrecorded _ List.mem_cons_self).quiet (network.nodes who) env
      refine ⟨⟨?_, ?_⟩, ?_⟩
      · intro fresh creates
        rw [quiet.1] at creates
        nomatch creates
      · intro data joins
        rw [quiet.2] at joins
        nomatch joins
      · exact
          induction fun other member =>
            unrecorded other (List.mem_cons_of_mem _ member)

end Consoles

/-- The two consoles of the example runs. -/
inductive Console where
  | host
  | guest
deriving DecidableEq

namespace System

/-- The guest lives at `10.13.0.3`. -/
def guestEnv : Env :=
  { Env.at 0 with virtualOctets := (0, 3) }

/-- The second room of the host gets another session id. -/
def laterEnv : Env :=
  { Env.at 0 with randomSessionId := ⟨3, 4⟩ }

def anyNetwork : ScanFilter :=
  ⟨NetworkInfo.zero.networkId, 0, ⟨0, fun _ => 0⟩, 0⟩

/-- What a send puts in the air. -/
theorem mem_bytes_sendFrame (control : LdnControl) {env : Env}
    (running : env.running = true) (dst : UInt32) (type : LanPacketType)
    (body : List UInt8) :
    frameBytes type (nextSeq control.txSeq) body ∈
      (sentFrames (control.sendFrame env dst type body).effects).map
        Frame.bytes := by
  rw [LdnControl.sentFrames_sendFrame, if_pos running]
  exact List.mem_singleton_self _

/-! ### The guest -/

/-- The guest, about to broadcast a scan. -/
def guestScanning : System :=
  machine.run (initial 1400)
    [(guestEnv, .command .initializeLdn),
      (guestEnv, .command .openStation),
      (guestEnv, .command (.scan anyNetwork 8))]

/-- The guest after the scan. -/
def guestScanned : System :=
  machine.run (machine.next guestScanning (guestEnv, .ipc))
    (List.replicate 21 (guestEnv, .ipc))

/-- The network that the host announced. -/
def firstRoom : NetworkInfo :=
  hostingSystem.control.networkInfo

/-- The guest asks for that network. -/
def request : Env × Event :=
  (guestEnv, .command (.connect ⟨⟨fun _ => 0⟩, 0⟩ firstRoom))

/-- The guest, about to send its Connect frame. -/
def guestAsking : System :=
  machine.next guestScanned request

/-- The guest, waiting for a sync. -/
def guestJoining : System :=
  machine.next guestAsking (guestEnv, .ipc)

/-- The node that the guest announces. -/
def guestNode : NodeInfo :=
  guestScanned.control.joiningNode ⟨⟨fun _ => 0⟩, 0⟩

/-- The Connect frame of the guest. -/
def connectBytes : List UInt8 :=
  frameBytes .connect (nextSeq guestAsking.control.txSeq)
    (NodeInfo.codec.encode guestNode)

theorem guestScanned_phase : guestScanned.phase = .idle :=
  rfl

theorem guestScanned_station : guestScanned.control.state = .station :=
  rfl

theorem guestAsking_eq :
    guestAsking =
      connectStarted guestScanned.control guestNode firstRoom := by
  have whole : guestScanned = ⟨guestScanned.control, .idle⟩ := by
    rw [← guestScanned_phase]
  have ready : guestScanned.control.state ≠ .none := by
    rw [guestScanned_station]
    nofun
  rw [guestAsking, request, guestNode,
    ← next_connect guestScanned.control guestEnv ⟨⟨fun _ => 0⟩, 0⟩
      firstRoom ready (by decide), ← whole]

theorem scan_sent :
    frameBytes .scan 1 [] ∈
      (sentFrames (machine.output guestScanning (guestEnv, .ipc))).map
        Frame.bytes :=
  mem_bytes_sendFrame guestScanning.control rfl _ .scan []

theorem connect_sent :
    connectBytes ∈
      (sentFrames (machine.output guestAsking (guestEnv, .ipc))).map
        Frame.bytes := by
  have sent :=
    mem_bytes_sendFrame guestAsking.control (show guestEnv.running from rfl)
      (firstRoom.ldn.nodes 0).ipv4Address .connect
      (NodeInfo.codec.encode guestNode)
  have output :
      machine.output guestAsking (guestEnv, .ipc) =
        (guestAsking.control.sendFrame guestEnv
          (firstRoom.ldn.nodes 0).ipv4Address .connect
          (NodeInfo.codec.encode guestNode)).effects := by
    rw [guestAsking_eq]
    rfl
  rw [output]
  exact sent

theorem guestJoining_control :
    guestJoining.control =
      { guestScanned.control.connectBegin firstRoom with
        txSeq := nextSeq guestScanned.control.txSeq } := by
  have control :
      guestJoining.control =
        (guestAsking.control.sendFrame guestEnv
          (firstRoom.ldn.nodes 0).ipv4Address .connect
          (NodeInfo.codec.encode guestNode)).control := by
    rw [guestJoining, guestAsking_eq]
    rfl
  rw [control, LdnControl.sendFrame_control, guestAsking_eq]
  rfl

/-- The guest takes any sync under the BSSID it asked for. -/
theorem guestJoining_accepts {info : NetworkInfo}
    (same : info.common.bssid = firstRoom.common.bssid) (seq : UInt16) :
    guestJoining.control.acceptsSync info seq = true := by
  have unset : guestScanned.control.relaySyncSeqValid = false := rfl
  rw [guestJoining_control, LdnControl.acceptsSync,
    LdnControl.staleSync]
  simp [LdnControl.connectBegin, guestScanned_station, unset, same]

/-! ### The host -/

/-- The host that has heard the scan of the guest. -/
def hostScanned : System :=
  machine.next hostingSystem
    (Env.at 0, .frame 0x0A0D0003 (frameBytes .scan 1 []))

theorem hostScanned_eq : hostScanned = ⟨scannedControl, .idle⟩ := by
  rw [hostScanned, scannedControl, next_frame]
  rfl

/-- The host with its second room. -/
def hostReopened : System :=
  machine.run hostScanned
    [(Env.at 0, .command .destroyNetwork),
      (laterEnv, .command (.createNetwork sampleConfig))]

/-- A host that is ready to take the guest in. -/
structure ReadyForGuest (system : System) : Prop where
  hosting : system.control.state = .accessPointCreated
  recent : system.control.wasRecentScanner 0 0x0A0D0003 = true
  found : system.control.connectSlot 0x0A0D0003 = some 0

theorem hostScanned_ready : ReadyForGuest hostScanned := by
  rw [hostScanned_eq, scannedControl_eq]
  exact ⟨rfl, rfl, rfl⟩

theorem hostReopened_ready : ReadyForGuest hostReopened := by
  rw [hostReopened, hostScanned_eq, scannedControl_eq]
  exact ⟨rfl, rfl, rfl⟩

/-- The host that has taken the guest in. -/
def admitted (system : System) : System :=
  machine.next system (Env.at 0, .frame 0x0A0D0003 connectBytes)

/-- The sync that the guest is sent. -/
def syncBytes (system : System) : List UInt8 :=
  frameBytes .syncNetwork (nextSeq system.control.txSeq)
    (NetworkInfo.codec.encode (admitted system).control.networkInfo)

/-- The host with the guest in its first slot. -/
def withGuest (control : LdnControl) : LdnControl :=
  control.withStation 0
    (LdnControl.connectedStation (Env.at 0) 0x0A0D0003 guestNode 0)

theorem ReadyForGuest.onControlFrame {system : System}
    (ready : ReadyForGuest system) :
    ∃ accesses,
      system.control.onControlFrame (Env.at 0) 0x0A0D0003 connectBytes =
        locked
          (Step.after accesses
            ((withGuest system.control).updateNodes (Env.at 0))) :=
  onControlFrame_connect (Env.at 0) 0x0A0D0003 _ guestNode ready.hosting
    ready.recent ready.found

theorem ReadyForGuest.networkInfo {system : System}
    (ready : ReadyForGuest system) :
    (admitted system).control.networkInfo =
      (withGuest system.control).buildNetwork.1 := by
  rcases ready.onControlFrame with ⟨accesses, connected⟩
  rw [admitted, next_frame]
  dsimp only
  rw [connected, locked_control, Step.after_control,
    LdnControl.updateNodes_control]
  rfl

/-- The first live station is the first to be sent a sync. -/
theorem send_mem_updateNodes {control : LdnControl} {env : Env}
    (running : env.running = true)
    (live : (control.stations 0).live = true) :
    Effect.send
        ⟨(control.stations 0).srcIp, .syncNetwork, nextSeq control.txSeq,
          NetworkInfo.codec.encode control.buildNetwork.1⟩ ∈
      (control.updateNodes env).effects := by
  unfold LdnControl.updateNodes LdnControl.stationSlots
  rw [Step.after_effects, Step.andThen_effects, List.append_nil,
    LdnControl.syncStations]
  dsimp only
  rw [if_pos live, Step.andThen_effects]
  refine List.mem_append_right _ (List.mem_append_left _ ?_)
  rw [← mem_sentFrames, LdnControl.sentFrames_sendFrame, if_pos running]
  exact List.mem_singleton_self _

/-- A host that takes the guest in sends it a sync. -/
theorem ReadyForGuest.sync_sent {system : System}
    (ready : ReadyForGuest system) :
    syncBytes system ∈
      (sentFrames
        (machine.output system
          (Env.at 0, .frame 0x0A0D0003 connectBytes))).map
        Frame.bytes := by
  rcases ready.onControlFrame with ⟨accesses, connected⟩
  have live : ((withGuest system.control).stations 0).live = true := rfl
  have sent := send_mem_updateNodes (show (Env.at 0).running from rfl) live
  have output :
      machine.output system (Env.at 0, .frame 0x0A0D0003 connectBytes) =
        (system.control.onControlFrame (Env.at 0) 0x0A0D0003
          connectBytes).effects :=
    rfl
  rw [syncBytes, ready.networkInfo, output, connected]
  have among :
      Effect.send _ ∈
        (locked
          (Step.after accesses
            ((withGuest system.control).updateNodes
              (Env.at 0)))).effects :=
    List.mem_cons_of_mem _
      (List.mem_append_left _ (List.mem_append_right _ sent))
  exact List.mem_map_of_mem (mem_sentFrames.mpr among)

/-! ### Both -/

/-- The two consoles together. -/
def bothAt (host guest : System) : Console → System
  | .host => host
  | .guest => guest

theorem update_host (host guest next : System) :
    Function.update (bothAt host guest) .host next =
      bothAt next guest := by
  funext console
  cases console <;> rfl

theorem update_guest (host guest next : System) :
    Function.update (bothAt host guest) .guest next =
      bothAt host next := by
  funext console
  cases console <;> rfl

section BothAt

variable
  {network :
    Relay.Network Console System (List UInt8) (Sessions Console)}
  {host guest : System} {packets : List (List UInt8)}
  {sessions : Sessions Console}
  (stage : Stage network (bothAt host guest) packets sessions)

include stage

theorem Stage.hostNext (input : Env × Event)
    (carried : ∀ packet ∈ input.2.datagram, packet ∈ packets) :
    Stage ((consoles Console).world.next network (.host, input))
      (bothAt (machine.next host input) guest)
      (packets ++
        (sentFrames (machine.output host input)).map Frame.bytes)
      ((consoles Console).record .host host input sessions) := by
  rw [← update_host host guest]
  exact stage.next .host input carried

theorem Stage.guestNext (input : Env × Event)
    (carried : ∀ packet ∈ input.2.datagram, packet ∈ packets) :
    Stage ((consoles Console).world.next network (.guest, input))
      (bothAt host (machine.next guest input))
      (packets ++
        (sentFrames (machine.output guest input)).map Frame.bytes)
      ((consoles Console).record .guest guest input sessions) := by
  rw [← update_guest host guest]
  exact stage.next .guest input carried

theorem Stage.hostRun (inputs : List (Env × Event))
    (alone :
      ∀ input ∈ inputs, input.2.Unrecorded ∧ input.2.datagram = none) :
    Stage
      ((consoles Console).world.run network (inputs.map (Prod.mk .host)))
      (bothAt (machine.run host inputs) guest) packets sessions := by
  rw [← update_host host guest]
  exact stage.run .host inputs alone

theorem Stage.guestRun (inputs : List (Env × Event))
    (alone :
      ∀ input ∈ inputs, input.2.Unrecorded ∧ input.2.datagram = none) :
    Stage
      ((consoles Console).world.run network (inputs.map (Prod.mk .guest)))
      (bothAt host (machine.run guest inputs)) packets sessions := by
  rw [← update_guest host guest]
  exact stage.run .guest inputs alone

/-- What the guest copies in, if it follows its join. -/
theorem Stage.guestSession {input : Env × Event} {info : NetworkInfo}
    (follows : FollowsJoined network (.guest, input))
    (carried : ∀ packet ∈ input.2.datagram, packet ∈ packets)
    (applied :
      guest.appliedBody input = some (NetworkInfo.codec.encode info))
    (active : guest.control.joinActive = true) :
    info.networkId.sessionId =
      (sessions.joined .guest).networkId.sessionId := by
  have carries : (consoles Console).Carries network input :=
    fun packet member => stage.air packet (carried packet member)
  have session := follows carries (NetworkInfo.codec.encode info)
  dsimp only at session
  rw [stage.nodes, stage.ghost] at session
  have equal := session applied active
  rw [ByteCodec.decode_encode] at equal
  exact equal

end BothAt

/-- The host before it creates a network. -/
def hostOpened : System :=
  machine.run (initial 1400)
    [(Env.at 0, .command .initializeLdn),
      (Env.at 0, .command .openAccessPoint)]

def creation : Env × Event :=
  (Env.at 0, .command (.createNetwork sampleConfig))

/-- The guest looks for rooms, and the host gets ready to open one. -/
def announcing : List (Console × Env × Event) :=
  [(guestEnv, .command .initializeLdn),
      (guestEnv, .command .openStation),
      (guestEnv, .command (.scan anyNetwork 8))].map (Prod.mk .guest) ++
    [(.guest, guestEnv, .ipc)] ++
    [(Env.at 0, .command .initializeLdn),
      (Env.at 0, .command .openAccessPoint)].map (Prod.mk .host)

/-- The host hears of the guest, which finishes its scan. -/
def meeting : List (Console × Env × Event) :=
  [(.host, Env.at 0, .frame 0x0A0D0003 (frameBytes .scan 1 []))] ++
    (List.replicate 21 (guestEnv, Event.ipc)).map (Prod.mk .guest)

/-- The example consoles, at the start. -/
def startingConsoles :
    Relay.Network Console System (List UInt8) (Sessions Console) :=
  initialConsoles fun _ => 1400

theorem announced :
    Stage ((consoles Console).world.run startingConsoles announcing)
      (bothAt hostOpened (machine.next guestScanning (guestEnv, .ipc)))
      [frameBytes .scan 1 []] ⟨[], fun _ => .zero⟩ := by
  have start :
      Stage startingConsoles (bothAt (initial 1400) (initial 1400)) []
        ⟨[], fun _ => .zero⟩ := by
    refine ⟨?_, fun packet none => absurd none List.not_mem_nil, rfl⟩
    funext console
    cases console <;> rfl
  have scanning :=
    Stage.guestRun start
      [(guestEnv, .command .initializeLdn),
        (guestEnv, .command .openStation),
        (guestEnv, .command (.scan anyNetwork 8))]
      (by simp [Event.Unrecorded, Event.datagram])
  rw [← guestScanning] at scanning
  have asked := Stage.guestNext scanning (guestEnv, .ipc) nofun
  have unrecorded : ((guestEnv, Event.ipc) : Env × Event).2.Unrecorded :=
    trivial
  rw [record_unrecorded unrecorded] at asked
  have heard :=
    asked.fewer fun packet (member : packet ∈ [frameBytes .scan 1 []]) =>
      List.mem_append_right [] (List.mem_singleton.mp member ▸ scan_sent)
  have opened :=
    Stage.hostRun heard
      [(Env.at 0, .command .initializeLdn),
        (Env.at 0, .command .openAccessPoint)]
      (by simp [Event.Unrecorded, Event.datagram])
  rw [announcing, Machine.run_append, Machine.run_append,
    Machine.run_cons, Machine.run_nil]
  exact opened

theorem creation_creates :
    hostOpened.createsNetwork creation = some firstRoom.identity :=
  rfl

theorem met :
    Stage
      ((consoles Console).world.run startingConsoles
        (announcing ++ [(.host, creation)] ++ meeting))
      (bothAt hostScanned guestScanned) []
      ⟨[firstRoom.identity], fun _ => .zero⟩ := by
  have created := Stage.hostNext announced creation nofun
  rw [record_creates creation_creates] at created
  have heard :=
    Stage.hostNext created
      (Env.at 0, .frame 0x0A0D0003 (frameBytes .scan 1 []))
      (by
        rintro packet ⟨⟩
        exact List.mem_append_left _ (List.mem_singleton_self _))
  have unrecorded :
      ((Env.at 0, Event.frame 0x0A0D0003 (frameBytes .scan 1 [])) :
        Env × Event).2.Unrecorded :=
    trivial
  rw [record_unrecorded unrecorded] at heard
  have scanned :=
    Stage.guestRun
      (heard.fewer fun packet (none : packet ∈ []) =>
        absurd none List.not_mem_nil)
      (List.replicate 21 (guestEnv, .ipc))
      (by simp [Event.Unrecorded, Event.datagram])
  rw [meeting, Machine.run_append, Machine.run_append, Machine.run_append,
    Machine.run_cons, Machine.run_nil, Machine.run_cons, Machine.run_nil]
  exact scanned

theorem request_joins :
    guestScanned.joinsNetwork request = some firstRoom :=
  rfl

/-- The guest has asked for the first room; its Connect frame is under way. -/
def gathering : List (Console × Env × Event) :=
  announcing ++ [(.host, creation)] ++ meeting ++
    [(.guest, request), (.guest, guestEnv, .ipc)]

/-- What the run has recorded by then. -/
def gatheredSessions : Sessions Console :=
  ⟨[firstRoom.identity],
    Function.update (fun _ => .zero) .guest firstRoom⟩

theorem gathered :
    Stage ((consoles Console).world.run startingConsoles gathering)
      (bothAt hostScanned guestJoining) [connectBytes]
      gatheredSessions := by
  have asked := Stage.guestNext met request nofun
  rw [record_joins request_joins, ← guestAsking] at asked
  have sent := Stage.guestNext asked (guestEnv, .ipc) nofun
  have unrecorded : ((guestEnv, Event.ipc) : Env × Event).2.Unrecorded :=
    trivial
  rw [record_unrecorded unrecorded, ← guestJoining] at sent
  rw [gathering, Machine.run_append, Machine.run_cons, Machine.run_cons,
    Machine.run_nil]
  exact
    sent.fewer fun packet member =>
      List.mem_append_right _ (List.mem_singleton.mp member ▸ connect_sent)

/-- The Connect frame reaches the host. -/
def arrival : Env × Event :=
  (Env.at 0, .frame 0x0A0D0003 connectBytes)

/-- The guest is sent the sync of the room it gets into. -/
def reply (host : System) : Env × Event :=
  (guestEnv, .frame 0x0A0D2502 (syncBytes host))

theorem reply_carried (host : System) :
    ∀ packet ∈ (reply host).2.datagram, packet ∈ [syncBytes host] := by
  rintro packet ⟨⟩
  exact List.mem_singleton_self _

section Admission

variable
  {network :
    Relay.Network Console System (List UInt8) (Sessions Console)}
  {host : System} {sessions : Sessions Console}

/-- The host takes the guest in, and its sync is in the air. -/
theorem ReadyForGuest.admits (ready : ReadyForGuest host)
    (stage :
      Stage network (bothAt host guestJoining) [connectBytes] sessions) :
    Stage ((consoles Console).world.next network (.host, arrival))
      (bothAt (admitted host) guestJoining) [syncBytes host]
      sessions := by
  have unrecorded : arrival.2.Unrecorded := trivial
  have taken :=
    Stage.hostNext stage arrival
      (by
        rintro packet ⟨⟩
        exact List.mem_singleton_self _)
  rw [record_unrecorded unrecorded] at taken
  exact
    taken.fewer fun packet member =>
      List.mem_append_right _
        (List.mem_singleton.mp member ▸ ready.sync_sent)

/-- The guest copies the sync in. -/
theorem ReadyForGuest.applied (ready : ReadyForGuest host)
    (same :
      host.control.networkInfo.common.bssid = firstRoom.common.bssid) :
    guestJoining.appliedBody (reply host) =
      some
        (NetworkInfo.codec.encode
          (admitted host).control.networkInfo) := by
  have bssid :
      (admitted host).control.networkInfo.common.bssid =
        firstRoom.common.bssid := by
    rw [ready.networkInfo]
    exact same
  exact
    appliedBody_of_accepted (syncOf_frameBytes _ _)
      (guestJoining_accepts bssid _)

end Admission

theorem guestJoining_active : guestJoining.control.joinActive = true := by
  rw [guestJoining_control]
  rfl

/-- The run in which the guest gets into the room it asked for. -/
theorem gathering_keepsApart :
    (consoles Console).world.EachStep KeepsApart startingConsoles
      (gathering ++ [(.host, arrival), (.guest, reply hostScanned)]) := by
  have guestIdle :
      (machine.next guestScanning
        (guestEnv, .ipc)).control.joinActive = false :=
    rfl
  rw [gathering]
  simp only [Machine.eachStep_append]
  refine ⟨⟨⟨⟨?_, ?_, trivial⟩, ?_⟩, ?_, ?_⟩, ?_⟩
  · exact keepsApart_unrecorded _ (by simp [announcing, Event.Unrecorded])
  · constructor
    · intro fresh creates other active
      rw [announced.nodes] at active
      cases other with
      | host => nomatch active
      | guest =>
          change (machine.next guestScanning
            (guestEnv, .ipc)).control.joinActive = true at active
          rw [guestIdle] at active
          nomatch active
    · nofun
  · exact keepsApart_unrecorded _ (by simp [meeting, Event.Unrecorded])
  · constructor
    · nofun
    · intro data joins old member bssid
      rw [met.nodes] at joins
      rw [met.ghost] at member
      cases joins
      rw [List.mem_singleton.mp member]
      rfl
  · exact keepsApart_unrecorded _ (by simp [Event.Unrecorded])
  · exact
      keepsApart_unrecorded _
        (by simp [arrival, reply, Event.Unrecorded])

/-- The sync of the first room that the guest copies in is of the session
it asked for. -/
theorem gathering_followsJoined :
    guestJoining.appliedBody (reply hostScanned) =
        some
          (NetworkInfo.codec.encode
            (admitted hostScanned).control.networkInfo) ∧
      (admitted hostScanned).control.networkInfo.networkId.sessionId =
        firstRoom.networkId.sessionId := by
  have same :
      hostScanned.control.networkInfo.common.bssid =
        firstRoom.common.bssid := by
    rw [hostScanned_eq, scannedControl_eq]
    rfl
  have applied := hostScanned_ready.applied same
  have follows :=
    followsJoined_of_keepsApart (fun _ => 1400) _ gathering_keepsApart
  have stage := hostScanned_ready.admits gathered
  rw [Machine.eachStep_append] at follows
  exact
    ⟨applied,
      Stage.guestSession stage follows.2.2.1
        (reply_carried hostScanned) applied guestJoining_active⟩

/-- The host closes its room and opens another one. -/
def reopening : List (Console × Env × Event) :=
  [(.host, Env.at 0, .command .destroyNetwork),
    (.host, laterEnv, .command (.createNetwork sampleConfig))]

/-- The two rooms of the host, the later one first. -/
def reopenedSessions : Sessions Console :=
  ⟨[(fakeMac 0x0A0D2502, ⟨3, 4⟩), (fakeMac 0x0A0D2502, ⟨1, 2⟩)],
    Function.update (fun _ => .zero) .guest firstRoom⟩

theorem reopened :
    Stage
      ((consoles Console).world.run startingConsoles
        (gathering ++ reopening))
      (bothAt hostReopened guestJoining) [connectBytes]
      reopenedSessions := by
  have closed :=
    Stage.hostRun gathered [(Env.at 0, .command .destroyNetwork)]
      (by simp [Event.Unrecorded, Event.datagram])
  have creates :
      (machine.run hostScanned
          [(Env.at 0, .command .destroyNetwork)]).createsNetwork
          (laterEnv, .command (.createNetwork sampleConfig)) =
        some (fakeMac 0x0A0D2502, ⟨3, 4⟩) := by
    rw [hostScanned_eq, scannedControl_eq]
    rfl
  have created :=
    Stage.hostNext closed
      (laterEnv, .command (.createNetwork sampleConfig)) nofun
  rw [record_creates creates] at created
  rw [reopening, Machine.run_append]
  exact
    created.fewer fun packet member => List.mem_append_left _ member

/--
The Connect frame of the guest is delayed until its host has opened another
room.  Both rooms have fresh session ids, but one BSSID: the guest copies the
sync of the second room in, although it asked for the first.
-/
theorem reopening_not_followsJoined :
    reopenedSessions.created.Nodup ∧
      ¬ (consoles Console).world.EachStep FollowsJoined startingConsoles
        (gathering ++ reopening ++
          [(.host, arrival), (.guest, reply hostReopened)]) := by
  refine ⟨by decide, ?_⟩
  intro follows
  rw [Machine.eachStep_append] at follows
  have stage := hostReopened_ready.admits reopened
  have same :
      hostReopened.control.networkInfo.common.bssid =
        firstRoom.common.bssid := by
    rw [hostReopened, hostScanned_eq, scannedControl_eq]
    rfl
  have other :
      hostReopened.control.networkInfo.networkId.sessionId = ⟨3, 4⟩ := by
    rw [hostReopened, hostScanned_eq, scannedControl_eq]
    rfl
  have equal :=
    Stage.guestSession stage follows.2.2.1 (reply_carried hostReopened)
      (hostReopened_ready.applied same) guestJoining_active
  rw [hostReopened_ready.networkInfo] at equal
  have first : firstRoom.networkId.sessionId = ⟨1, 2⟩ := rfl
  exact absurd (other.symm.trans (equal.trans first)) (by decide)

end System

end SlpClient.Ldn
