import SlpClient.Ldn.Sessions
import SlpClient.Ldn.StationView

/-!
# Views that some host held

Over a relay that loses, delays, reorders, duplicates and floods frames, a
console learns of a network from syncs only.  Whatever sync it ever copies
in, some console held exactly this network information before, as its own,
while it was a host; no mixture of two networks and nothing invented ever
becomes a view.
-/

namespace SlpClient.Ldn

open SlpClient.Lib

/-- What consoles have held as hosts. -/
abbrev HostedViews (Index : Type) : Type := List (Index × NetworkInfo)

/-- The network information of a host. -/
def System.hostedView (system : System) : Option NetworkInfo :=
  if system.control.state = .accessPointCreated then
    some system.control.networkInfo
  else none

/-- Consoles over one relay, and what they have held as hosts. -/
def hostingConsoles (Index : Type) [DecidableEq Index] :
    Relay Index System (Env × Event) (List Effect) (List UInt8)
      (HostedViews Index) where
  machine := System.machine
  consumes input := input.2.datagram
  emits effects := (sentFrames effects).map Frame.bytes
  record who system input views :=
    ((System.machine.next system input).hostedView.map
      fun info => (who, info)).toList ++ views

/-- Consoles before anything happened. -/
def initialHostingConsoles {Index : Type} (mtu : Index → UInt32) :
    Relay.Network Index System (List UInt8) (HostedViews Index) where
  nodes index := System.initial (mtu index)
  air := []
  ghost := []

section Views

variable {Index : Type}

/-- A console with a sound room, whose hosted view is recorded. -/
structure RecordsHosted (views : HostedViews Index) (who : Index)
    (system : System) : Prop where
  room : system.control.RoomInvariant
  hosted : ∀ info ∈ system.hostedView, (who, info) ∈ views

/-- A sync in the air carries what some host held. -/
def HostedSync (views : HostedViews Index) (payload : List UInt8) : Prop :=
  ∀ info seq, syncOf payload = some (info, seq) →
    ∃ host, (host, info) ∈ views

variable [DecidableEq Index]
  {network : Relay.Network Index System (List UInt8) (HostedViews Index)}

/-- What a console copies in some host has held. -/
def CopiesHosted
    (network : Relay.Network Index System (List UInt8) (HostedViews Index))
    (input : Index × Env × Event) : Prop :=
  (hostingConsoles Index).Carries network input.2 →
    ∀ body, (network.nodes input.1).appliedBody input.2 = some body →
      ∃ host info,
        (host, info) ∈ network.ghost ∧
          NetworkInfo.codec.encode info = body ∧
          NetworkInfo.codec.encode
              (System.machine.next (network.nodes input.1)
                input.2).control.networkInfo = body ∧
          ((network.nodes input.1).control.joinActive = true →
            info.common.bssid =
              (network.nodes input.1).control.joinTargetBssid)

theorem mem_record_of_mem {who : Index} {system : System}
    {input : Env × Event} {views : HostedViews Index}
    {view : Index × NetworkInfo} (member : view ∈ views) :
    view ∈ (hostingConsoles Index).record who system input views :=
  List.mem_append_right _ member

theorem RecordsHosted.own {who : Index} {input : Env × Event}
    (records : RecordsHosted network.ghost who (network.nodes who)) :
    RecordsHosted
      ((hostingConsoles Index).record who (network.nodes who) input
        network.ghost)
      who
      ((hostingConsoles Index).machine.next (network.nodes who) input) where
  room := System.roomInvariant_next input records.room
  hosted info hosts := by
    apply List.mem_append_left
    have held :
        (System.machine.next (network.nodes who) input).hostedView =
          some info := hosts
    rw [held, Option.map_some]
    exact List.mem_singleton_self _

/-- The syncs of a step are of the host that it ends as. -/
theorem RecordsHosted.sent {who : Index} {input : Env × Event}
    (records : RecordsHosted network.ghost who (network.nodes who)) :
    ∀ payload ∈
        (hostingConsoles Index).emits
          (System.machine.output (network.nodes who) input),
      HostedSync
        ((hostingConsoles Index).record who (network.nodes who) input
          network.ghost)
        payload := by
  intro payload member info seq carried
  rcases List.mem_map.mp member with ⟨frame, sent, rfl⟩
  have sends :=
    System.sendsHosted_output records.room input frame
      (mem_sentFrames.mp sent)
  rcases syncOf_bytes sends.1 carried with ⟨sync, rfl⟩
  rcases sends.2 sync with ⟨hosting, same⟩
  rw [same, ByteCodec.decode_encode]
  exact ⟨who, (records.own).hosted _ (if_pos hosting)⟩

theorem guarantees_hosted
    (holds : Relay.Holds RecordsHosted HostedSync network) (who : Index)
    (input : Env × Event) :
    Relay.Guarantees RecordsHosted HostedSync (hostingConsoles Index)
      network who input where
  own := (holds.nodes who).own
  others other _ :=
    { room := (holds.nodes other).room
      hosted := fun info hosts =>
        mem_record_of_mem ((holds.nodes other).hosted info hosts) }
  sent := (holds.nodes who).sent
  kept payload old info seq carried := by
    rcases holds.air payload old info seq carried with ⟨host, member⟩
    exact ⟨host, mem_record_of_mem member⟩

theorem copiesHosted_of_holds
    (holds : Relay.Holds RecordsHosted HostedSync network)
    (input : Index × Env × Event) : CopiesHosted network input := by
  rcases input with ⟨who, env, event⟩
  intro carries body applied
  rcases System.appliedBody_eq_some applied with
    ⟨srcIp, payload, seq, frame, length, carried, accepted⟩
  have air : payload ∈ network.air := by
    apply carries
    dsimp only at frame
    rw [frame]
    rfl
  rcases holds.air payload air _ seq carried with ⟨host, held⟩
  refine
    ⟨host, NetworkInfo.codec.decode body, held,
      NetworkInfo.codec.encode_decode _ length,
      System.next_networkInfo_of_appliedBody applied, ?_⟩
  intro active
  by_contra other
  exact (LdnControl.acceptsSync_gates accepted).2 ⟨active, other⟩

/--
In every run of consoles over a relay that loses, delays, reorders,
duplicates and floods frames, each sync that a console copies in is, byte for
byte, a network information that some console held as a host before; and a
console with an active join copies in only information of the network it
asked for.
-/
theorem views_hosted (mtu : Index → UInt32)
    (inputs : List (Index × Env × Event)) :
    (hostingConsoles Index).world.EachStep CopiesHosted
      (initialHostingConsoles mtu) inputs := by
  have initially :
      Relay.Holds RecordsHosted HostedSync
        (initialHostingConsoles mtu) :=
    { nodes := fun index =>
        { room := System.roomInvariant_initial (mtu index)
          hosted := fun _ hosts => nomatch hosts }
      air := fun _ none => absurd none List.not_mem_nil }
  exact
    Machine.eachStep_of_invariant
      (fun _ input holds _ =>
        Relay.Holds.next holds input fun _ =>
          guarantees_hosted holds input.1 input.2)
      (fun _ input holds _ => copiesHosted_of_holds holds input)
      initially
      (Machine.eachStep_of_forall (fun _ _ => trivial) _ inputs)

end Views

end SlpClient.Ldn
