import SlpClient.Ldn.Effects

/-!
# Taking the own lock again

`SendFrame` under the lock reaches `slp::tun::Send`.  For a loopback
destination that function hands the datagram to `RouteIncomingData`, which
asks `LdnControl` for session membership and takes the lock again.  The
destinations come from the network: the source of a scan, the addresses of
stations, and the host entry of a received node table.  Stations only get in
through the scanner allowlist, so that the dangerous steps are the answer to a
loopback scan and the frames sent to a loopback host.
-/

namespace SlpClient.Ldn

open SlpClient.Lib
open SlpClient.Net

/-- The observer that objects to taking a held lock and to nothing else. -/
def lockMonitor : Monitor where
  accessOk _ _ _ := true
  onRelock := false
  lenient _ _ _ _ := rfl

/-- A thread with these effects never takes the lock while it holds it. -/
def neverRelocks (effects : List Effect) : Bool :=
  lockMonitor.passes false effects

/-- This observer minds no access. -/
theorem lockMonitor_all_accepts (effects : List Effect) :
    effects.all lockMonitor.accepts = true := by
  rw [List.all_eq_true]
  intro effect _
  cases effect <;> rfl

namespace System

/-- The host entry that heartbeats and goodbyes are sent to. -/
def hostEntry (control : LdnControl) : UInt32 :=
  (control.networkInfo.ldn.nodes 0).ipv4Address

/--
What a step needs to keep the lock order: a host answers no scan from a
loopback address, and a joined station does not send to a loopback host.
-/
def KeepsLockOrder (system : System) (input : Env × Event) : Prop :=
  match input.2 with
  | .frame srcIp payload =>
      ¬ system.control.LoopbackScan srcIp payload
  | .tick =>
      ¬ (input.1.now - system.control.lastBeacon ≥
            relayBeaconIntervalTicks ∧
          system.control.joinActive = true ∧
          isLoopback system.control.heartbeatTarget = true)
  | .command command =>
      ¬ (system.phase = .idle ∧ command = .disconnect ∧
          system.control.joinActive = true ∧
          system.control.networkInfo.ldn.nodeCount > 0 ∧
          isLoopback (hostEntry system.control) = true)
  | _ => True

/-- A step in lock order passes the observer. -/
theorem stepOk_of_keepsLockOrder (system : System) (input : Env × Event)
    (keeps : KeepsLockOrder system input) :
    StepOk lockMonitor system input := by
  rcases input with ⟨env, event⟩
  have loopback {dst : UInt32} (home : returnsHome env dst = true) :
      isLoopback dst = true := by
    simp only [returnsHome, Bool.and_eq_true] at home
    exact home.2
  cases event with
  | command command =>
      intro idle disconnect active nodes home
      exact
        (keeps ⟨idle, disconnect, active, nodes, loopback home⟩).elim
  | ipc =>
      change IpcOk lockMonitor system env
      unfold IpcOk
      split
      · exact lockMonitor_all_accepts _
      · exact fun _ => lockMonitor_all_accepts _
      · exact fun _ _ => lockMonitor_all_accepts _
      · trivial
  | frame srcIp payload =>
      intro type body seq opened
      cases type with
      | scan =>
          intro hosting home
          exact (keeps ⟨hosting, loopback home, body, seq, opened⟩).elim
      | syncNetwork => exact fun _ _ _ => lockMonitor_all_accepts _
      | scanResp => trivial
      | connect => trivial
      | relayHeartbeat => trivial
      | relayBye => trivial
  | tick =>
      intro due active home
      exact (keeps ⟨due, active, loopback home⟩).elim
  | knownPeer ip => exact lockMonitor_all_accepts _
  | enterLocalNetworkModePublic => trivial
  | exitLocalNetworkModePublic => trivial

/-- On a running console with an open client, only such a step passes. -/
theorem keepsLockOrder_of_stepOk (system : System) (input : Env × Event)
    (running : input.1.running = true)
    (clientOpen : input.1.clientOpen = true)
    (ok : StepOk lockMonitor system input) :
    KeepsLockOrder system input := by
  rcases input with ⟨env, event⟩
  have home {dst : UInt32} (loopback : isLoopback dst = true) :
      returnsHome env dst = true := by
    simp only [returnsHome, Bool.and_eq_true]
    exact ⟨⟨running, clientOpen⟩, loopback⟩
  cases event with
  | command command =>
      rintro ⟨idle, disconnect, active, nodes, loopback⟩
      exact
        Bool.false_ne_true
          (ok idle disconnect active nodes (home loopback))
  | ipc => trivial
  | frame srcIp payload =>
      rintro ⟨hosting, loopback, body, seq, opened⟩
      exact
        Bool.false_ne_true
          (ok .scan body seq opened hosting (home loopback))
  | tick =>
      rintro ⟨due, active, loopback⟩
      exact Bool.false_ne_true (ok due active (home loopback))
  | knownPeer ip => trivial
  | enterLocalNetworkModePublic => trivial
  | exitLocalNetworkModePublic => trivial

/-! ## Runs -/

/-- What the lock order rests on. -/
structure Ordered (system : System) : Prop where
  bounded : system.control.tableView.Bounded
  away : system.control.tableView.PeersAway

theorem initial_ordered (mtu : UInt32) : Ordered (initial mtu) :=
  ⟨initial_bounded mtu, initial_peersAway mtu⟩

theorem ordered_next (system : System) (input : Env × Event)
    (ordered : Ordered system) (keeps : KeepsLockOrder system input) :
    Ordered (machine.next system input) := by
  have harmless : NoLoopbackScan system input := by
    intro srcIp payload frame
    rcases input with ⟨env, event⟩
    subst frame
    exact keeps
  have kept := keeps_next system input harmless
  exact ⟨kept.bounded ordered.bounded, kept.away ordered.away⟩

/-- Where the lock order rests on `Ordered`, the verdict is `StepOk`. -/
theorem neverRelocks_output_iff {system : System}
    (ordered : Ordered system) (input : Env × Event) :
    neverRelocks (machine.output system input) = true ↔
      StepOk lockMonitor system input :=
  passes_output_iff lockMonitor ordered.bounded (.inr ordered.away) input

/--
In every run whose steps keep the lock order no thread takes the lock while
it holds it; and when the console is running with an open client all along,
these are the only such runs.
-/
theorem neverRelocks_iff_keepsLockOrder
    (mtu : UInt32) (inputs : List (Env × Event)) :
    (machine.EachStep KeepsLockOrder (initial mtu) inputs →
      machine.EachStep
        (fun system input =>
          neverRelocks (machine.output system input) = true)
        (initial mtu) inputs) ∧
    ((∀ input ∈ inputs,
        input.1.running = true ∧ input.1.clientOpen = true) →
      machine.EachStep
        (fun system input =>
          neverRelocks (machine.output system input) = true)
        (initial mtu) inputs →
      machine.EachStep KeepsLockOrder (initial mtu) inputs) := by
  constructor
  · intro keeps
    refine
      Machine.eachStep_of_invariant ordered_next ?_ (initial_ordered mtu)
        keeps
    intro system input ordered step
    exact
      (neverRelocks_output_iff ordered input).2
        (stepOk_of_keepsLockOrder system input step)
  · intro running safe
    refine
      Machine.eachStep_of_property ordered_next ?_ (initial_ordered mtu)
        running safe
    intro system input ordered started step
    exact
      keepsLockOrder_of_stepOk system input started.1 started.2
        ((neverRelocks_output_iff ordered input).1 step)

/-- The commands by which a game becomes the host of a network. -/
def hostCommands : List (Env × Event) :=
  [(Env.at 0, .command .initializeLdn),
    (Env.at 0, .command .openAccessPoint),
    (Env.at 0,
      .command
        (.createNetwork
          ⟨⟨0⟩, ⟨fun _ => 0⟩,
            ⟨⟨0, fun _ => 0, 0, fun _ => 0⟩, 0, 8, 0⟩⟩))]

/-- The system that hosts a network. -/
def hostSystem : System :=
  machine.run (initial 1400) hostCommands

theorem hostCommands_keepLockOrder :
    machine.EachStep KeepsLockOrder (initial 1400) hostCommands := by
  refine ⟨?_, ?_, ?_, trivial⟩ <;>
  · rintro ⟨-, disconnect, -⟩
    simp at disconnect

theorem neverRelocks_iff_keepsLockOrder_host :
    machine.EachStep
      (fun system input =>
        neverRelocks (machine.output system input) = true)
      (initial 1400) hostCommands :=
  (neverRelocks_iff_keepsLockOrder 1400 hostCommands).1
    hostCommands_keepLockOrder

/-- A host that answers a scan from `127.0.0.1` takes its lock twice. -/
theorem loopbackScan_relocks :
    machine.Reachable (initial 1400) hostSystem ∧
      neverRelocks
        (machine.output hostSystem
          (Env.at 0, .frame 0x7F000001 (frameBytes .scan 1 []))) =
        false := by
  have ordered : Ordered hostSystem :=
    (Machine.eachState_of_eachStep ordered_next (initial_ordered 1400)
      hostCommands_keepLockOrder).last
  have hosting : hostSystem.control.state = .accessPointCreated := by
    decide
  refine ⟨⟨hostCommands, rfl⟩, ?_⟩
  rw [← Bool.not_eq_true, neverRelocks_output_iff ordered]
  intro ok
  have opened :=
    LdnControl.openedFrame_frameBytes .scan 1 [] (Nat.zero_le _)
  exact Bool.false_ne_true (ok .scan [] 1 opened hosting rfl)

end System

end SlpClient.Ldn
