import SlpClient.Ldn.StationOrder
import SlpClient.Ldn.StationView

/-!
# Reported node changes

`GetNetworkInfoLatestUpdate` reports a change for each node id.  The changes
are noted for each place of the node table instead, against what the place
held when the last network was copied in.  Place and id are the same as long
as every connected entry stands at the place of its id: on a host, as long as
stations leave from the end, and on a station, as long as the host's do.  And
a station begins with what its last network left in its place.
-/

namespace SlpClient.Ldn

open SlpClient.Lib
open LdnControl (nodeStateChangeConnect nodeStateChangeDisconnect)

/-! ## What happened since the last report -/

/-- The ids of the nodes that became connected, and of those that left. -/
structure NodeLedger where
  appeared : Fin 8 → Bool
  vanished : Fin 8 → Bool
  /-- Nothing was reported since this console is in its network. -/
  first : Bool

namespace NodeLedger

def empty : NodeLedger :=
  ⟨fun _ => false, fun _ => false, false⟩

/-- All nodes of a network that was just joined or created. -/
def joined (info : NetworkInfo) : NodeLedger :=
  ⟨info.lists, fun _ => false, true⟩

/-- One network in the place of another. -/
def changed (ledger : NodeLedger) (before after : NetworkInfo) :
    NodeLedger where
  appeared id :=
    ledger.appeared id || (after.lists id && !before.lists id)
  vanished id :=
    ledger.vanished id || (before.lists id && !after.lists id)
  first := ledger.first

theorem appeared_changed (ledger : NodeLedger) (before after : NetworkInfo)
    (id : Fin 8) :
    (ledger.changed before after).appeared id = true ↔
      ledger.appeared id = true ∨
        (after.lists id = true ∧ before.lists id = false) := by
  simp [changed]

theorem vanished_changed (ledger : NodeLedger) (before after : NetworkInfo)
    (id : Fin 8) :
    (ledger.changed before after).vanished id = true ↔
      ledger.vanished id = true ∨
        (before.lists id = true ∧ after.lists id = false) := by
  simp [changed]

theorem changed_self (ledger : NodeLedger) (info : NetworkInfo) :
    ledger.changed info info = ledger := by
  simp [changed]

end NodeLedger

namespace LdnControl

/-- In a network of its own or of another console. -/
def InNetwork (control : LdnControl) : Prop :=
  control.state = .accessPointCreated ∨ control.state = .stationConnected

instance decidableInNetwork (control : LdnControl) :
    Decidable control.InNetwork :=
  inferInstanceAs (Decidable (_ ∨ _))

end LdnControl

namespace System

/-- A call with room for all eight nodes that succeeds. -/
def ReportsAll (system : System) (event : Event) : Prop :=
  event = .command (.getNetworkInfoLatestUpdate 8) ∧
    system.phase = .idle ∧ system.control.InNetwork

instance decidableReportsAll (system : System) (event : Event) :
    Decidable (system.ReportsAll event) :=
  inferInstanceAs (Decidable (_ ∧ _ ∧ _))

end System

/-- The ledger after a step that leaves the control plane as `after`. -/
def NodeLedger.next (ledger : NodeLedger) (system : System) (event : Event)
    (after : LdnControl) : NodeLedger :=
  if ¬ after.InNetwork then .empty
  else if ¬ system.control.InNetwork then .joined after.networkInfo
  else if system.ReportsAll event then .empty
  else ledger.changed system.control.networkInfo after.networkInfo

namespace NodeLedger

/-- Up to the first report, all nodes there are and were have appeared. -/
def Complete (ledger : NodeLedger) (info : NetworkInfo) : Prop :=
  ledger.first = true →
    ∀ id, ledger.appeared id = true ↔
      info.lists id = true ∨ ledger.vanished id = true

variable {ledger : NodeLedger} {system : System} {event : Event}
  {after : LdnControl}

theorem Complete.changed {before after : NetworkInfo}
    (complete : ledger.Complete before) :
    (ledger.changed before after).Complete after := by
  intro first id
  rw [appeared_changed, vanished_changed, complete first id]
  cases before.lists id <;> cases after.lists id <;> simp

theorem next_joined (inside : after.InNetwork)
    (outside : ¬ system.control.InNetwork) :
    ledger.next system event after = .joined after.networkInfo := by
  rw [next, if_neg (not_not.mpr inside), if_pos outside]

theorem next_changed (inside : after.InNetwork)
    (before : system.control.InNetwork) (other : ¬ system.ReportsAll event) :
    ledger.next system event after =
      ledger.changed system.control.networkInfo after.networkInfo := by
  rw [next, if_neg (not_not.mpr inside), if_neg (not_not.mpr before),
    if_neg other]

theorem next_congr {other : LdnControl} (state : after.state = other.state)
    (network : after.networkInfo = other.networkInfo) :
    ledger.next system event after = ledger.next system event other := by
  have inside : after.InNetwork ↔ other.InNetwork := by
    unfold LdnControl.InNetwork
    rw [state]
  unfold next
  rw [if_congr (not_congr inside) rfl rfl, network]

theorem next_reported (inside : after.InNetwork)
    (reports : system.ReportsAll event) :
    ledger.next system event after = .empty := by
  rw [next, if_neg (not_not.mpr inside), if_neg (not_not.mpr reports.2.2),
    if_pos reports]

theorem complete_next
    (complete :
      system.control.InNetwork → ledger.Complete system.control.networkInfo)
    (inside : after.InNetwork) :
    (ledger.next system event after).Complete after.networkInfo := by
  by_cases before : system.control.InNetwork
  · by_cases reports : system.ReportsAll event
    · rw [next_reported inside reports]
      exact nofun
    · rw [next_changed inside before reports]
      exact (complete before).changed
  · rw [next_joined inside before]
    intro _ id
    simp [joined]

end NodeLedger

/-- The system and the ledger beside it. -/
structure Watch where
  system : System
  ledger : NodeLedger

namespace Watch

def machine : Machine Watch (Env × Event) (List Effect) where
  step watch input :=
    let after := System.machine.next watch.system input
    (⟨after, watch.ledger.next watch.system input.2 after.control⟩,
      System.machine.output watch.system input)

def initial (mtu : UInt32) : Watch :=
  ⟨System.initial mtu, .empty⟩

/-- A call for all eight nodes that returns something says what became of each
of them since the call before it.  The first call in a network names all nodes
that are in it, and besides them only some that left again. -/
def ReportsRight (watch : Watch) (input : Env × Event) : Prop :=
  input.2 = .command (.getNetworkInfoLatestUpdate 8) →
    ∀ info updates,
      .reply (.latestUpdate info updates) ∈
          System.machine.output watch.system input →
        ∀ id : Fin 8,
          (updates.getD id 0 &&& nodeStateChangeConnect ≠ 0 ↔
              watch.ledger.appeared id = true) ∧
            (updates.getD id 0 &&& nodeStateChangeDisconnect ≠ 0 ↔
              watch.ledger.vanished id = true) ∧
            (watch.ledger.first = true →
              (updates.getD id 0 &&& nodeStateChangeConnect ≠ 0 ↔
                info.lists id = true ∨ watch.ledger.vanished id = true))

end Watch

namespace LdnControl

/-! ## Changes that get noted -/

/-- The bit for nodes that became connected is pending at a place. -/
def connectPending (control : LdnControl) (place : Fin 8) : Prop :=
  control.nodeChanges place &&& nodeStateChangeConnect ≠ 0

/-- The bit for nodes that left is pending at a place. -/
def disconnectPending (control : LdnControl) (place : Fin 8) : Prop :=
  control.nodeChanges place &&& nodeStateChangeDisconnect ≠ 0

/-- The entry that a call with room for all nodes returns for a place. -/
theorem nodeChanges_getD (control : LdnControl) (place : Fin 8) :
    (((List.finRange 8).take 8).map control.nodeChanges).getD place 0 =
      control.nodeChanges place := by
  simp

/-- Setting a bit that a mask contains or does not contain. -/
theorem or_and_ne_zero (changes bit mask : UInt8) :
    (changes ||| bit) &&& mask ≠ 0 ↔
      changes &&& mask ≠ 0 ∨ bit &&& mask ≠ 0 := by
  have split :
      (changes ||| bit) &&& mask = changes &&& mask ||| bit &&& mask := by
    apply UInt8.toBitVec_inj.mp
    simp only [UInt8.toBitVec_and, UInt8.toBitVec_or]
    exact BitVec.and_or_distrib_right
  rw [split, ne_eq, UInt8.or_eq_zero_iff]
  tauto

theorem connectPending_onNetworkInfoChanged (control : LdnControl)
    (place : Fin 8) :
    control.onNetworkInfoChanged.connectPending place ↔
      control.connectPending place ∨
        (control.networkInfo.connectedAt place = true ∧
          control.prevNodeConnected place = false) := by
  have noted : nodeStateChangeConnect ≠ 0 := by decide
  have other :
      nodeStateChangeDisconnect &&& nodeStateChangeConnect = 0 := by decide
  change _ ↔ _ ∨ (control.nodeConnected place = true ∧ _)
  unfold connectPending onNetworkInfoChanged
  dsimp only
  cases control.nodeConnected place <;>
    cases control.prevNodeConnected place <;>
      simp [or_and_ne_zero, noted, other]

theorem disconnectPending_onNetworkInfoChanged (control : LdnControl)
    (place : Fin 8) :
    control.onNetworkInfoChanged.disconnectPending place ↔
      control.disconnectPending place ∨
        (control.prevNodeConnected place = true ∧
          control.networkInfo.connectedAt place = false) := by
  have noted : nodeStateChangeDisconnect ≠ 0 := by decide
  have other :
      nodeStateChangeConnect &&& nodeStateChangeDisconnect = 0 := by decide
  change _ ↔ _ ∨ (_ ∧ control.nodeConnected place = false)
  unfold disconnectPending onNetworkInfoChanged
  dsimp only
  cases control.nodeConnected place <;>
    cases control.prevNodeConnected place <;>
      simp [or_and_ne_zero, noted, other]

/-- What is pending says what happened. -/
structure Tracks (control : LdnControl) (ledger : NodeLedger) : Prop where
  previous : control.prevNodeConnected = control.networkInfo.connectedAt
  placed : control.networkInfo.Placed
  appeared :
    ∀ id, control.connectPending id ↔ ledger.appeared id = true
  vanished :
    ∀ id, control.disconnectPending id ↔ ledger.vanished id = true

theorem Tracks.of_view {control other : LdnControl} {ledger : NodeLedger}
    (tracks : control.Tracks ledger)
    (view :
      other.networkInfo = control.networkInfo ∧
        other.prevNodeConnected = control.prevNodeConnected ∧
        other.nodeChanges = control.nodeChanges) :
    other.Tracks ledger := by
  rcases view with ⟨network, previous, changes⟩
  constructor
  · rw [previous, network]
    exact tracks.previous
  · rw [network]
    exact tracks.placed
  · unfold connectPending
    rw [changes]
    exact tracks.appeared
  · unfold disconnectPending
    rw [changes]
    exact tracks.vanished

/-- Another network whose ids are its places. -/
theorem Tracks.changed {control other : LdnControl} {ledger : NodeLedger}
    (tracks : control.Tracks ledger)
    (previous : other.prevNodeConnected = control.prevNodeConnected)
    (changes : other.nodeChanges = control.nodeChanges)
    (placed : other.networkInfo.Placed) :
    other.onNetworkInfoChanged.Tracks
      (ledger.changed control.networkInfo other.networkInfo) := by
  constructor
  · rfl
  · exact placed
  · intro id
    have pending : other.connectPending id ↔ control.connectPending id := by
      unfold connectPending
      rw [changes]
    rw [connectPending_onNetworkInfoChanged, pending, tracks.appeared id,
      previous, tracks.previous, NodeLedger.appeared_changed, placed id,
      tracks.placed id]
  · intro id
    have pending :
        other.disconnectPending id ↔ control.disconnectPending id := by
      unfold disconnectPending
      rw [changes]
    rw [disconnectPending_onNetworkInfoChanged, pending,
      tracks.vanished id, previous, tracks.previous,
      NodeLedger.vanished_changed, placed id, tracks.placed id]

/-- Nothing of another network stands in the way of this one. -/
structure EntersFresh (control : LdnControl) (info : NetworkInfo) : Prop where
  connect :
    ∀ place, control.connectPending place →
      info.connectedAt place = true
  disconnect : ∀ place, ¬ control.disconnectPending place
  previous :
    ∀ place, control.prevNodeConnected place = true →
      control.connectPending place

theorem EntersFresh.of_view {control other : LdnControl}
    {info : NetworkInfo} (fresh : control.EntersFresh info)
    (previous : other.prevNodeConnected = control.prevNodeConnected)
    (changes : other.nodeChanges = control.nodeChanges) :
    other.EntersFresh info := by
  constructor
  · unfold connectPending
    rw [changes]
    exact fresh.connect
  · unfold disconnectPending
    rw [changes]
    exact fresh.disconnect
  · unfold connectPending
    rw [previous, changes]
    exact fresh.previous

theorem EntersFresh.joined {control : LdnControl}
    (fresh : control.EntersFresh control.networkInfo)
    (placed : control.networkInfo.Placed) :
    control.onNetworkInfoChanged.Tracks
      (.joined control.networkInfo) := by
  constructor
  · rfl
  · exact placed
  · intro id
    change _ ↔ control.networkInfo.lists id = true
    rw [connectPending_onNetworkInfoChanged, placed id]
    constructor
    · rintro (pending | ⟨connected, -⟩)
      · exact fresh.connect id pending
      · exact connected
    · intro connected
      cases before : control.prevNodeConnected id with
      | true => exact .inl (fresh.previous id before)
      | false => exact .inr ⟨connected, rfl⟩
  · intro id
    rw [disconnectPending_onNetworkInfoChanged, NodeLedger.joined]
    constructor
    · rintro (pending | ⟨before, gone⟩)
      · exact absurd pending (fresh.disconnect id)
      · rw [fresh.connect id (fresh.previous id before)] at gone
        nomatch gone
    · exact nofun

theorem entersFresh_initNodeStateChange (control : LdnControl)
    (info : NetworkInfo) :
    control.initNodeStateChange.EntersFresh info where
  connect _ pending := absurd UInt8.zero_and pending
  disconnect _ pending := pending UInt8.zero_and
  previous _ before := nomatch before

/-! ## What keeps the reports right -/

/-- The ids of a network that is copied in are its places, and a network that
this console enters with it finds nothing of another one. -/
def SyncsInPlace (control : LdnControl) (env : Env)
    (payload : List UInt8) : Prop :=
  ∀ info seq, syncOf payload = some (info, seq) →
    control.acceptsSync info seq = true →
      (control.state = .stationConnected → info.Placed) ∧
        (control.state = .station →
          (control.confirmSearch env info).1 = true →
            info.Placed ∧ control.EntersFresh info)

/-- A call that has room for fewer nodes finds nothing to report. -/
def LosesNothing (control : LdnControl) (capacity : Nat) : Prop :=
  control.InNetwork → capacity < 8 →
    ∀ place : Fin 8, place.val < capacity → control.nodeChanges place = 0

end LdnControl

namespace System

open LdnControl

/-- The steps that keep place and id together. -/
def KeepsPlaces (system : System) (input : Env × Event) : Prop :=
  match input.2 with
  | .frame srcIp payload =>
      system.control.LeavesFromEnd srcIp payload ∧
        system.control.SyncsInPlace input.1 payload
  | .tick => system.control.ReapsFromEnd input.1.now
  | .command (.getNetworkInfoLatestUpdate capacity) =>
      system.phase = .idle → system.control.LosesNothing capacity
  | _ => True

theorem gapless_next {system : System} {input : Env × Event}
    (gapless : system.control.Gapless) (keeps : system.KeepsPlaces input) :
    (machine.next system input).control.Gapless := by
  rcases input with ⟨env, event⟩
  rcases system.next_move (env, event) with ⟨target, move, same⟩
  cases event with
  | frame srcIp payload => exact gapless.frame env keeps.1
  | tick => exact gapless.tick keeps
  | command command =>
      exact (gapless.command move nofun nofun).of_core same
  | ipc => exact (gapless.command move nofun nofun).of_core same
  | knownPeer ip => exact gapless
  | enterLocalNetworkModePublic =>
      exact (gapless.command move nofun nofun).of_core same
  | exitLocalNetworkModePublic =>
      exact (gapless.command move nofun nofun).of_core same

section Tracks

variable {system : System} {env : Env} {event : Event}
  {ledger : NodeLedger}

/-- A move that leaves the view alone. -/
theorem tracks_kept {target : LdnControl}
    (tracks : system.control.InNetwork → system.control.Tracks ledger)
    (other : ¬ system.ReportsAll event) (inside : target.InNetwork)
    (state : target.state = system.control.state)
    (view :
      target.networkInfo = system.control.networkInfo ∧
        target.prevNodeConnected = system.control.prevNodeConnected ∧
        target.nodeChanges = system.control.nodeChanges) :
    target.Tracks (ledger.next system event target) := by
  have before : system.control.InNetwork := by
    unfold InNetwork at inside ⊢
    rwa [state] at inside
  rw [NodeLedger.next_changed inside before other, view.1,
    NodeLedger.changed_self]
  exact (tracks before).of_view view

/-- A move that rebuilds the network. -/
theorem tracks_rebuilt {control : LdnControl}
    (tracks : system.control.InNetwork → system.control.Tracks ledger)
    (other : ¬ system.ReportsAll event)
    (inside : control.rebuilt.InNetwork)
    (state : control.state = system.control.state)
    (previous :
      control.prevNodeConnected = system.control.prevNodeConnected)
    (changes : control.nodeChanges = system.control.nodeChanges)
    (sound : control.rebuilt.StationsSound)
    (gapless : control.rebuilt.Gapless) :
    control.rebuilt.Tracks (ledger.next system event control.rebuilt) := by
  have before : system.control.InNetwork := by
    change control.InNetwork at inside
    unfold InNetwork at inside ⊢
    rwa [state] at inside
  have stations : control.StationsSound := sound.of_stations rfl
  have placed := stations.placed_rebuilt (gapless.of_active fun _ _ => rfl)
  rw [NodeLedger.next_changed inside before other]
  exact (tracks before).changed previous changes placed

theorem setState_view (control : LdnControl) (state : CommState) :
    (control.setState state).networkInfo = control.networkInfo ∧
      (control.setState state).prevNodeConnected =
        control.prevNodeConnected ∧
      (control.setState state).nodeChanges = control.nodeChanges := by
  unfold LdnControl.setState
  split <;> exact ⟨rfl, rfl, rfl⟩

/-- A network of its own begins with nothing noted. -/
theorem tracks_created (data : CreateNetworkConfig)
    (opened : system.control.state = .accessPoint)
    {target : LdnControl}
    (created :
      target =
        ((system.control.created env
          data).resetStations.initNodeStateChange).inState
            .accessPointCreated)
    (sound : target.rebuilt.StationsSound)
    (gapless : target.rebuilt.Gapless) :
    target.rebuilt.Tracks (ledger.next system event target.rebuilt) := by
  have outside : ¬ system.control.InNetwork := by
    unfold InNetwork
    rw [opened]
    decide
  have inside : target.rebuilt.InNetwork := by
    left
    rw [created]
    rfl
  have stations : target.StationsSound := sound.of_stations rfl
  have placed := stations.placed_rebuilt (gapless.of_active fun _ _ => rfl)
  rw [NodeLedger.next_joined inside outside]
  have fresh :=
    (system.control.created env
      data).resetStations.entersFresh_initNodeStateChange
        target.rebuilt.networkInfo
  refine EntersFresh.joined ?_ placed
  apply fresh.of_view
  · rw [created]
    rfl
  · rw [created]
    rfl

/-- A sync that is copied in, in a network or on the way into one. -/
theorem tracks_applySync {srcIp : UInt32} {payload : List UInt8}
    {info : NetworkInfo} {seq : UInt16}
    (tracks : system.control.InNetwork → system.control.Tracks ledger)
    (carried : syncOf payload = some (info, seq))
    (accepted : system.control.acceptsSync info seq = true)
    (syncs : system.control.SyncsInPlace env payload)
    {target : LdnControl}
    (applied :
      target = ((system.control.noteSyncSeq seq).applySync env info).control)
    (inside : target.InNetwork) :
    target.Tracks (ledger.next system (.frame srcIp payload) target) := by
  rcases noteSyncSeq_view system.control seq with
    ⟨-, previous, changes⟩
  rcases syncs info seq carried accepted with ⟨inNetwork, entering⟩
  have silent : ¬ system.ReportsAll (.frame srcIp payload) := fun reports =>
    nomatch reports.1
  have state := system.control.noteSyncSeq_state seq
  unfold applySync at applied
  rcases acceptsSync_station accepted with station | connected
  · have outside : ¬ system.control.InNetwork := by
      unfold InNetwork
      rw [station]
      decide
    rw [state, if_pos station, noteSyncSeq_confirmSearch] at applied
    cases found : (system.control.confirmSearch env info).1 with
    | true =>
        rw [found, if_pos rfl] at applied
        subst applied
        rcases entering station found with ⟨placed, fresh⟩
        rcases setState_view ((system.control.noteSyncSeq seq).received env
          info) .stationConnected with ⟨network, shown, pending⟩
        rw [NodeLedger.next_joined inside outside]
        apply EntersFresh.joined
        · rw [network]
          exact fresh.of_view (shown.trans previous) (pending.trans changes)
        · rw [network]
          exact placed
    | false =>
        rw [found, if_neg Bool.false_ne_true] at applied
        rw [applied] at inside
        change (system.control.noteSyncSeq seq).InNetwork at inside
        unfold InNetwork at inside
        rw [state, station] at inside
        nomatch inside
  · have before : system.control.InNetwork := .inr connected
    have elsewhere : (system.control.noteSyncSeq seq).state ≠ .station := by
      rw [state, connected]
      decide
    rw [if_neg elsewhere] at applied
    subst applied
    rw [NodeLedger.next_changed inside before silent]
    exact
      (tracks before).changed previous changes (inNetwork connected)

theorem tracks_move {target : LdnControl}
    (move : Move system env event target)
    (tracks : system.control.InNetwork → system.control.Tracks ledger)
    (other : ∀ capacity,
      event ≠ .command (.getNetworkInfoLatestUpdate capacity))
    (syncs :
      ∀ srcIp payload, event = .frame srcIp payload →
        system.control.SyncsInPlace env payload)
    (sound : target.StationsSound) (gapless : target.Gapless)
    (inside : target.InNetwork) :
    target.Tracks (ledger.next system event target) := by
  have silent : ¬ system.ReportsAll event := fun reports =>
    other 8 reports.1
  cases move with
  | still => exact tracks_kept tracks silent inside rfl ⟨rfl, rfl, rfl⟩
  | initializeLdn => nomatch inside
  | finalize => nomatch inside
  | openAccessPoint => nomatch inside
  | openStation => nomatch inside
  | closeAccessPoint => nomatch inside
  | closeStation => nomatch inside
  | createNetwork data idle opened =>
      exact tracks_created data opened rfl sound gapless
  | destroyNetwork => nomatch inside
  | setAdvertiseData data =>
      exact tracks_rebuilt tracks silent inside rfl rfl rfl sound gapless
  | disconnect => nomatch inside
  | connect => exact tracks_kept tracks silent inside rfl ⟨rfl, rfl, rfl⟩
  | connectTimeout =>
      exact tracks_kept tracks silent inside rfl ⟨rfl, rfl, rfl⟩
  | getNetworkInfoLatestUpdate capacity =>
      exact absurd rfl (other capacity)
  | takeIn =>
      exact tracks_rebuilt tracks silent inside rfl rfl rfl sound gapless
  | stationBye =>
      exact tracks_rebuilt tracks silent inside rfl rfl rfl sound gapless
  | reap =>
      exact tracks_rebuilt tracks silent inside rfl rfl rfl sound gapless
  | noteSync srcIp payload info seq =>
      exact
        tracks_kept tracks silent inside (noteSyncSeq_state ..)
          (noteSyncSeq_view ..)
  | applySync srcIp payload info seq carried accepted =>
      exact
        tracks_applySync tracks carried accepted (syncs srcIp payload rfl)
          rfl inside
  | hostBye => nomatch inside
  | hostSilent => nomatch inside

/-- A call that succeeds. -/
structure Reports (system : System) (capacity : Nat) : Prop where
  idle : system.phase = .idle
  inside : system.control.InNetwork
  fits : capacity ≤ nodeCountMax

/-- It answers with what is pending, up to its room, and forgets that. -/
theorem Reports.step {capacity : Nat} (reports : system.Reports capacity) :
    machine.step system
        (env, .command (.getNetworkInfoLatestUpdate capacity)) =
      enter
        (answer
          ⟨{ system.control with
              nodeChanges := fun index =>
                if index.val < capacity then 0
                else system.control.nodeChanges index },
            [.access .nodeChanges 0 capacity,
              .access (.latestUpdates capacity) 0 capacity]⟩
          (.latestUpdate system.control.networkInfo
            ((List.finRange 8).take capacity |>.map
              system.control.nodeChanges)))
        .idle := by
  rcases reports with ⟨idle, inside, fits⟩
  rw [next_command env _ idle]
  unfold commandStep getNetworkInfoLatestUpdate
  dsimp only
  rw [if_neg (not_lt.mpr fits), if_neg]
  unfold InNetwork at inside
  tauto

theorem Reports.replied_iff {capacity : Nat}
    (reports : system.Reports capacity) {info : NetworkInfo}
    {updates : List UInt8} :
    Effect.reply (.latestUpdate info updates) ∈
        machine.output system
          (env, .command (.getNetworkInfoLatestUpdate capacity)) ↔
      info = system.control.networkInfo ∧
        updates =
          ((List.finRange 8).take capacity).map
            system.control.nodeChanges := by
  unfold Machine.output
  rw [reports.step]
  refine (reply_mem_answer (by simp)).trans ?_
  rw [Reply.latestUpdate.injEq]

/-- Any other call changes nothing and reports nothing. -/
theorem step_of_not_reports {capacity : Nat}
    (refused : ¬ system.Reports capacity) :
    (machine.next system
          (env, .command (.getNetworkInfoLatestUpdate capacity))).control =
        system.control ∧
      ∀ info updates,
        Effect.reply (.latestUpdate info updates) ∉
          machine.output system
            (env, .command (.getNetworkInfoLatestUpdate capacity)) := by
  by_cases idle : system.phase = .idle
  · unfold Machine.next Machine.output
    rw [next_command env _ idle]
    unfold commandStep getNetworkInfoLatestUpdate answerOnly
    dsimp only
    split
    · exact ⟨rfl, fun info updates => by simp [answer, enter]⟩
    · rename_i fits
      split
      · exact ⟨rfl, fun info updates => by simp [answer, enter]⟩
      · rename_i inside
        refine absurd ⟨idle, ?_, not_lt.mp fits⟩ refused
        unfold InNetwork
        tauto
  · unfold Machine.next Machine.output
    rw [next_command_busy env _ idle]
    exact ⟨rfl, fun info updates => by simp⟩

theorem tracks_latestUpdate {capacity : Nat}
    (tracks : system.control.InNetwork → system.control.Tracks ledger)
    (nothing : system.phase = .idle → system.control.LosesNothing capacity)
    (inside :
      (machine.next system
        (env, .command
          (.getNetworkInfoLatestUpdate capacity))).control.InNetwork) :
    (machine.next system
      (env, .command (.getNetworkInfoLatestUpdate capacity))).control.Tracks
        (ledger.next system (.command (.getNetworkInfoLatestUpdate capacity))
          (machine.next system
            (env, .command
              (.getNetworkInfoLatestUpdate capacity))).control) := by
  have all (reports : system.ReportsAll
      (.command (.getNetworkInfoLatestUpdate capacity))) : capacity = 8 := by
    have equal := reports.1
    injection equal with equal
    injection equal
  by_cases reports : system.Reports capacity
  · have before := reports.inside
    unfold Machine.next at inside ⊢
    rw [reports.step] at inside ⊢
    by_cases eight : capacity = 8
    · subst eight
      rw [NodeLedger.next_reported inside ⟨rfl, reports.idle, before⟩]
      have cleared (place : Fin 8) (bit : UInt8) :
          ¬ (if place.val < 8 then 0
            else system.control.nodeChanges place) &&& bit ≠ 0 := by
        rw [if_pos place.isLt, UInt8.zero_and, not_not]
      exact
        ⟨(tracks before).previous, (tracks before).placed,
          fun id => iff_of_false (cleared id _) Bool.false_ne_true,
          fun id => iff_of_false (cleared id _) Bool.false_ne_true⟩
    · have less : capacity < 8 := lt_of_le_of_ne reports.fits eight
      refine
        tracks_kept tracks (fun reports => eight (all reports)) inside rfl
          ⟨rfl, rfl, ?_⟩
      funext place
      change (if _ then _ else _ : UInt8) = _
      split
      · rename_i inRoom
        exact (nothing reports.idle before less place inRoom).symm
      · rfl
  · have same :
        (machine.next system
          (env, .command (.getNetworkInfoLatestUpdate capacity))).control =
            system.control :=
      (step_of_not_reports reports).1
    rw [same] at inside ⊢
    refine tracks_kept tracks ?_ inside rfl ⟨rfl, rfl, rfl⟩
    intro called
    exact reports ⟨called.2.1, called.2.2, (all called).le⟩

end Tracks

end System

namespace Watch

/-! ## Runs -/

/-- The stations have no gap, and what is pending says what happened. -/
structure Faithful (watch : Watch) : Prop where
  room : watch.system.control.RoomInvariant
  gapless : watch.system.control.Gapless
  tracks :
    watch.system.control.InNetwork →
      watch.system.control.Tracks watch.ledger
  complete :
    watch.system.control.InNetwork →
      watch.ledger.Complete watch.system.control.networkInfo

theorem faithful_initial (mtu : UInt32) : (initial mtu).Faithful where
  room := System.roomInvariant_initial mtu
  gapless _ _ _ _ active := nomatch active
  tracks inside := nomatch inside
  complete inside := nomatch inside

theorem Faithful.tracks_next {watch : Watch} (faithful : watch.Faithful)
    {input : Env × Event} (keeps : watch.system.KeepsPlaces input)
    (inside : (machine.next watch input).system.control.InNetwork) :
    (machine.next watch input).system.control.Tracks
      (machine.next watch input).ledger := by
  rcases watch with ⟨system, ledger⟩
  rcases input with ⟨env, event⟩
  change (System.machine.next system (env, event)).control.InNetwork
    at inside
  change
    (System.machine.next system (env, event)).control.Tracks
      (ledger.next system event
        (System.machine.next system (env, event)).control)
  by_cases call :
      ∃ capacity, event = .command (.getNetworkInfoLatestUpdate capacity)
  · rcases call with ⟨capacity, rfl⟩
    exact System.tracks_latestUpdate faithful.tracks keeps inside
  · have syncs (srcIp : UInt32) (payload : List UInt8)
        (frame : event = .frame srcIp payload) :
        system.control.SyncsInPlace env payload := by
      subst frame
      exact keeps.2
    have room := System.roomInvariant_next (env, event) faithful.room
    have gapless := System.gapless_next faithful.gapless keeps
    rcases system.next_move (env, event) with ⟨target, move, same⟩
    generalize System.machine.next system (env, event) = after
      at inside room gapless same ⊢
    have state := LdnControl.state_eq_of_core same
    have view := LdnControl.view_eq_of_core same
    rw [NodeLedger.next_congr state view.1]
    refine LdnControl.Tracks.of_view ?_ view
    refine
      System.tracks_move move faithful.tracks (not_exists.mp call) syncs ?_
        (gapless.of_core same.symm) ?_
    · rw [← LdnControl.roomInvariant_core, same,
        LdnControl.roomInvariant_core] at room
      exact room.sound
    · unfold LdnControl.InNetwork at inside ⊢
      rwa [state] at inside

theorem Faithful.next {watch : Watch} (faithful : watch.Faithful)
    {input : Env × Event} (keeps : watch.system.KeepsPlaces input) :
    (machine.next watch input).Faithful where
  room := System.roomInvariant_next input faithful.room
  gapless := System.gapless_next faithful.gapless keeps
  tracks := faithful.tracks_next keeps
  complete := NodeLedger.complete_next faithful.complete

theorem Faithful.reportsRight {watch : Watch} (faithful : watch.Faithful)
    (input : Env × Event) : watch.ReportsRight input := by
  rcases input with ⟨env, event⟩
  intro called info updates replied id
  dsimp only at called
  subst called
  by_cases reports : watch.system.Reports 8
  · have tracks := faithful.tracks reports.inside
    rcases reports.replied_iff.mp replied with ⟨rfl, rfl⟩
    rw [LdnControl.nodeChanges_getD]
    refine ⟨tracks.appeared id, tracks.vanished id, fun first => ?_⟩
    rw [← faithful.complete reports.inside first id]
    exact tracks.appeared id
  · exact absurd replied ((System.step_of_not_reports reports).2 info updates)

/--
As long as stations leave a host from the end, the networks copied in have
their ids for places, a station enters its networks without anything left of
another one, and no call with less room drops a change, every call reports
for each node exactly what became of it.
-/
theorem reportsRight_of_keepsPlaces (mtu : UInt32)
    {inputs : List (Env × Event)}
    (keeps :
      machine.EachStep (fun watch input => watch.system.KeepsPlaces input)
        (initial mtu) inputs) :
    machine.EachStep ReportsRight (initial mtu) inputs :=
  Machine.eachStep_of_invariant
    (fun _ _ faithful keeps => faithful.next keeps)
    (fun _ input faithful _ => faithful.reportsRight input)
    (faithful_initial mtu) keeps

/-- A game creates a network and asks what changed. -/
def openedRoom : List (Env × Event) :=
  [(Env.at 0, .command .initializeLdn),
    (Env.at 0, .command .openAccessPoint),
    (Env.at 0, .command (.createNetwork System.sampleConfig)),
    (Env.at 0, .command (.getNetworkInfoLatestUpdate 8))]

theorem openedRoom_reportsRight :
    System.hostingSystem.Reports 8 ∧
      machine.EachStep ReportsRight (initial 1400) openedRoom :=
  ⟨⟨rfl, .inl rfl, le_rfl⟩,
    reportsRight_of_keepsPlaces 1400
      ⟨trivial, trivial, trivial,
        fun _ _ less => absurd less (lt_irrefl 8), trivial⟩⟩

/-- A network of three nodes after the station with id 2 left it: the one
with id 3 moved up. -/
def movedUpNetwork : NetworkInfo :=
  { sampleNetwork with
    ldn :=
      { sampleNetwork.ldn with
        nodeCount := 3
        nodes := fun index =>
          if index.val = 0 then sampleNetwork.ldn.nodes 0
          else if index.val = 1 then
            { NodeInfo.zero with
              ipv4Address := 0x0A0D2502, nodeId := 1, isConnected := 1 }
          else if index.val = 2 then
            { NodeInfo.zero with
              ipv4Address := 0x0A0D0004, nodeId := 3, isConnected := 1 }
          else NodeInfo.zero } }

/-- The sync that its host sends. -/
def movedUpSync : Env × Event :=
  (Env.at 0,
    .frame 0x0A0D0003
      (syncArrival (Env.at 0) 0x0A0D0003 movedUpNetwork 1).payload)

/-- A game that is taken in and asks what changed. -/
def takenIn : List (Env × Event) :=
  [(Env.at 0, .command .initializeLdn),
    (Env.at 0, .command .openStation),
    movedUpSync,
    (Env.at 0, .command (.getNetworkInfoLatestUpdate 8))]

/-- The station of `takenIn` once it is connected. -/
def takenInSystem : System :=
  System.machine.next System.stationSystem movedUpSync

theorem takenInSystem_control :
    takenInSystem.control =
      (((System.stationSystem.control.noteSyncSeq 1).received (Env.at 0)
        movedUpNetwork).setState .stationConnected).onNetworkInfoChanged := by
  have confirmed :
      ((System.stationSystem.control.noteSyncSeq 1).confirmSearch (Env.at 0)
        movedUpNetwork).1 = true := by
    rw [LdnControl.noteSyncSeq_confirmSearch, LdnControl.confirmSearch,
      System.stationSystem_ipv4Address]
    decide
  have handled :=
    System.stationSystem.control.onControlFrame_sync_control (Env.at 0)
      0x0A0D0003 _ movedUpNetwork 1
      (syncOf_syncArrival (Env.at 0) 0x0A0D0003 movedUpNetwork 1)
      (.inl rfl)
  have fresh : System.stationSystem.control.staleSync 1 = false := rfl
  have free : System.stationSystem.control.joinActive = false := rfl
  have station :
      (System.stationSystem.control.noteSyncSeq 1).state = .station := rfl
  rw [fresh, if_neg Bool.false_ne_true, if_neg (by simp [free]),
    LdnControl.applySync, if_pos station, if_pos confirmed] at handled
  rw [takenInSystem, movedUpSync, System.next_frame, handled]

theorem takenInSystem_networkInfo :
    takenInSystem.control.networkInfo = movedUpNetwork := by
  rw [takenInSystem_control]
  rfl

theorem takenInSystem_reports : takenInSystem.Reports 8 where
  idle := by
    rw [takenInSystem, movedUpSync, System.next_frame]
    rfl
  inside := by
    right
    rw [takenInSystem_control]
    rfl
  fits := le_rfl

theorem takenInSystem_nodeChanges :
    takenInSystem.control.nodeChanges 3 = 0 := by
  rw [takenInSystem_control]
  rfl

/-- All that a first call has to report is the network it was taken into. -/
theorem next_movedUpSync :
    machine.next ⟨System.stationSystem, .empty⟩ movedUpSync =
      ⟨takenInSystem, .joined movedUpNetwork⟩ := by
  have outside : ¬ System.stationSystem.control.InNetwork := by
    decide
  have joined :
      NodeLedger.empty.next System.stationSystem movedUpSync.2
          takenInSystem.control =
        .joined takenInSystem.control.networkInfo :=
    NodeLedger.next_joined takenInSystem_reports.inside outside
  rw [takenInSystem_networkInfo] at joined
  rw [← joined]
  rfl

/-- The change of the node that moved up is reported for another one. -/
theorem takenIn_not_reportsRight :
    ¬ machine.EachStep ReportsRight (initial 1400) takenIn := by
  rintro ⟨-, -, -, right, -⟩
  have taken :
      machine.next
          (machine.next
            (machine.next (initial 1400)
              (Env.at 0, .command .initializeLdn))
            (Env.at 0, .command .openStation))
          movedUpSync =
        ⟨takenInSystem, .joined movedUpNetwork⟩ :=
    next_movedUpSync
  rw [taken] at right
  have told :=
    (right rfl _ _ (takenInSystem_reports.replied_iff.mpr ⟨rfl, rfl⟩)
      3).1.mpr (by decide)
  rw [LdnControl.nodeChanges_getD, takenInSystem_nodeChanges] at told
  exact told UInt8.zero_and

end Watch

end SlpClient.Ldn
