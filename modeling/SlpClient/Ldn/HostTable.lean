import Mathlib.Data.List.OfFn
import SlpClient.Ldn.Moves

/-!
# The room of a host

A host keeps a station in each of seven slots and advertises a node list that
is rebuilt from them.  Connect frames and their repetitions fill the slots;
goodbyes, silence and the role commands empty them.  The slots always agree
with themselves, only a host has stations, and the advertised list is this
console followed by the stations.
-/

namespace SlpClient.Ldn

open SlpClient.Lib

namespace LdnControl

/-- The slots in use, in the order of their node ids. -/
def activeSlots (control : LdnControl) : List (Fin 8) :=
  stationSlots.filter fun slot => (control.stations slot).active

/-- The slots in use are complete, consistent and of different consoles. -/
structure StationsSound (control : LdnControl) : Prop where
  connected :
    ∀ slot ∈ stationSlots,
      (control.stations slot).active = (control.stations slot).connected
  distinct :
    ∀ slot ∈ stationSlots, ∀ other ∈ stationSlots,
      (control.stations slot).active = true →
        (control.stations other).active = true →
          (control.stations slot).srcIp = (control.stations other).srcIp →
            slot = other
  node :
    ∀ slot ∈ stationSlots, (control.stations slot).active = true →
      (control.stations slot).node.ipv4Address =
          (control.stations slot).srcIp ∧
        (control.stations slot).node.macAddress =
          fakeMac (control.stations slot).srcIp ∧
        (control.stations slot).node.nodeId = slotNodeId slot ∧
        (control.stations slot).node.isConnected = 1

/-- The node list is this console, then the stations, then nothing. -/
structure AdvertisesStations (control : LdnControl) : Prop where
  nodes :
    List.ofFn control.networkInfo.ldn.nodes =
      control.hostNode ::
        (control.activeSlots.map fun slot =>
            (control.stations slot).node) ++
          List.replicate (7 - control.activeSlots.length) NodeInfo.zero
  nodeCount :
    control.networkInfo.ldn.nodeCount.toNat =
      1 + control.activeSlots.length

/-- What stands at a place of the advertised list. -/
theorem AdvertisesStations.entry {control : LdnControl}
    (advertises : control.AdvertisesStations) (place : Fin 8) :
    (place.val = 0 ∧
        control.networkInfo.ldn.nodes place = control.hostNode) ∨
      (∃ index slot,
        place.val = index + 1 ∧ control.activeSlots[index]? = some slot ∧
          control.networkInfo.ldn.nodes place =
            (control.stations slot).node) ∨
      control.networkInfo.ldn.nodes place = NodeInfo.zero := by
  have entry :
      (List.ofFn control.networkInfo.ldn.nodes)[place.val]? =
        some (control.networkInfo.ldn.nodes place) := by
    rw [List.getElem?_ofFn, dif_pos place.isLt]
  generalize control.networkInfo.ldn.nodes place = node at entry ⊢
  rw [advertises.nodes, List.cons_append] at entry
  rcases place with ⟨_ | index, inside⟩
  · rw [List.getElem?_cons_zero, Option.some.injEq] at entry
    exact .inl ⟨rfl, entry.symm⟩
  · rw [List.getElem?_cons_succ] at entry
    by_cases used : index < control.activeSlots.length
    · rw [List.getElem?_append_left (by simpa using used),
        List.getElem?_map, List.getElem?_eq_getElem used,
        Option.map_some, Option.some.injEq] at entry
      exact
        .inr (.inl
          ⟨index, _, rfl, List.getElem?_eq_getElem used, entry.symm⟩)
    · rw [List.getElem?_append_right (by simpa using used)] at entry
      exact
        .inr (.inr (List.eq_of_mem_replicate (List.mem_of_getElem? entry)))

/-- What every reachable state keeps about stations. -/
structure RoomInvariant (control : LdnControl) : Prop where
  sound : control.StationsSound
  empty :
    control.state ≠ .accessPointCreated → control.activeSlots = []
  advertises :
    control.state = .accessPointCreated → control.AdvertisesStations

theorem roomInvariant_core (control : LdnControl) :
    control.core.RoomInvariant ↔ control.RoomInvariant := by
  constructor
  · intro holds
    exact
      { sound := ⟨holds.sound.1, holds.sound.2, holds.sound.3⟩
        empty := holds.empty
        advertises := fun hosting =>
          ⟨(holds.advertises hosting).1, (holds.advertises hosting).2⟩ }
  · intro holds
    exact
      { sound := ⟨holds.sound.1, holds.sound.2, holds.sound.3⟩
        empty := holds.empty
        advertises := fun hosting =>
          ⟨(holds.advertises hosting).1, (holds.advertises hosting).2⟩ }

/-! ## Rebuilding -/

/-- Writing one entry of a table. -/
theorem ofFn_ite {count : Nat} (value : NodeInfo)
    (nodes : Fin 8 → NodeInfo) :
    (List.ofFn fun index : Fin 8 =>
        if index.val = count then value else nodes index) =
      (List.ofFn nodes).set count value := by
  apply List.ext_getElem
  · simp
  · intro index first second
    simp only [List.getElem_ofFn, List.getElem_set, eq_comm]

/-- The slots that `BuildNetwork` lists. -/
def liveSlots (control : LdnControl) (slots : List (Fin 8)) :
    List (Fin 8) :=
  slots.filter fun slot => (control.stations slot).live

theorem liveSlots_cons (control : LdnControl) (slot : Fin 8)
    (rest : List (Fin 8)) :
    control.liveSlots (slot :: rest) =
      if (control.stations slot).live then slot :: control.liveSlots rest
      else control.liveSlots rest :=
  List.filter_cons

/-- The live slots are placed one after another. -/
theorem placeStations_ofFn (control : LdnControl) (slots : List (Fin 8))
    (nodes : Fin 8 → NodeInfo) (count : Nat)
    (room : count + (control.liveSlots slots).length ≤ 8) :
    List.ofFn (control.placeStations slots nodes count).1 =
        (List.ofFn nodes).take count ++
          (control.liveSlots slots).map control.stationNode ++
          (List.ofFn nodes).drop
            (count + (control.liveSlots slots).length) ∧
      (control.placeStations slots nodes count).2.1 =
        count + (control.liveSlots slots).length := by
  induction slots generalizing nodes count with
  | nil =>
      refine ⟨?_, rfl⟩
      change
        List.ofFn nodes =
          (List.ofFn nodes).take count ++ [] ++ (List.ofFn nodes).drop count
      rw [List.append_nil, List.take_append_drop]
  | cons slot rest induction =>
      rw [liveSlots_cons] at room ⊢
      unfold placeStations
      by_cases live : (control.stations slot).live = true
      · rw [if_pos live, List.length_cons] at room
        rw [if_pos live, if_pos live, List.map_cons, List.length_cons]
        dsimp only
        have placed :=
          induction
            (fun index =>
              if index.val = count then control.stationNode slot
              else nodes index)
            (count + 1) (by omega)
        have inside : count < (List.ofFn nodes).length := by
          rw [List.length_ofFn]
          omega
        have length :
            ((List.ofFn nodes).take count ++
              [control.stationNode slot]).length = count + 1 := by
          rw [List.length_append, List.length_take]
          exact congrArg (· + 1) (Nat.min_eq_left inside.le)
        rw [ofFn_ite, List.set_eq_take_append_cons_drop, if_pos inside,
          List.append_cons] at placed
        refine ⟨?_, by rw [placed.2]; omega⟩
        rw [placed.1, List.take_left' length, ← List.drop_drop,
          List.drop_left' length, List.drop_drop]
        simp [Nat.add_assoc, Nat.add_comm 1]
      · rw [if_neg live] at room
        rw [if_neg live, if_neg live]
        exact induction nodes count room

theorem activeSlots_length_le (control : LdnControl) :
    control.activeSlots.length ≤ 7 :=
  List.length_filter_le _ stationSlots

theorem mem_activeSlots {control : LdnControl} {slot : Fin 8} :
    slot ∈ control.activeSlots ↔
      slot ∈ stationSlots ∧ (control.stations slot).active = true :=
  List.mem_filter

/-- A sound table lists exactly the slots in use. -/
theorem StationsSound.liveSlots_eq {control : LdnControl}
    (sound : control.StationsSound) :
    control.liveSlots stationSlots = control.activeSlots := by
  apply List.filter_congr
  intro slot member
  rw [Station.live, ← sound.connected slot member, Bool.and_self]

/-- A sound slot in use is advertised as it stands. -/
theorem StationsSound.stationNode_eq {control : LdnControl}
    (sound : control.StationsSound) {slot : Fin 8}
    (active : slot ∈ control.activeSlots) :
    control.stationNode slot = (control.stations slot).node := by
  rcases mem_activeSlots.mp active with ⟨member, used⟩
  rcases sound.node slot member used with ⟨-, -, nodeId, isConnected⟩
  unfold stationNode
  rw [← nodeId, ← isConnected]

/-- Rebuilding advertises the stations of a sound table. -/
theorem StationsSound.advertises_rebuilt {control : LdnControl}
    (sound : control.StationsSound) :
    control.rebuilt.AdvertisesStations := by
  have count := control.activeSlots_length_le
  have placed :=
    control.placeStations_ofFn stationSlots
      (fun index => if index.val = 0 then control.hostNode
        else NodeInfo.zero) 1
      (by rw [sound.liveSlots_eq]; omega)
  rw [sound.liveSlots_eq] at placed
  have entries :
      control.activeSlots.map control.stationNode =
        control.activeSlots.map fun slot =>
          (control.stations slot).node :=
    List.map_congr_left fun slot active => sound.stationNode_eq active
  have start :
      (List.ofFn fun index : Fin 8 =>
          if index.val = 0 then control.hostNode else NodeInfo.zero) =
        control.hostNode :: List.replicate 7 NodeInfo.zero :=
    rfl
  constructor
  · change List.ofFn (control.placeStations stationSlots _ 1).1 = _
    rw [placed.1, entries, start, Nat.add_comm, List.drop_succ_cons,
      List.drop_replicate]
    rfl
  · change (UInt8.ofNat (control.placeStations stationSlots _ 1).2.1).toNat
      = _
    rw [placed.2, UInt8.toNat_ofNat', Nat.mod_eq_of_lt]
    · rfl
    · omega

/-! ## Tables that the moves leave behind -/

theorem StationsSound.of_stations {control other : LdnControl}
    (sound : control.StationsSound)
    (same : other.stations = control.stations) :
    other.StationsSound := by
  constructor
  · rw [same]
    exact sound.connected
  · rw [same]
    exact sound.distinct
  · rw [same]
    exact sound.node

/-- A table without stations is sound. -/
theorem StationsSound.of_inactive {control : LdnControl}
    (inactive :
      ∀ slot ∈ stationSlots,
        (control.stations slot).active = false ∧
          (control.stations slot).connected = false) :
    control.StationsSound where
  connected slot member := by
    rw [(inactive slot member).1, (inactive slot member).2]
  distinct slot member _ _ active := by
    rw [(inactive slot member).1] at active
    exact absurd active Bool.false_ne_true
  node slot member active := by
    rw [(inactive slot member).1] at active
    exact absurd active Bool.false_ne_true

theorem resetStations_inactive (control : LdnControl) (slot : Fin 8)
    (member : slot ∈ stationSlots) :
    (control.resetStations.stations slot).active = false ∧
      (control.resetStations.stations slot).connected = false := by
  unfold resetStations
  dsimp only
  rw [if_pos member]
  exact ⟨rfl, rfl⟩

theorem activeSlots_resetStations (control : LdnControl) :
    control.resetStations.activeSlots = [] := by
  apply List.filter_eq_nil_iff.mpr
  intro slot member
  rw [(control.resetStations_inactive slot member).1]
  exact Bool.false_ne_true

/-- Emptying some slots keeps a table sound. -/
theorem StationsSound.of_cleared {control other : LdnControl}
    (sound : control.StationsSound)
    (cleared :
      ∀ slot ∈ stationSlots,
        other.stations slot = control.stations slot ∨
          other.stations slot = (control.stations slot).clear) :
    other.StationsSound := by
  have kept :
      ∀ slot ∈ stationSlots, (other.stations slot).active = true →
        other.stations slot = control.stations slot := by
    intro slot member active
    rcases cleared slot member with same | clear
    · exact same
    · rw [clear] at active
      exact absurd active Bool.false_ne_true
  constructor
  · intro slot member
    rcases cleared slot member with same | clear
    · rw [same]
      exact sound.connected slot member
    · rw [clear]
      rfl
  · intro slot member second secondMember active secondActive sameIp
    have first := kept slot member active
    have other := kept second secondMember secondActive
    rw [first] at active sameIp
    rw [other] at secondActive sameIp
    exact
      sound.distinct slot member second secondMember active secondActive
        sameIp
  · intro slot member active
    have same := kept slot member active
    rw [same] at active ⊢
    exact sound.node slot member active

theorem findStationByIp_some {control : LdnControl} {srcIp : UInt32}
    {slot : Fin 8} (found : control.findStationByIp srcIp = some slot) :
    slot ∈ stationSlots ∧ (control.stations slot).active = true ∧
      (control.stations slot).srcIp = srcIp := by
  have member := List.mem_of_find?_eq_some found
  have holds := List.find?_some found
  rw [Bool.and_eq_true, beq_iff_eq] at holds
  exact ⟨member, holds.1, holds.2⟩

/-- The slot of an admitted console is its own one or a free one. -/
theorem connectSlot_some {control : LdnControl} {srcIp : UInt32}
    {slot : Fin 8} (found : control.connectSlot srcIp = some slot) :
    slot ∈ stationSlots ∧
      ∀ other ∈ stationSlots, (control.stations other).active = true →
        (control.stations other).srcIp = srcIp →
          control.findStationByIp srcIp = some slot := by
  unfold connectSlot at found
  split at found
  · rename_i own known
    rw [Option.some.injEq] at found
    subst found
    exact ⟨(findStationByIp_some known).1, fun _ _ _ _ => known⟩
  · rename_i unknown
    split at found
    · exact absurd found (by simp)
    · refine ⟨List.mem_of_find?_eq_some found, ?_⟩
      intro other member active same
      have absent := List.find?_eq_none.mp unknown other member
      rw [active, same] at absent
      simp at absent

/-- Admitting a console keeps a table sound. -/
theorem StationsSound.admitting {control : LdnControl}
    (sound : control.StationsSound) {env : Env} {srcIp : UInt32}
    {node : NodeInfo} {slot : Fin 8}
    (found : control.connectSlot srcIp = some slot) :
    (control.withStation slot
      (connectedStation env srcIp node slot)).StationsSound := by
  rcases connectSlot_some found with ⟨-, only⟩
  have unique :
      ∀ other ∈ stationSlots, other ≠ slot →
        (control.stations other).active = true →
          (control.stations other).srcIp ≠ srcIp := by
    intro other member different active same
    have known := findStationByIp_some (only other member active same)
    apply different
    exact
      sound.distinct other member slot known.1 active known.2.1
        (same.trans known.2.2.symm)
  constructor
  · intro other member
    by_cases same : other = slot
    · subst same
      simp only [withStation, Function.update_self]
      rfl
    · simp only [withStation, Function.update_of_ne same]
      exact sound.connected other member
  · intro first firstMember second secondMember firstActive secondActive
      sameIp
    by_cases atFirst : first = slot
    · by_cases atSecond : second = slot
      · rw [atFirst, atSecond]
      · subst atFirst
        simp only [withStation, Function.update_self,
          Function.update_of_ne atSecond] at secondActive sameIp
        exact
          (unique second secondMember atSecond secondActive
            sameIp.symm).elim
    · by_cases atSecond : second = slot
      · subst atSecond
        simp only [withStation, Function.update_self,
          Function.update_of_ne atFirst] at firstActive sameIp
        exact (unique first firstMember atFirst firstActive sameIp).elim
      · simp only [withStation, Function.update_of_ne atFirst,
          Function.update_of_ne atSecond] at firstActive secondActive sameIp
        exact
          sound.distinct first firstMember second secondMember firstActive
            secondActive sameIp
  · intro other member active
    by_cases same : other = slot
    · subst same
      simp only [withStation, Function.update_self]
      exact ⟨rfl, rfl, rfl, rfl⟩
    · simp only [withStation, Function.update_of_ne same] at active ⊢
      exact sound.node other member active

/-! ## Steps and runs -/

/-- A console that leaves its role has no stations. -/
theorem roomInvariant_reset (control : LdnControl) {state : CommState}
    (elsewhere : state ≠ .accessPointCreated) :
    (control.resetStations.inState state).RoomInvariant where
  sound :=
    StationsSound.of_inactive control.resetStations_inactive
  empty _ := control.activeSlots_resetStations
  advertises hosting := absurd hosting elsewhere

/-- A rebuilt room of a host. -/
theorem StationsSound.roomInvariant_rebuilt {control : LdnControl}
    (sound : control.StationsSound)
    (hosting : control.state = .accessPointCreated) :
    control.rebuilt.RoomInvariant where
  sound := sound.of_stations rfl
  empty elsewhere := absurd hosting elsewhere
  advertises _ := sound.advertises_rebuilt

/-- Outside of a room only the stations matter. -/
theorem RoomInvariant.of_stations {control other : LdnControl}
    (holds : control.RoomInvariant)
    (elsewhere : control.state ≠ .accessPointCreated)
    (stays : other.state ≠ .accessPointCreated)
    (same : other.stations = control.stations) :
    other.RoomInvariant where
  sound := holds.sound.of_stations same
  empty _ := by
    unfold activeSlots
    rw [same]
    exact holds.empty elsewhere
  advertises hosting := absurd hosting stays

/-- A move that touches neither the room nor the role. -/
theorem RoomInvariant.of_same {control other : LdnControl}
    (holds : control.RoomInvariant)
    (state : other.state = control.state)
    (stations : other.stations = control.stations)
    (network : other.networkInfo = control.networkInfo)
    (host : other.hostNode = control.hostNode) :
    other.RoomInvariant where
  sound := holds.sound.of_stations stations
  empty elsewhere := by
    rw [state] at elsewhere
    unfold activeSlots
    rw [stations]
    exact holds.empty elsewhere
  advertises hosting := by
    rw [state] at hosting
    rcases holds.advertises hosting with ⟨nodes, nodeCount⟩
    constructor
    · unfold activeSlots
      rw [network, host, stations]
      exact nodes
    · unfold activeSlots
      rw [network, stations]
      exact nodeCount

theorem applySync_stations (control : LdnControl) (env : Env)
    (info : NetworkInfo) :
    (control.applySync env info).control.stations = control.stations := by
  unfold applySync setState
  split_ifs <;> rfl

theorem noteSyncSeq_stations (control : LdnControl) (seq : UInt16) :
    (control.noteSyncSeq seq).stations = control.stations := by
  unfold noteSyncSeq
  split <;> rfl

theorem applySync_state (control : LdnControl) (env : Env)
    (info : NetworkInfo) :
    (control.applySync env info).control.state = control.state ∨
      (control.applySync env info).control.state = .stationConnected := by
  unfold applySync setState
  split_ifs <;> simp_all [onNetworkInfoChanged, received]

theorem applySync_join (control : LdnControl) (env : Env)
    (info : NetworkInfo) :
    (control.applySync env info).control.joinActive =
        control.joinActive ∧
      (control.applySync env info).control.joinTargetBssid =
        control.joinTargetBssid := by
  unfold applySync setState
  split_ifs <;> exact ⟨rfl, rfl⟩

/-- Every move keeps the room invariant. -/
theorem RoomInvariant.move {system : System} {env : Env} {event : Event}
    {target : LdnControl} (holds : system.control.RoomInvariant)
    (move : Move system env event target) : target.RoomInvariant := by
  cases move with
  | still => exact holds
  | initializeLdn =>
      exact roomInvariant_reset
        (system.control.withAddress env.virtualAddress).initNodeStateChange
        (by decide)
  | finalize =>
      exact roomInvariant_reset system.control.leaveJoin (by decide)
  | openAccessPoint => exact roomInvariant_reset _ (by decide)
  | openStation => exact roomInvariant_reset _ (by decide)
  | closeAccessPoint => exact roomInvariant_reset _ (by decide)
  | closeStation => exact roomInvariant_reset _ (by decide)
  | createNetwork data =>
      apply StationsSound.roomInvariant_rebuilt
      · exact
          StationsSound.of_inactive
            (system.control.created env data).resetStations_inactive
      · rfl
  | destroyNetwork => exact roomInvariant_reset _ (by decide)
  | setAdvertiseData data =>
      by_cases hosting : system.control.state = .accessPointCreated
      · exact
          (show (system.control.advertised data).StationsSound from
            holds.sound.of_stations rfl).roomInvariant_rebuilt hosting
      · exact holds.of_stations hosting hosting rfl
  | disconnect =>
      exact roomInvariant_reset system.control.leaveJoin (by decide)
  | connect => exact holds.of_same rfl rfl rfl rfl
  | connectTimeout => exact holds.of_same rfl rfl rfl rfl
  | getNetworkInfoLatestUpdate => exact holds.of_same rfl rfl rfl rfl
  | takeIn srcIp payload node slot hosting found =>
      exact (holds.sound.admitting found).roomInvariant_rebuilt hosting
  | stationBye srcIp payload slot hosting found =>
      apply StationsSound.roomInvariant_rebuilt
      · apply holds.sound.of_cleared
        intro other _
        by_cases same : other = slot
        · subst same
          right
          exact Function.update_self ..
        · left
          exact Function.update_of_ne same ..
      · exact hosting
  | reap hosting =>
      apply StationsSound.roomInvariant_rebuilt
      · apply holds.sound.of_cleared
        intro slot _
        unfold reapStations
        dsimp only
        split
        · exact .inr rfl
        · exact .inl rfl
      · exact hosting
  | noteSync srcIp payload info seq carried station =>
      have elsewhere : system.control.state ≠ .accessPointCreated := by
        rcases station with station | station <;> simp [station]
      apply holds.of_stations elsewhere
      · rw [noteSyncSeq_state]
        exact elsewhere
      · exact noteSyncSeq_stations ..
  | applySync srcIp payload info seq carried accepted =>
      have elsewhere : system.control.state ≠ .accessPointCreated := by
        rcases acceptsSync_station accepted with station | station <;>
          simp [station]
      apply holds.of_stations elsewhere
      · rcases applySync_state (system.control.noteSyncSeq seq) env
          info with same | connected
        · rw [same, noteSyncSeq_state]
          exact elsewhere
        · rw [connected]
          decide
      · rw [applySync_stations]
        exact noteSyncSeq_stations ..
  | hostBye srcIp payload bye carried connected =>
      apply holds.of_stations
      · rw [connected]
        decide
      · exact nofun
      · rfl
  | hostSilent due connected =>
      apply holds.of_stations
      · rw [connected]
        decide
      · exact nofun
      · rfl

end LdnControl

namespace System

theorem roomInvariant_initial (mtu : UInt32) :
    (initial mtu).control.RoomInvariant where
  sound := .of_inactive fun _ _ => ⟨rfl, rfl⟩
  empty _ := rfl
  advertises hosting := absurd hosting nofun

theorem roomInvariant_next {system : System} (input : Env × Event)
    (holds : system.control.RoomInvariant) :
    (machine.next system input).control.RoomInvariant := by
  rcases system.next_move input with ⟨target, move, same⟩
  rw [← LdnControl.roomInvariant_core, same,
    LdnControl.roomInvariant_core]
  exact holds.move move

/-- Every reachable state keeps the room invariant. -/
theorem roomInvariant_of_reachable {mtu : UInt32} {system : System}
    (reachable : machine.Reachable (initial mtu) system) :
    system.control.RoomInvariant := by
  let invariant : System → Prop := fun system =>
    system.control.RoomInvariant
  have initially : invariant (initial mtu) := roomInvariant_initial mtu
  exact
    reachable.invariant initially fun _ input holds =>
      roomInvariant_next input holds

/--
Whatever happened before, a host's slots agree with themselves, no two of
them belong to one address, and the advertised node list is this console
followed by the stations in the order of their node ids.
-/
theorem hosting_stationsSound_advertises
    {mtu : UInt32} {system : System}
    (reachable : machine.Reachable (initial mtu) system)
    (hosting : system.control.state = .accessPointCreated) :
    system.control.StationsSound ∧
      system.control.AdvertisesStations ∧
      1 + system.control.activeSlots.length ≤ 8 ∧
      (system.control.hostNode.nodeId = 0 ∧
        system.control.hostNode.ipv4Address =
          system.control.ipv4Address ∧
        system.control.hostNode.macAddress =
          fakeMac system.control.ipv4Address ∧
        system.control.hostNode.isConnected = 1) ∧
      ∀ slot ∈ system.control.activeSlots,
        (system.control.activeSlots.filter fun other =>
          (system.control.stations other).srcIp ==
            (system.control.stations slot).srcIp) = [slot] := by
  have holds := roomInvariant_of_reachable reachable
  have count := system.control.activeSlots_length_le
  refine
    ⟨holds.sound, holds.advertises hosting, by omega,
      ⟨rfl, rfl, rfl, rfl⟩, ?_⟩
  intro slot member
  have nodup : system.control.activeSlots.Nodup :=
    List.Nodup.filter _ (by decide)
  rcases LdnControl.mem_activeSlots.mp member with ⟨inside, active⟩
  have own :
      (system.control.activeSlots.filter fun other =>
          (system.control.stations other).srcIp ==
            (system.control.stations slot).srcIp) =
        system.control.activeSlots.filter (· == slot) := by
    apply List.filter_congr
    intro other otherMember
    rcases LdnControl.mem_activeSlots.mp otherMember with
      ⟨otherInside, otherActive⟩
    rw [Bool.eq_iff_iff, beq_iff_eq, beq_iff_eq]
    constructor
    · exact
        holds.sound.distinct other otherInside slot inside otherActive
          active
    · rintro rfl
      rfl
  rw [own, List.filter_beq, List.count_eq_one_of_mem nodup member]
  rfl

/-- The configuration of an example room for eight consoles. -/
def sampleConfig : CreateNetworkConfig where
  securityConfig := ⟨0⟩
  userConfig := ⟨fun _ => 0⟩
  networkConfig := ⟨⟨0, fun _ => 0, 0, fun _ => 0⟩, 0, 8, 0⟩

/-- The system after a game initialized LDN and opened a room. -/
def hostingSystem : System :=
  machine.run (initial 1400)
    [(Env.at 0, .command .initializeLdn),
      (Env.at 0, .command .openAccessPoint),
      (Env.at 0, .command (.createNetwork sampleConfig))]

theorem hostingSystem_reachable :
    machine.Reachable (initial 1400) hostingSystem :=
  ⟨_, rfl⟩

theorem hostingSystem_state :
    hostingSystem.control.state = .accessPointCreated :=
  rfl

end System

end SlpClient.Ldn
