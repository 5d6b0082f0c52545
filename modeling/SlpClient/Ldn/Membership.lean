import SlpClient.Ldn.Goodbye
import SlpClient.Ldn.StationOrder

/-!
# Who a host takes in

A station enters the table of a host through a Connect frame and in no other
way.  `admits` is what the handler decides about such a frame: the sender
must have scanned or be a station already, and there must be a slot.  The
host's own address is not looked at, so the members of a room have different
addresses exactly as long as nobody is taken in under it.
-/

namespace SlpClient.Ldn

open SlpClient.Lib

namespace LdnControl

/-- The slot that a frame takes its sender into, if it does. -/
def admits (control : LdnControl) (now : Int) (srcIp : UInt32)
    (payload : List UInt8) : Option (Fin 8) :=
  match openedFrame payload with
  | some (.connect, body, _) =>
      if control.state = .accessPointCreated ∧
          body.length = NodeInfo.codec.size ∧
          (control.wasRecentScanner now srcIp = true ∨
            control.findStationByIp srcIp ≠ none) then
        control.connectSlot srcIp
      else none
  | _ => none

/-- The stations in use were in use before, by the same consoles. -/
def NoneNew (control after : LdnControl) : Prop :=
  ∀ slot, (after.stations slot).active = true →
    (control.stations slot).active = true ∧
      (after.stations slot).srcIp = (control.stations slot).srcIp

/-- A console is taken into a slot. -/
def TakenIn (control : LdnControl) (env : Env) (srcIp : UInt32)
    (slot : Fin 8) (after : LdnControl) : Prop :=
  ∃ node,
    after.stations =
      Function.update control.stations slot
        (connectedStation env srcIp node slot)

theorem TakenIn.mem_activeSlots {control after : LdnControl} {env : Env}
    {srcIp : UInt32} {slot : Fin 8}
    (taken : control.TakenIn env srcIp slot after)
    (member : slot ∈ stationSlots) : slot ∈ after.activeSlots := by
  rcases taken with ⟨node, stations⟩
  refine LdnControl.mem_activeSlots.mpr ⟨member, ?_⟩
  rw [stations, Function.update_self]
  rfl

section NoneNew

variable {control after : LdnControl}

theorem NoneNew.of_stations (same : after.stations = control.stations) :
    control.NoneNew after := by
  intro slot active
  rw [same] at active ⊢
  exact ⟨active, rfl⟩

/-- Emptied slots are not in use. -/
theorem NoneNew.of_cleared
    (cleared :
      ∀ slot, after.stations slot = control.stations slot ∨
        (after.stations slot).active = false) :
    control.NoneNew after := by
  intro slot active
  rcases cleared slot with same | idle
  · rw [same] at active ⊢
    exact ⟨active, rfl⟩
  · rw [idle] at active
    exact absurd active Bool.false_ne_true

theorem noneNew_clear (control : LdnControl) (slot : Fin 8) :
    control.NoneNew
      (control.withStation slot (control.stations slot).clear) := by
  apply NoneNew.of_cleared
  intro other
  by_cases same : other = slot
  · subst same
    right
    show (Function.update control.stations other _ other).active = false
    rw [Function.update_self]
    rfl
  · left
    exact Function.update_of_ne same ..

end NoneNew

/-! ## Frames -/

section Frames

variable (control : LdnControl) (env : Env) (srcIp : UInt32)
  (body : List UInt8)

theorem noneNew_handleScan :
    control.NoneNew (control.handleScan env srcIp).control := by
  unfold handleScan
  split
  · exact .of_stations rfl
  · apply NoneNew.of_stations
    rw [Step.after_control, sendFrame_control]
    rfl

theorem noneNew_handleScanResp :
    control.NoneNew (control.handleScanResp srcIp body).control := by
  rcases control.handleScanResp_control srcIp body with
    ⟨results, count, equality⟩
  rw [equality]
  exact .of_stations rfl

theorem noneNew_handleSyncNetwork (seq : UInt16) :
    control.NoneNew (control.handleSyncNetwork env body seq).control := by
  apply NoneNew.of_stations
  unfold handleSyncNetwork
  split
  · rfl
  · split
    · rfl
    · split
      · rfl
      · dsimp only
        split
        · exact noteSyncSeq_stations ..
        · exact
            (applySync_stations ..).trans (noteSyncSeq_stations ..)

theorem noneNew_handleRelayHeartbeat :
    control.NoneNew
      (control.handleRelayHeartbeat env srcIp body).control := by
  unfold handleRelayHeartbeat
  split
  · exact .of_stations rfl
  · split
    · exact .of_stations rfl
    · dsimp only
      split
      · exact .of_stations rfl
      · split
        · exact .of_stations rfl
        · rename_i heard found
          intro slot active
          by_cases same : slot = heard
          · subst same
            have used := (findStationByIp_some found).2.1
            refine ⟨used, ?_⟩
            show (Function.update control.stations slot _ slot).srcIp = _
            rw [Function.update_self]
          · have kept :
                (control.withStation heard
                  { control.stations heard with
                    lastSeen := env.now }).stations slot =
                  control.stations slot :=
              Function.update_of_ne same ..
            dsimp only at active ⊢
            rw [kept] at active ⊢
            exact ⟨active, rfl⟩

theorem noneNew_handleRelayBye :
    control.NoneNew (control.handleRelayBye env srcIp body).control := by
  unfold handleRelayBye
  split
  · exact .of_stations rfl
  · dsimp only
    split
    · split
      · apply NoneNew.of_stations
        unfold loseHost setState
        split <;> rfl
      · exact .of_stations rfl
    · split
      · split
        · exact .of_stations rfl
        · split
          · exact .of_stations rfl
          · rename_i slot found
            intro other active
            rw [Step.after_control, updateNodes_stations] at active ⊢
            exact control.noneNew_clear slot other active
      · exact .of_stations rfl

/-- A Connect frame takes its sender in, or nobody. -/
theorem handleConnect_stations :
    (∃ slot,
        control.state = .accessPointCreated ∧
          body.length = NodeInfo.codec.size ∧
          (control.wasRecentScanner env.now srcIp = true ∨
            control.findStationByIp srcIp ≠ none) ∧
          control.connectSlot srcIp = some slot ∧
          control.TakenIn env srcIp slot
            (control.handleConnect env srcIp body).control) ∨
      (¬ (control.state = .accessPointCreated ∧
            body.length = NodeInfo.codec.size ∧
            (control.wasRecentScanner env.now srcIp = true ∨
              control.findStationByIp srcIp ≠ none)) ∨
          control.connectSlot srcIp = none) ∧
        (control.handleConnect env srcIp body).control = control := by
  unfold handleConnect
  split
  · rename_i elsewhere
    exact .inr ⟨.inl fun met => elsewhere met.1, rfl⟩
  · rename_i hosting
    rw [ne_eq, not_not] at hosting
    split
    · rename_i other
      exact .inr ⟨.inl fun met => other met.2.1, rfl⟩
    · rename_i length
      rw [ne_eq, not_not] at length
      split
      · rename_i stranger
        refine .inr ⟨.inl fun met => ?_, rfl⟩
        rcases met.2.2 with recent | known
        · rw [stranger.1] at recent
          exact absurd recent Bool.false_ne_true
        · exact known stranger.2
      · rename_i familiar
        have either :
            control.wasRecentScanner env.now srcIp = true ∨
              control.findStationByIp srcIp ≠ none := by
          rw [not_and_or, Bool.not_eq_false] at familiar
          exact familiar
        dsimp only
        split
        · rename_i full
          exact .inr ⟨.inr full, rfl⟩
        · rename_i slot found
          refine
            .inl
              ⟨slot, hosting, length, either, found,
                NodeInfo.codec.decode body, ?_⟩
          rw [Step.after_control]
          exact updateNodes_stations ..

end Frames

/-- A frame that admits its sender takes it in, any other takes in nobody. -/
theorem onControlFrame_members (control : LdnControl) (env : Env)
    (srcIp : UInt32) (payload : List UInt8) :
    (∃ slot,
        control.admits env.now srcIp payload = some slot ∧
          control.state = .accessPointCreated ∧
          control.connectSlot srcIp = some slot ∧
          control.TakenIn env srcIp slot
            (control.onControlFrame env srcIp payload).control) ∨
      control.admits env.now srcIp payload = none ∧
        control.NoneNew
          (control.onControlFrame env srcIp payload).control := by
  unfold admits
  rw [onControlFrame_eq, locked_control, Step.after_control]
  cases opened : openedFrame payload with
  | none => exact .inr ⟨rfl, .of_stations rfl⟩
  | some frame =>
      rcases frame with ⟨type, body, seq⟩
      cases type with
      | scan => exact .inr ⟨rfl, control.noneNew_handleScan env srcIp⟩
      | scanResp =>
          exact .inr ⟨rfl, control.noneNew_handleScanResp srcIp body⟩
      | syncNetwork =>
          exact .inr ⟨rfl, control.noneNew_handleSyncNetwork env body seq⟩
      | relayHeartbeat =>
          exact
            .inr ⟨rfl, control.noneNew_handleRelayHeartbeat env srcIp body⟩
      | relayBye =>
          exact .inr ⟨rfl, control.noneNew_handleRelayBye env srcIp body⟩
      | connect =>
          rcases control.handleConnect_stations env srcIp body with
            ⟨slot, hosting, length, familiar, found, taken⟩ |
              ⟨refused, same⟩
          · exact
              .inl
                ⟨slot, (if_pos ⟨hosting, length, familiar⟩).trans found,
                  hosting, found, taken⟩
          · refine .inr ⟨?_, ?_⟩
            · rcases refused with unmet | full
              · exact if_neg unmet
              · show (if _ then control.connectSlot srcIp else none) = none
                rw [full, ite_self]
            · apply NoneNew.of_stations
              exact congrArg LdnControl.stations same

/-! ## Commands and ticks -/

/-- A move that is not caused by a frame takes in nobody. -/
theorem noneNew_move {system : System} {env : Env} {event : Event}
    {target : LdnControl} (move : Move system env event target)
    (noFrame : ∀ srcIp payload, event ≠ .frame srcIp payload) :
    system.control.NoneNew target := by
  have reset (control : LdnControl) (after : LdnControl)
      (same : after.stations = control.resetStations.stations)
      (seventh : control.stations 7 = system.control.stations 7) :
      system.control.NoneNew after := by
    apply NoneNew.of_cleared
    intro slot
    rw [same]
    by_cases member : slot ∈ stationSlots
    · exact .inr (control.resetStations_inactive slot member).1
    · left
      have last : slot = 7 := by
        revert slot
        decide
      subst last
      exact seventh
  cases move with
  | still => exact .of_stations rfl
  | initializeLdn => exact reset _ _ rfl rfl
  | finalize => exact reset _ _ rfl rfl
  | openAccessPoint => exact reset _ _ rfl rfl
  | openStation => exact reset _ _ rfl rfl
  | closeAccessPoint => exact reset _ _ rfl rfl
  | closeStation => exact reset _ _ rfl rfl
  | createNetwork => exact reset _ _ rfl rfl
  | destroyNetwork => exact reset _ _ rfl rfl
  | setAdvertiseData => exact .of_stations rfl
  | disconnect => exact reset _ _ rfl rfl
  | connect => exact .of_stations rfl
  | connectTimeout => exact .of_stations rfl
  | getNetworkInfoLatestUpdate => exact .of_stations rfl
  | takeIn srcIp payload => exact absurd rfl (noFrame srcIp payload)
  | stationBye srcIp payload => exact absurd rfl (noFrame srcIp payload)
  | reap =>
      apply NoneNew.of_cleared
      intro slot
      show (if _ then _ else _ : Station) = _ ∨
        (if _ then _ else _ : Station).active = false
      split
      · exact .inr rfl
      · exact .inl rfl
  | noteSync srcIp payload => exact absurd rfl (noFrame srcIp payload)
  | applySync srcIp payload => exact absurd rfl (noFrame srcIp payload)
  | hostBye srcIp payload => exact absurd rfl (noFrame srcIp payload)
  | hostSilent => exact .of_stations rfl

theorem NoneNew.of_core {control after other : LdnControl}
    (none : control.NoneNew after) (same : other.core = after.core) :
    control.NoneNew other := by
  have stations := congrArg LdnControl.stations same
  intro slot active
  have inUse := congrArg Station.active (congrFun stations slot)
  have address := congrArg Station.srcIp (congrFun stations slot)
  have kept := none slot (inUse.symm.trans active)
  exact ⟨kept.1, address.trans kept.2⟩

end LdnControl

namespace System

open LdnControl

/-- The slot that a step takes a console into, and its address. -/
def admission (system : System) (input : Env × Event) :
    Option (UInt32 × Fin 8) :=
  match input.2 with
  | .frame srcIp payload =>
      (system.control.admits input.1.now srcIp payload).map (srcIp, ·)
  | _ => none

/-- A step takes in the console it admits, and nobody else. -/
theorem next_members (system : System) (input : Env × Event) :
    (∃ srcIp slot,
        system.admission input = some (srcIp, slot) ∧
          system.control.state = .accessPointCreated ∧
          system.control.connectSlot srcIp = some slot ∧
          system.control.TakenIn input.1 srcIp slot
            (machine.next system input).control) ∨
      system.admission input = none ∧
        system.control.NoneNew (machine.next system input).control := by
  rcases input with ⟨env, event⟩
  have other (noFrame : ∀ srcIp payload, event ≠ .frame srcIp payload) :
      system.control.NoneNew
        (machine.next system (env, event)).control := by
    rcases system.next_move (env, event) with ⟨target, move, same⟩
    exact (noneNew_move move noFrame).of_core same
  cases event with
  | frame srcIp payload =>
      rcases system.control.onControlFrame_members env srcIp payload with
        ⟨slot, admitted, hosting, found, taken⟩ | ⟨refused, none⟩
      · refine .inl ⟨srcIp, slot, ?_, hosting, found, taken⟩
        exact congrArg (Option.map (srcIp, ·)) admitted
      · exact .inr ⟨congrArg (Option.map (srcIp, ·)) refused, none⟩
  | command command => exact .inr ⟨rfl, other nofun⟩
  | ipc => exact .inr ⟨rfl, other nofun⟩
  | tick => exact .inr ⟨rfl, other nofun⟩
  | knownPeer ip => exact .inr ⟨rfl, other nofun⟩
  | enterLocalNetworkModePublic => exact .inr ⟨rfl, other nofun⟩
  | exitLocalNetworkModePublic => exact .inr ⟨rfl, other nofun⟩

end System

/-! ## Addresses -/

namespace LdnControl

/-- The connected members of a hosted room have different addresses. -/
def DistinctMembers (control : LdnControl) : Prop :=
  control.state = .accessPointCreated →
    ∀ first second : Fin 8,
      (control.networkInfo.ldn.nodes first).isConnected = 1 →
        (control.networkInfo.ldn.nodes second).isConnected = 1 →
          (control.networkInfo.ldn.nodes first).ipv4Address =
              (control.networkInfo.ldn.nodes second).ipv4Address →
            first = second

/-- No station has the address of this console. -/
def OthersOnly (control : LdnControl) : Prop :=
  ∀ slot ∈ control.activeSlots,
    (control.stations slot).srcIp ≠ control.ipv4Address

/-- A station in use is listed, behind the host. -/
theorem AdvertisesStations.listed {control : LdnControl}
    (advertises : control.AdvertisesStations) {slot : Fin 8}
    (active : slot ∈ control.activeSlots) :
    ∃ place : Fin 8, place.val ≠ 0 ∧
      control.networkInfo.ldn.nodes place =
        (control.stations slot).node := by
  rcases List.mem_iff_getElem.mp active with ⟨index, used, same⟩
  have count := control.activeSlots_length_le
  have entry :
      (List.ofFn control.networkInfo.ldn.nodes)[index + 1]? =
        some (control.stations slot).node := by
    rw [advertises.nodes, List.cons_append, List.getElem?_cons_succ,
      List.getElem?_append_left (by simpa using used),
      List.getElem?_map, List.getElem?_eq_getElem used, same,
      Option.map_some]
  have inside : index + 1 < 8 := by omega
  rw [List.getElem?_ofFn, dif_pos inside, Option.some.injEq] at entry
  exact ⟨⟨index + 1, inside⟩, Nat.succ_ne_zero index, entry⟩

theorem AdvertisesStations.host {control : LdnControl}
    (advertises : control.AdvertisesStations) :
    control.networkInfo.ldn.nodes ⟨0, Nat.zero_lt_succ 7⟩ =
      control.hostNode := by
  have entry :
      (List.ofFn control.networkInfo.ldn.nodes)[0]? =
        some control.hostNode := by
    rw [advertises.nodes, List.cons_append, List.getElem?_cons_zero]
  rw [List.getElem?_ofFn, dif_pos (Nat.zero_lt_succ 7),
    Option.some.injEq] at entry
  exact entry

/-- The node of a station that is in use has its address. -/
theorem StationsSound.address {control : LdnControl} {slot : Fin 8}
    (sound : control.StationsSound) (active : slot ∈ control.activeSlots) :
    (control.stations slot).node.ipv4Address =
      (control.stations slot).srcIp := by
  rcases mem_activeSlots.mp active with ⟨member, used⟩
  exact (sound.node slot member used).1

/-- Stations with one address are one entry of the list. -/
theorem StationsSound.index_eq {control : LdnControl}
    {slot slot' : Fin 8} {index index' : Nat}
    (sound : control.StationsSound)
    (used : control.activeSlots[index]? = some slot)
    (used' : control.activeSlots[index']? = some slot')
    (same :
      (control.stations slot).node.ipv4Address =
        (control.stations slot').node.ipv4Address) :
    index = index' := by
  have active := List.mem_of_getElem? used
  have active' := List.mem_of_getElem? used'
  rw [sound.address active, sound.address active'] at same
  rcases mem_activeSlots.mp active with ⟨member, inUse⟩
  rcases mem_activeSlots.mp active' with ⟨member', inUse'⟩
  have slots :=
    sound.distinct slot member slot' member' inUse inUse' same
  subst slots
  have nodup : control.activeSlots.Nodup :=
    List.Nodup.filter _ (by decide)
  rcases List.getElem?_eq_some_iff.mp used with ⟨inside, -⟩
  exact (List.getElem?_inj inside nodup).mp (used.trans used'.symm)

/-- With different members, no station is the host again. -/
theorem RoomInvariant.othersOnly {control : LdnControl}
    (holds : control.RoomInvariant) (distinct : control.DistinctMembers) :
    control.OthersOnly := by
  intro slot active same
  have hosting : control.state = .accessPointCreated := by
    by_contra elsewhere
    rw [holds.empty elsewhere] at active
    exact absurd active List.not_mem_nil
  have advertises := holds.advertises hosting
  rcases mem_activeSlots.mp active with ⟨member, used⟩
  have node := holds.sound.node slot member used
  rcases advertises.listed active with ⟨place, behind, listed⟩
  have equal :=
    distinct hosting ⟨0, Nat.zero_lt_succ 7⟩ place
      (by rw [advertises.host]; rfl)
      (by rw [listed]; exact node.2.2.2)
      (by rw [advertises.host, listed, node.1, same]; rfl)
  exact behind (congrArg Fin.val equal).symm

/-- A room has different members when no station is the host again. -/
theorem RoomInvariant.distinctMembers_iff {control : LdnControl}
    (holds : control.RoomInvariant) :
    control.DistinctMembers ↔ control.OthersOnly := by
  constructor
  · exact holds.othersOnly
  · intro others hosting first second firstIn secondIn same
    have advertises := holds.advertises hosting
    have station {slot : Fin 8} {index : Nat}
        (used : control.activeSlots[index]? = some slot) :
        (control.stations slot).node.ipv4Address ≠
          control.hostNode.ipv4Address := by
      have active := List.mem_of_getElem? used
      rw [holds.sound.address active]
      exact others slot active
    rcases advertises.entry first with
      ⟨zero, host⟩ | ⟨index, slot, place, used, listed⟩ | empty
    · rcases advertises.entry second with
        ⟨secondZero, -⟩ | ⟨index, slot, -, used, listed⟩ | empty
      · exact Fin.ext (zero.trans secondZero.symm)
      · rw [host, listed] at same
        exact absurd same.symm (station used)
      · rw [empty] at secondIn
        exact absurd secondIn nofun
    · rcases advertises.entry second with
        ⟨-, host⟩ | ⟨index', slot', place', used', listed'⟩ | empty
      · rw [host, listed] at same
        exact absurd same (station used)
      · rw [listed, listed'] at same
        have index := holds.sound.index_eq used used' same
        exact Fin.ext (by rw [place, place', index])
      · rw [empty] at secondIn
        exact absurd secondIn nofun
    · rw [empty] at firstIn
      exact absurd firstIn nofun

/-- Only `Initialize` changes the address, and it ends a room. -/
theorem ipv4Address_move {system : System} {env : Env} {event : Event}
    {target : LdnControl} (move : Move system env event target)
    (hosting : target.state = .accessPointCreated) :
    target.ipv4Address = system.control.ipv4Address := by
  cases move with
  | initializeLdn => exact absurd hosting nofun
  | noteSync srcIp payload info seq carried station =>
      rw [noteSyncSeq_state] at hosting
      rw [hosting] at station
      rcases station with station | station <;> exact absurd station nofun
  | applySync srcIp payload info seq carried accepted =>
      have elsewhere := acceptsSync_station accepted
      rcases applySync_state (system.control.noteSyncSeq seq) env
        info with same | connected
      · rw [same, noteSyncSeq_state] at hosting
        rw [hosting] at elsewhere
        rcases elsewhere with station | station <;>
          exact absurd station nofun
      · rw [connected] at hosting
        exact absurd hosting nofun
  | _ => rfl

/-- Whoever was in use was another console. -/
theorem OthersOnly.of_noneNew {control after : LdnControl}
    (others : control.OthersOnly) (none : control.NoneNew after)
    (address : after.ipv4Address = control.ipv4Address) :
    after.OthersOnly := by
  intro slot active
  rcases mem_activeSlots.mp active with ⟨member, used⟩
  have kept := none slot used
  rw [kept.2, address]
  exact others slot (mem_activeSlots.mpr ⟨member, kept.1⟩)

/-- The console taken in is a station, the others stay. -/
theorem OthersOnly.takenIn_iff {control after : LdnControl} {env : Env}
    {srcIp : UInt32} {slot : Fin 8} (others : control.OthersOnly)
    (member : slot ∈ stationSlots)
    (taken : control.TakenIn env srcIp slot after)
    (address : after.ipv4Address = control.ipv4Address) :
    after.OthersOnly ↔ srcIp ≠ control.ipv4Address := by
  have active := taken.mem_activeSlots member
  rcases taken with ⟨node, stations⟩
  have own :
      after.stations slot = connectedStation env srcIp node slot := by
    rw [stations, Function.update_self]
  constructor
  · intro after
    have different := after slot active
    rw [own, address] at different
    exact different
  · intro different other used
    by_cases same : other = slot
    · subst same
      rw [own, address]
      exact different
    · have kept : after.stations other = control.stations other := by
        rw [stations, Function.update_of_ne same]
      rcases mem_activeSlots.mp used with ⟨listed, inUse⟩
      rw [kept] at inUse ⊢
      rw [address]
      exact others other (mem_activeSlots.mpr ⟨listed, inUse⟩)

end LdnControl

namespace System

open LdnControl

/-- A console that is taken in has another address than the host. -/
def AdmitsOther (system : System) (input : Env × Event) : Prop :=
  ∀ srcIp slot, system.admission input = some (srcIp, slot) →
    srcIp ≠ system.control.ipv4Address

/-- A host keeps its address. -/
theorem next_ipv4Address (system : System) (input : Env × Event)
    (hosting :
      (machine.next system input).control.state = .accessPointCreated) :
    (machine.next system input).control.ipv4Address =
      system.control.ipv4Address := by
  rcases system.next_move input with ⟨target, move, same⟩
  have address := congrArg LdnControl.ipv4Address same
  have stays : target.ipv4Address = system.control.ipv4Address := by
    apply ipv4Address_move move
    rw [← state_eq_of_core same]
    exact hosting
  exact address.trans stays

/-- A step takes in another console exactly when it admits one. -/
theorem othersOnly_next_iff {system : System}
    (holds : system.control.RoomInvariant)
    (others : system.control.OthersOnly) (input : Env × Event) :
    (machine.next system input).control.OthersOnly ↔
      system.AdmitsOther input := by
  have after := roomInvariant_next input holds
  have hosting {slot : Fin 8}
      (active : slot ∈ (machine.next system input).control.activeSlots) :
      (machine.next system input).control.state =
        .accessPointCreated := by
    by_contra elsewhere
    rw [after.empty elsewhere] at active
    exact absurd active List.not_mem_nil
  rcases system.next_members input with
    ⟨srcIp, slot, admitted, -, found, taken⟩ | ⟨refused, none⟩
  · have member := (connectSlot_some found).1
    have active := taken.mem_activeSlots member
    have address := system.next_ipv4Address input (hosting active)
    rw [others.takenIn_iff member taken address]
    constructor
    · intro different srcIp' slot' admitted'
      rw [admitted, Option.some.injEq, Prod.mk.injEq] at admitted'
      rw [← admitted'.1]
      exact different
    · intro admits
      exact admits srcIp slot admitted
  · refine iff_of_true ?_ ?_
    · intro slot active
      have address := system.next_ipv4Address input (hosting active)
      exact others.of_noneNew none address slot active
    · intro srcIp slot admitted
      rw [refused] at admitted
      exact absurd admitted.symm (Option.some_ne_none _)

/--
The members of a hosted room have different addresses all along a run exactly
when the host never takes in a console under its own address.
-/
theorem eachState_distinctMembers_iff (mtu : UInt32)
    (inputs : List (Env × Event)) :
    machine.EachState (fun system => system.control.DistinctMembers)
        (initial mtu) inputs ↔
      machine.EachStep AdmitsOther (initial mtu) inputs := by
  let invariant : System → Prop := fun system =>
    system.control.RoomInvariant ∧ system.control.OthersOnly
  have initially : invariant (initial mtu) :=
    ⟨roomInvariant_initial mtu, fun _ active =>
      absurd active List.not_mem_nil⟩
  have gives (system : System) (holds : invariant system) :
      system.control.DistinctMembers :=
    holds.1.distinctMembers_iff.mpr holds.2
  have keeps (system : System) (input : Env × Event)
      (holds : invariant system) (_ : True)
      (admits : system.AdmitsOther input) :
      invariant (machine.next system input) :=
    ⟨roomInvariant_next input holds.1,
      (othersOnly_next_iff holds.1 holds.2 input).mpr admits⟩
  have needs (system : System) (input : Env × Event)
      (holds : invariant system) (_ : True)
      (distinct : (machine.next system input).control.DistinctMembers) :
      system.AdmitsOther input := by
    have others :=
      (roomInvariant_next input holds.1).distinctMembers_iff.mp distinct
    exact (othersOnly_next_iff holds.1 holds.2 input).mp others
  exact
    Machine.eachState_iff_eachStep_of_invariant gives keeps needs initially
      fun _ _ => trivial

end System

/-! ## While the room is open -/

/-- Frames, ticks and the query for the network leave a room open. -/
def Event.DuringRoom : Event → Prop
  | .frame _ _ => True
  | .tick => True
  | .command .getNetworkInfo => True
  | _ => False

namespace LdnControl

/-- The same room: its host's role and address and its announced size. -/
structure SameRoom (control after : LdnControl) : Prop where
  hosting : after.state = .accessPointCreated
  ipv4Address : after.ipv4Address = control.ipv4Address
  nodeCountMax :
    after.networkInfo.ldn.nodeCountMax =
      control.networkInfo.ldn.nodeCountMax

theorem SameRoom.of_core {control after other : LdnControl}
    (room : control.SameRoom after) (same : other.core = after.core) :
    control.SameRoom other := by
  have state := state_eq_of_core same
  have address := congrArg LdnControl.ipv4Address same
  have network := (view_eq_of_core same).1
  constructor
  · exact state.trans room.hosting
  · have equal : other.ipv4Address = after.ipv4Address := address
    exact equal.trans room.ipv4Address
  · rw [network]
    exact room.nodeCountMax

/-- The moves of an open room. -/
theorem sameRoom_move {system : System} {env : Env} {event : Event}
    {target : LdnControl} (move : Move system env event target)
    (during : event.DuringRoom)
    (hosting : system.control.state = .accessPointCreated) :
    system.control.SameRoom target := by
  have notStation :
      ¬ (system.control.state = .station ∨
        system.control.state = .stationConnected) := by
    rw [hosting]
    rintro (station | station) <;> exact absurd station nofun
  cases move with
  | still => exact ⟨hosting, rfl, rfl⟩
  | takeIn => exact ⟨hosting, rfl, rfl⟩
  | stationBye => exact ⟨hosting, rfl, rfl⟩
  | reap => exact ⟨hosting, rfl, rfl⟩
  | noteSync srcIp payload info seq carried station =>
      exact absurd station notStation
  | applySync srcIp payload info seq carried accepted =>
      exact absurd (acceptsSync_station accepted) notStation
  | hostBye srcIp payload bye carried connected =>
      exact absurd (.inr connected) notStation
  | hostSilent due connected => exact absurd (.inr connected) notStation
  | _ => exact during.elim

end LdnControl

namespace System

open LdnControl

theorem sameRoom_next {system : System} {input : Env × Event}
    (during : input.2.DuringRoom)
    (hosting : system.control.state = .accessPointCreated) :
    system.control.SameRoom (machine.next system input).control := by
  rcases system.next_move input with ⟨target, move, same⟩
  exact (sameRoom_move move during hosting).of_core same

theorem sameRoom_run {system : System} {inputs : List (Env × Event)}
    (during : ∀ input ∈ inputs, input.2.DuringRoom)
    (hosting : system.control.state = .accessPointCreated) :
    system.control.SameRoom (machine.run system inputs).control := by
  induction inputs generalizing system with
  | nil => exact ⟨hosting, rfl, rfl⟩
  | cons input rest induction =>
      have first := sameRoom_next (during input List.mem_cons_self) hosting
      have later :=
        induction
          (fun other member => during other (List.mem_cons_of_mem _ member))
          first.hosting
      exact
        ⟨later.hosting, later.ipv4Address.trans first.ipv4Address,
          later.nodeCountMax.trans first.nodeCountMax⟩

/-! ### A console that hears itself -/

/-- A console looks for rooms and joins. -/
def joining (srcIp : UInt32) : List (Env × Event) :=
  [(Env.at 0, .frame srcIp (frameBytes .scan 1 [])),
    (Env.at 0,
      .frame srcIp (frameBytes .connect 2 (NodeInfo.codec.encode .zero)))]

theorem joining_duringRoom (srcIp : UInt32) :
    ∀ input ∈ joining srcIp, input.2.DuringRoom := by
  intro input member
  rcases List.mem_cons.mp member with rfl | member
  · trivial
  · rw [List.mem_singleton.mp member]
    trivial

end System

namespace LdnControl

/-- Whoever was recorded has scanned recently. -/
theorem wasRecentScanner_recordScanner (control : LdnControl) (now : Int)
    (srcIp : UInt32) :
    (control.recordScanner now srcIp).wasRecentScanner now srcIp = true := by
  unfold wasRecentScanner recordScanner
  apply List.any_eq_true.mpr
  refine
    ⟨control.scannerSlot now srcIp (List.finRange 16) none,
      List.mem_finRange _, ?_⟩
  simp only [Bool.and_eq_true, decide_eq_true_eq, Function.update_self,
    sub_self, beq_self_eq_true, true_and]
  decide

end LdnControl

namespace System

open LdnControl

/-- A host that is asked only notes who asked. -/
theorem next_scan_control {system : System} (srcIp : UInt32)
    (hosting : system.control.state = .accessPointCreated) :
    (machine.next system
        (Env.at 0, .frame srcIp (frameBytes .scan 1 []))).control =
      { system.control.recordScanner 0 srcIp with
        txSeq := nextSeq system.control.txSeq } := by
  rw [next_frame]
  dsimp only
  rw [control_of_scan (Env.at 0) srcIp 1 hosting,
    LdnControl.sendFrame_control]
  rfl

/-- A host takes in whoever scans first, as long as it finds a slot. -/
theorem takenIn_joining {system : System} {srcIp : UInt32} {slot : Fin 8}
    (hosting : system.control.state = .accessPointCreated)
    (found : system.control.connectSlot srcIp = some slot) :
    system.control.TakenIn (Env.at 0) srcIp slot
      (machine.run system (joining srcIp)).control := by
  have scanned := next_scan_control srcIp hosting
  rw [joining, Machine.run_cons, Machine.run_cons, Machine.run_nil]
  generalize machine.next system
    (Env.at 0, .frame srcIp (frameBytes .scan 1 [])) = asked at scanned ⊢
  have recent : asked.control.wasRecentScanner (Env.at 0).now srcIp =
      true := by
    rw [scanned]
    exact system.control.wasRecentScanner_recordScanner 0 srcIp
  have room : asked.control.connectSlot srcIp = some slot := by
    rw [scanned]
    exact found
  have host : asked.control.state = .accessPointCreated := by
    rw [scanned]
    exact hosting
  rcases onControlFrame_connect (Env.at 0) srcIp 2 .zero host recent
    room with ⟨accesses, connected⟩
  refine ⟨.zero, ?_⟩
  rw [next_frame]
  dsimp only
  rw [connected, locked_control, Step.after_control, updateNodes_stations,
    scanned]
  rfl

/-- The address of the example host. -/
theorem hostingSystem_ipv4Address :
    hostingSystem.control.ipv4Address = 0x0A0D2502 := by
  decide

/-- A host that hears itself scan and connect is a member twice. -/
theorem echoed_members_collide :
    ¬ machine.EachState (fun system => system.control.DistinctMembers)
      (initial 1400)
      ([(Env.at 0, .command .initializeLdn),
        (Env.at 0, .command .openAccessPoint),
        (Env.at 0, .command (.createNetwork sampleConfig))] ++
          joining 0x0A0D2502) := by
  intro always
  have last := always.last
  rw [Machine.run_append] at last
  change
    (machine.run hostingSystem (joining 0x0A0D2502)).control.DistinctMembers
      at last
  have found : hostingSystem.control.connectSlot 0x0A0D2502 = some 0 := rfl
  have taken := takenIn_joining hostingSystem_state found
  have holds :
      (machine.run hostingSystem
        (joining 0x0A0D2502)).control.RoomInvariant :=
    roomInvariant_of_reachable
      ⟨_, Machine.run_append machine (initial 1400) _ _⟩
  have room :=
    sameRoom_run (joining_duringRoom 0x0A0D2502) hostingSystem_state
  have alone : hostingSystem.control.OthersOnly :=
    fun _ active => absurd active List.not_mem_nil
  have different :=
    (alone.takenIn_iff (connectSlot_some found).1 taken
      room.ipv4Address).mp (holds.distinctMembers_iff.mp last)
  exact different hostingSystem_ipv4Address.symm

end System

end SlpClient.Ldn
