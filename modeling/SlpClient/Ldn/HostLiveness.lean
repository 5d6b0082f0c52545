import SlpClient.Lib.Liveness
import SlpClient.Ldn.Membership

/-!
# Stations that must be heard

A relay has no connection that could break, so a host keeps for each station
the time at which it was heard last: in a Connect frame that it admitted, or
in a heartbeat for its room.  Ticks remove the stations that were silent for
too long.  Over any run of commands, frames and ticks the stations of a host
are a roster of addresses that is fed with just these happenings.
-/

namespace SlpClient.Ldn

open SlpClient.Lib
open SlpClient.Lib.Liveness (Happening Roster)

namespace LdnControl

/-- The stations by address, and when each was heard last. -/
def roster (control : LdnControl) : Roster UInt32 := fun srcIp =>
  (control.findStationByIp srcIp).map fun slot =>
    (control.stations slot).lastSeen

/-- The payload of a well-formed heartbeat. -/
def heartbeatOf (payload : List UInt8) : Option RelayHeartbeatPayload :=
  match openedFrame payload with
  | some (.relayHeartbeat, body, _) =>
      if body.length = RelayHeartbeatPayload.codec.size then
        some (RelayHeartbeatPayload.codec.decode body)
      else none
  | _ => none

/-- The payload names the room of this host. -/
def namesRoom (control : LdnControl)
    (payload : Option RelayHeartbeatPayload) : Bool :=
  payload.any fun body =>
    decide (body.bssid = control.networkInfo.common.bssid)

/-- What a frame tells a host about a station. -/
def frameSignal (control : LdnControl) (now : Int) (srcIp : UInt32)
    (payload : List UInt8) : Option (Happening UInt32) :=
  if control.state ≠ .accessPointCreated then none
  else if (control.admits now srcIp payload).isSome then
    some (.join srcIp now)
  else if control.namesRoom (heartbeatOf payload) then
    some (.beat srcIp now)
  else if control.namesRoom (byeOf payload) then some (.leave srcIp)
  else none

end LdnControl

/-- The command empties the station table. -/
def Command.resets (state : CommState) : Command → Bool
  | .openAccessPoint | .openStation | .closeAccessPoint | .closeStation =>
      decide (state ≠ .none)
  | .createNetwork _ => decide (state = .accessPoint)
  | .destroyNetwork | .disconnect | .initializeLdn | .finalize => true
  | _ => false

/-- What an event means for the stations of a host. -/
def System.signal (system : System) (input : Env × Event) :
    Option (Happening UInt32) :=
  match input.2 with
  | .frame srcIp payload =>
      system.control.frameSignal input.1.now srcIp payload
  | .tick =>
      if input.1.now - system.control.lastBeacon <
          relayBeaconIntervalTicks then none
      else some (.sweep input.1.now)
  | .command command =>
      if system.phase = .idle ∧ command.resets system.control.state then
        some .reset
      else none
  | _ => none

/-! ## The roster of a table -/

namespace LdnControl

theorem StationsSound.roster_eq_some {control : LdnControl}
    (sound : control.StationsSound) {srcIp : UInt32} {seen : Int} :
    control.roster srcIp = some seen ↔
      ∃ slot ∈ stationSlots, (control.stations slot).active = true ∧
        (control.stations slot).srcIp = srcIp ∧
          (control.stations slot).lastSeen = seen := by
  unfold roster
  constructor
  · intro listed
    rcases Option.map_eq_some_iff.mp listed with ⟨slot, found, heard⟩
    rcases findStationByIp_some found with ⟨member, active, address⟩
    exact ⟨slot, member, active, address, heard⟩
  · rintro ⟨slot, member, active, address, heard⟩
    cases found : control.findStationByIp srcIp with
    | none =>
        have absent := List.find?_eq_none.mp found slot member
        rw [active, address] at absent
        simp at absent
    | some other =>
        rcases findStationByIp_some found with
          ⟨otherMember, otherActive, otherAddress⟩
        have same :=
          sound.distinct other otherMember slot member otherActive active
            (otherAddress.trans address.symm)
        subst same
        exact congrArg some heard

theorem roster_eq_none {control : LdnControl} {srcIp : UInt32} :
    control.roster srcIp = none ↔ control.findStationByIp srcIp = none :=
  Option.map_eq_none_iff

/-- A table without stations is an empty roster. -/
theorem roster_of_activeSlots {control : LdnControl}
    (idle : control.activeSlots = []) : control.roster = Roster.empty := by
  funext srcIp
  rw [Roster.empty, roster_eq_none]
  apply List.find?_eq_none.mpr
  intro slot member found
  rw [Bool.and_eq_true] at found
  have active := mem_activeSlots.mpr ⟨member, found.1⟩
  rw [idle] at active
  contradiction

theorem roster_of_stations {control other : LdnControl}
    (same : other.stations = control.stations) :
    other.roster = control.roster := by
  unfold roster findStationByIp
  rw [same]

section Updates

variable {control after : LdnControl} {srcIp : UInt32} {slot : Fin 8}
  {now : Int}

/-- The slot of an admitted console is not the one of somebody else. -/
theorem connectSlot_own (found : control.connectSlot srcIp = some slot)
    (active : (control.stations slot).active = true) :
    (control.stations slot).srcIp = srcIp := by
  unfold connectSlot at found
  split at found
  next own known =>
    rw [Option.some.injEq] at found
    subst found
    exact (findStationByIp_some known).2.2
  next =>
    split at found
    · contradiction
    · have free := List.find?_some found
      rw [active] at free
      contradiction

/-- Writing the slot of one address changes the roster at that address. -/
theorem roster_update (sound : control.StationsSound)
    (afterSound : after.StationsSound) (member : slot ∈ stationSlots)
    {station : Station}
    (stations :
      after.stations = Function.update control.stations slot station)
    (active : station.active = true) (address : station.srcIp = srcIp)
    (own :
      (control.stations slot).active = true →
        (control.stations slot).srcIp = srcIp) :
    after.roster =
      Function.update control.roster srcIp (some station.lastSeen) := by
  funext other
  by_cases same : other = srcIp
  · subst same
    rw [Function.update_self, afterSound.roster_eq_some]
    refine ⟨slot, member, ?_⟩
    rw [stations, Function.update_self]
    exact ⟨active, address, rfl⟩
  · rw [Function.update_of_ne same]
    apply Option.ext
    intro seen
    rw [afterSound.roster_eq_some, sound.roster_eq_some, stations]
    constructor
    · rintro ⟨place, inside, used, named, heard⟩
      have elsewhere : place ≠ slot := by
        rintro rfl
        rw [Function.update_self, address] at named
        exact same named.symm
      rw [Function.update_of_ne elsewhere] at used named heard
      exact ⟨place, inside, used, named, heard⟩
    · rintro ⟨place, inside, used, named, heard⟩
      have elsewhere : place ≠ slot := by
        rintro rfl
        exact same (named.symm.trans (own used))
      refine ⟨place, inside, ?_⟩
      rw [Function.update_of_ne elsewhere]
      exact ⟨used, named, heard⟩

/-- Emptying the slot of one address takes it off the roster. -/
theorem roster_clear (sound : control.StationsSound)
    (afterSound : after.StationsSound)
    (found : control.findStationByIp srcIp = some slot)
    (stations :
      after.stations =
        Function.update control.stations slot
          (control.stations slot).clear) :
    after.roster = Function.update control.roster srcIp none := by
  rcases findStationByIp_some found with ⟨member, active, address⟩
  funext other
  apply Option.ext
  intro seen
  rw [afterSound.roster_eq_some, stations]
  by_cases same : other = srcIp
  · subst same
    rw [Function.update_self]
    refine iff_of_false ?_ (fun none => nomatch none)
    rintro ⟨place, inside, used, named, -⟩
    by_cases here : place = slot
    · subst here
      rw [Function.update_self] at used
      contradiction
    · rw [Function.update_of_ne here] at used named
      exact here
        (sound.distinct place inside slot member used active
          (named.trans address.symm))
  · rw [Function.update_of_ne same, sound.roster_eq_some]
    constructor
    · rintro ⟨place, inside, used, named, heard⟩
      by_cases here : place = slot
      · subst here
        rw [Function.update_self] at used
        contradiction
      · rw [Function.update_of_ne here] at used named heard
        exact ⟨place, inside, used, named, heard⟩
    · rintro ⟨place, inside, used, named, heard⟩
      have elsewhere : place ≠ slot := by
        rintro rfl
        exact same (named.symm.trans address)
      refine ⟨place, inside, ?_⟩
      rw [Function.update_of_ne elsewhere]
      exact ⟨used, named, heard⟩

/-- Reaping removes who was silent for too long. -/
theorem roster_reap (sound : control.StationsSound)
    (afterSound : after.StationsSound)
    (stations : after.stations = (control.reapStations now).stations) :
    after.roster =
      control.roster.after relayPeerTimeoutTicks (.sweep now) := by
  funext other
  apply Option.ext
  intro seen
  rw [afterSound.roster_eq_some, Roster.after, Option.filter_eq_some_iff,
    sound.roster_eq_some, stations, decide_eq_true_iff]
  have reaped : ∀ place ∈ stationSlots,
      (control.reapStations now).stations place =
        if control.silentStation now place = true then
          (control.stations place).clear
        else control.stations place := by
    intro place inside
    unfold reapStations
    dsimp only
    by_cases silent : control.silentStation now place = true
    · rw [if_pos ⟨inside, silent⟩, if_pos silent]
    · rw [if_neg (fun both => silent both.2), if_neg silent]
  have silent_iff : ∀ place ∈ stationSlots,
      (control.stations place).active = true →
        (control.silentStation now place = true ↔
          relayPeerTimeoutTicks ≤
            now - (control.stations place).lastSeen) := by
    intro place inside used
    unfold silentStation Station.live
    rw [← sound.connected place inside, used, Bool.and_self,
      Bool.true_and, decide_eq_true_iff]
  constructor
  · rintro ⟨place, inside, used, named, heard⟩
    rw [reaped place inside] at used named heard
    split at used
    · contradiction
    next awake =>
      rw [if_neg awake] at named heard
      refine ⟨⟨place, inside, used, named, heard⟩, ?_⟩
      rw [silent_iff place inside used, heard] at awake
      exact not_le.mp awake
  · rintro ⟨⟨place, inside, used, named, heard⟩, recent⟩
    refine ⟨place, inside, ?_⟩
    have awake : ¬ control.silentStation now place = true := by
      rw [silent_iff place inside used, heard]
      exact not_le.mpr recent
    rw [reaped place inside, if_neg awake]
    exact ⟨used, named, heard⟩

end Updates

/-! ## Steps -/

section Frames

variable {control : LdnControl} {env : Env} {srcIp : UInt32}
  {payload body : List UInt8} {seq : UInt16}

theorem frameSignal_of_connect
    (hosting : control.state = .accessPointCreated)
    (opened : openedFrame payload = some (.connect, body, seq)) :
    control.frameSignal env.now srcIp payload =
      if (control.admits env.now srcIp payload).isSome then
        some (.join srcIp env.now)
      else none := by
  have noBeat : heartbeatOf payload = none := by
    rw [heartbeatOf, opened]
  have noBye : byeOf payload = none := by rw [byeOf, opened]
  rw [frameSignal, if_neg (not_not.mpr hosting), noBeat, noBye]
  rfl

theorem admits_of_other
    (other : ∀ body seq, openedFrame payload ≠ some (.connect, body, seq)) :
    control.admits env.now srcIp payload = none := by
  unfold admits
  split
  next body seq opened => exact absurd opened (other body seq)
  · rfl

theorem namesRoom_ite (control : LdnControl) (body : List UInt8) :
    control.namesRoom
        (if body.length = RelayHeartbeatPayload.codec.size then
          some (RelayHeartbeatPayload.codec.decode body)
        else none) =
      decide
        (body.length = RelayHeartbeatPayload.codec.size ∧
          (RelayHeartbeatPayload.codec.decode body).bssid =
            control.networkInfo.common.bssid) := by
  by_cases length : body.length = RelayHeartbeatPayload.codec.size
  · rw [if_pos length]
    simp [namesRoom, length]
  · rw [if_neg length]
    exact (decide_eq_false fun both => length both.1).symm

theorem frameSignal_of_heartbeat
    (hosting : control.state = .accessPointCreated)
    (opened : openedFrame payload = some (.relayHeartbeat, body, seq)) :
    control.frameSignal env.now srcIp payload =
      if body.length = RelayHeartbeatPayload.codec.size ∧
          (RelayHeartbeatPayload.codec.decode body).bssid =
            control.networkInfo.common.bssid then
        some (.beat srcIp env.now)
      else none := by
  have noAdmission : control.admits env.now srcIp payload = none :=
    admits_of_other fun _ _ => by rw [opened]; nofun
  have noBye : byeOf payload = none := by rw [byeOf, opened]
  have beat :
      heartbeatOf payload =
        if body.length = RelayHeartbeatPayload.codec.size then
          some (RelayHeartbeatPayload.codec.decode body)
        else none := by
    rw [heartbeatOf, opened]
  simp only [frameSignal, hosting, noAdmission, noBye, beat,
    namesRoom_ite, ne_eq, not_true_eq_false, if_false, Option.isSome_none,
    Bool.false_eq_true, decide_eq_true_eq]
  rfl

theorem frameSignal_of_bye
    (hosting : control.state = .accessPointCreated)
    (opened : openedFrame payload = some (.relayBye, body, seq)) :
    control.frameSignal env.now srcIp payload =
      if body.length = RelayHeartbeatPayload.codec.size ∧
          (RelayHeartbeatPayload.codec.decode body).bssid =
            control.networkInfo.common.bssid then
        some (.leave srcIp)
      else none := by
  have noAdmission : control.admits env.now srcIp payload = none :=
    admits_of_other fun _ _ => by rw [opened]; nofun
  have noBeat : heartbeatOf payload = none := by
    rw [heartbeatOf, opened]
  have bye :
      byeOf payload =
        if body.length = RelayHeartbeatPayload.codec.size then
          some (RelayHeartbeatPayload.codec.decode body)
        else none := by
    rw [byeOf, opened]
  have noName : control.namesRoom none = false := rfl
  simp only [frameSignal, hosting, noAdmission, noBeat, noName, bye,
    namesRoom_ite, ne_eq, not_true_eq_false, if_false, Option.isSome_none,
    Bool.false_eq_true, decide_eq_true_eq]

/-- A frame of another type tells a host nothing about a station. -/
theorem frameSignal_of_other
    (other :
      ∀ type body seq, openedFrame payload = some (type, body, seq) →
        type ≠ .connect ∧ type ≠ .relayHeartbeat ∧ type ≠ .relayBye) :
    control.frameSignal env.now srcIp payload = none := by
  have noAdmission : control.admits env.now srcIp payload = none :=
    admits_of_other fun body seq opened => (other _ body seq opened).1 rfl
  have noBeat : heartbeatOf payload = none := by
    unfold heartbeatOf
    split
    next body seq opened => exact absurd rfl (other _ body seq opened).2.1
    · rfl
  have noBye : byeOf payload = none := by
    unfold byeOf
    split
    next body seq opened => exact absurd rfl (other _ body seq opened).2.2
    · rfl
  have noName : control.namesRoom none = false := rfl
  simp only [frameSignal, noAdmission, noBeat, noBye, noName,
    Option.isSome_none, Bool.false_eq_true, if_false, ite_self]

/-- A heartbeat for the room renews its sender. -/
theorem roster_handleRelayHeartbeat
    (hosting : control.state = .accessPointCreated)
    (sound : control.StationsSound)
    (afterSound :
      (control.handleRelayHeartbeat env srcIp body).control.StationsSound)
    (opened : openedFrame payload = some (.relayHeartbeat, body, seq)) :
    (control.handleRelayHeartbeat env srcIp body).control.roster =
      control.roster.follow relayPeerTimeoutTicks
        (control.frameSignal env.now srcIp payload) := by
  rw [frameSignal_of_heartbeat hosting opened]
  unfold handleRelayHeartbeat at afterSound ⊢
  by_cases length : body.length = RelayHeartbeatPayload.codec.size
  · rw [if_neg (not_not.mpr length), if_neg (not_not.mpr hosting)]
      at afterSound ⊢
    dsimp only at afterSound ⊢
    by_cases named :
        (RelayHeartbeatPayload.codec.decode body).bssid =
          control.networkInfo.common.bssid
    · rw [if_neg (not_not.mpr named)] at afterSound ⊢
      rw [if_pos ⟨length, named⟩, Roster.follow_some, Roster.after]
      cases found : control.findStationByIp srcIp with
      | none =>
          have stranger : control.roster srcIp = none :=
            roster_eq_none.mpr found
          rw [if_pos stranger]
      | some slot =>
          rw [found] at afterSound
          rcases findStationByIp_some found with
            ⟨member, active, address⟩
          have listed : control.roster srcIp ≠ none := by
            rw [ne_eq, roster_eq_none, found]
            exact Option.some_ne_none slot
          rw [if_neg listed]
          exact roster_update sound afterSound member rfl active address
            fun _ => address
    · rw [if_pos named, if_neg fun both => named both.2]
      rfl
  · rw [if_pos length, if_neg fun both => length both.1]
    rfl

/-- A goodbye for the room takes its sender off the roster. -/
theorem roster_handleRelayBye
    (hosting : control.state = .accessPointCreated)
    (sound : control.StationsSound)
    (afterSound :
      (control.handleRelayBye env srcIp body).control.StationsSound)
    (opened : openedFrame payload = some (.relayBye, body, seq)) :
    (control.handleRelayBye env srcIp body).control.roster =
      control.roster.follow relayPeerTimeoutTicks
        (control.frameSignal env.now srcIp payload) := by
  have elsewhere : control.state ≠ .stationConnected := by
    rw [hosting]
    nofun
  rw [frameSignal_of_bye hosting opened]
  unfold handleRelayBye at afterSound ⊢
  by_cases length : body.length = RelayHeartbeatPayload.codec.size
  · rw [if_neg (not_not.mpr length)] at afterSound ⊢
    dsimp only at afterSound ⊢
    rw [if_neg elsewhere, if_pos hosting] at afterSound ⊢
    by_cases named :
        (RelayHeartbeatPayload.codec.decode body).bssid =
          control.networkInfo.common.bssid
    · rw [if_neg (not_not.mpr named)] at afterSound ⊢
      rw [if_pos ⟨length, named⟩, Roster.follow_some, Roster.after]
      cases found : control.findStationByIp srcIp with
      | none =>
          have stranger : control.roster srcIp = none :=
            roster_eq_none.mpr found
          rw [← stranger, Function.update_eq_self]
      | some slot =>
          rw [found] at afterSound
          exact roster_clear sound afterSound found
            (updateNodes_stations ..)
    · rw [if_pos named, if_neg fun both => named both.2]
      rfl
  · rw [if_pos length, if_neg fun both => length both.1]
    rfl

/-- An admitted Connect frame puts its sender on the roster. -/
theorem roster_handleConnect
    (hosting : control.state = .accessPointCreated)
    (sound : control.StationsSound)
    (afterSound :
      (control.handleConnect env srcIp body).control.StationsSound)
    (opened : openedFrame payload = some (.connect, body, seq)) :
    (control.handleConnect env srcIp body).control.roster =
      control.roster.follow relayPeerTimeoutTicks
        (control.frameSignal env.now srcIp payload) := by
  rw [frameSignal_of_connect hosting opened]
  have admission :
      control.admits env.now srcIp payload =
        if control.state = .accessPointCreated ∧
            body.length = NodeInfo.codec.size ∧
            (control.wasRecentScanner env.now srcIp = true ∨
              control.findStationByIp srcIp ≠ none) then
          control.connectSlot srcIp
        else none := by
    unfold admits
    rw [opened]
  rcases control.handleConnect_stations env srcIp body with
    ⟨slot, -, length, familiar, found, node, stations⟩ |
      ⟨refused, same⟩
  · have admitted : control.admits env.now srcIp payload = some slot := by
      rw [admission, if_pos ⟨hosting, length, familiar⟩, found]
    rw [admitted]
    exact roster_update sound afterSound (connectSlot_some found).1
      stations rfl rfl (connectSlot_own found)
  · have none : control.admits env.now srcIp payload = none := by
      rw [admission]
      rcases refused with unmet | full
      · exact if_neg unmet
      · rw [full, ite_self]
    rw [same, none]
    rfl

end Frames

/-- Frames of a host, seen through its roster. -/
theorem roster_onControlFrame {control : LdnControl} {env : Env}
    {srcIp : UInt32} {payload : List UInt8}
    (hosting : control.state = .accessPointCreated)
    (sound : control.StationsSound)
    (afterSound :
      (control.onControlFrame env srcIp payload).control.StationsSound) :
    (control.onControlFrame env srcIp payload).control.roster =
      control.roster.follow relayPeerTimeoutTicks
        (control.frameSignal env.now srcIp payload) := by
  rw [onControlFrame_eq, locked_control, Step.after_control]
    at afterSound ⊢
  cases opened : openedFrame payload with
  | none =>
      rw [frameSignal_of_other fun _ _ _ some => by
        rw [opened] at some
        contradiction]
      rfl
  | some frame =>
      rcases frame with ⟨type, body, seq⟩
      rw [opened] at afterSound
      have other
          (apart :
            type ≠ .connect ∧ type ≠ .relayHeartbeat ∧ type ≠ .relayBye) :
          control.frameSignal env.now srcIp payload = none := by
        apply frameSignal_of_other
        intro found _ _ same
        rw [opened, Option.some.injEq, Prod.mk.injEq] at same
        rw [← same.1]
        exact apart
      cases type with
      | scan =>
          rw [other (by decide)]
          apply roster_of_stations
          show (control.handleScan env srcIp).control.stations = _
          unfold handleScan
          split
          · rfl
          · rw [Step.after_control, sendFrame_control]
            rfl
      | scanResp =>
          rw [other (by decide)]
          apply roster_of_stations
          show (control.handleScanResp srcIp body).control.stations = _
          rcases control.handleScanResp_control srcIp body with
            ⟨results, count, equality⟩
          rw [equality]
          rfl
      | syncNetwork =>
          rw [other (by decide)]
          have elsewhere : control.state ≠ .station ∧
              control.state ≠ .stationConnected := by
            rw [hosting]
            decide
          apply roster_of_stations
          show (control.handleSyncNetwork env body seq).control.stations = _
          unfold handleSyncNetwork
          rw [if_pos elsewhere]
          split <;> rfl
      | connect => exact roster_handleConnect hosting sound afterSound opened
      | relayHeartbeat =>
          exact roster_handleRelayHeartbeat hosting sound afterSound opened
      | relayBye =>
          exact roster_handleRelayBye hosting sound afterSound opened

theorem enterLocalNetworkMode_stations (control : LdnControl) (env : Env) :
    (control.enterLocalNetworkMode env).2.stations = control.stations := by
  rcases control.enterLocalNetworkMode_shape env with
    ⟨nifm, savedMtu, mode, shape⟩
  rw [shape]

theorem leaveLocalNetworkMode_stations (control : LdnControl) (env : Env) :
    (control.leaveLocalNetworkMode env).stations = control.stations := by
  rcases control.leaveLocalNetworkMode_shape env with ⟨nifm, mode, shape⟩
  rw [shape]

theorem setState_stations (control : LdnControl) (state : CommState) :
    (control.setState state).stations = control.stations := by
  unfold setState
  split <;> rfl

theorem resetStations_congr {control other : LdnControl}
    (same : other.stations = control.stations) :
    other.resetStations.stations = control.resetStations.stations := by
  unfold resetStations
  rw [same]

/-- A command empties the table or leaves it alone. -/
theorem commandStep_stations (control : LdnControl) (env : Env)
    (command : Command) :
    (System.commandStep control env command).1.control.stations =
      if command.resets control.state then control.resetStations.stations
      else control.stations := by
  have openRole (role : CommState) :
      (control.openRole env role).control.stations =
        if control.state ≠ .none then control.resetStations.stations
        else control.stations := by
    unfold LdnControl.openRole
    dsimp only
    by_cases closed : control.state = .none
    · rw [if_pos closed, if_neg (not_not.mpr closed)]
      rfl
    · rw [if_neg closed, if_pos closed, answer_control, setState_stations]
      apply resetStations_congr
      split
      · rfl
      · exact enterLocalNetworkMode_stations ..
  have closeRole :
      (control.closeRole env).control.stations =
        if control.state ≠ .none then control.resetStations.stations
        else control.stations := by
    unfold LdnControl.closeRole
    by_cases closed : control.state = .none
    · rw [if_pos closed, if_neg (not_not.mpr closed)]
      rfl
    · rw [if_neg closed, if_pos closed, answer_control, setState_stations]
      exact resetStations_congr (leaveLocalNetworkMode_stations ..)
  have query (reply : Reply) :
      (control.whenInNetwork reply).control.stations = control.stations :=
    congrArg LdnControl.stations (control.whenInNetwork_control reply)
  cases command with
  | getState => rfl
  | getNetworkInfo => exact query _
  | getIpv4Address => rfl
  | getDisconnectReason => rfl
  | getSecurityParameter => exact query _
  | getNetworkConfig => exact query _
  | attachStateChangeEvent => rfl
  | getNetworkInfoLatestUpdate capacity =>
      show (control.getNetworkInfoLatestUpdate capacity).control.stations =
        control.stations
      unfold getNetworkInfoLatestUpdate
      split
      · rfl
      · split <;> rfl
  | scan filter capacity =>
      unfold System.commandStep
      dsimp only
      split <;> rfl
  | openAccessPoint =>
      show (control.openRole env .accessPoint).control.stations = _
      rw [openRole]
      simp only [Command.resets, decide_eq_true_eq]
  | closeAccessPoint =>
      show (control.closeRole env).control.stations = _
      rw [closeRole]
      simp only [Command.resets, decide_eq_true_eq]
  | createNetwork data =>
      show (control.createNetwork env data).control.stations = _
      unfold createNetwork
      by_cases opened : control.state = .accessPoint
      · rw [if_neg (not_not.mpr opened), answer_control,
          updateNodes_stations, setState_stations]
        simp only [Command.resets, opened, decide_true, if_true]
        rfl
      · rw [if_pos opened]
        simp only [Command.resets, opened, decide_false,
          Bool.false_eq_true, if_false]
        rfl
  | destroyNetwork =>
      show (control.destroyNetwork env).control.stations =
        control.resetStations.stations
      unfold destroyNetwork
      rw [answer_control, Step.andThen_control, setState_stations]
      apply resetStations_congr
      split
      · rw [sendFrame_control]
      · rfl
  | setAdvertiseData data =>
      show (control.setAdvertiseData env data).control.stations =
        control.stations
      unfold setAdvertiseData
      split
      · rfl
      · rw [answer_control, Step.after_control, updateNodes_stations]
        rfl
  | openStation =>
      show (control.openRole env .station).control.stations = _
      rw [openRole]
      simp only [Command.resets, decide_eq_true_eq]
  | closeStation =>
      show (control.closeRole env).control.stations = _
      rw [closeRole]
      simp only [Command.resets, decide_eq_true_eq]
  | connect dat data =>
      unfold System.commandStep
      dsimp only
      split
      · rfl
      · split <;> rfl
  | disconnect =>
      show (control.disconnect env).control.stations =
        control.resetStations.stations
      unfold LdnControl.disconnect
      rw [answer_control, Step.andThen_control, setState_stations]
      apply resetStations_congr
      show LdnControl.stations (Step.control (if _ then _ else _)) = _
      split
      · rw [sendFrame_control]
      · rfl
  | initializeLdn =>
      show (control.initializeLdn env).control.stations =
        control.resetStations.stations
      unfold initializeLdn
      dsimp only
      rw [answer_control, setState_stations]
      exact leaveLocalNetworkMode_stations ..
  | finalize =>
      show (control.finalize env).control.stations =
        control.resetStations.stations
      unfold LdnControl.finalize
      dsimp only
      rw [answer_control, setState_stations]
      exact resetStations_congr (leaveLocalNetworkMode_stations ..)

end LdnControl

namespace System

open LdnControl

/-- The IPC thread inside `Scan` or `Connect` does not touch the table. -/
theorem ipcStep_stations (system : System) (env : Env) :
    (system.ipcStep env).1.control.stations =
      system.control.stations := by
  have sent (dst : UInt32) (type : LanPacketType) (body : List UInt8) :
      (system.control.sendFrame env dst type body).control.stations =
        system.control.stations := by
    rw [sendFrame_control]
  unfold ipcStep
  split
  · rfl
  · exact sent ..
  · dsimp only [enter]
    split
    · exact sent ..
    · rfl
  · rfl
  · rfl
  · exact sent ..
  · dsimp only
    split <;> rfl
  · dsimp only [enter]
    split
    · exact sent ..
    · rfl
  · rfl

/-- Outside of a room a frame leaves the roster empty. -/
theorem roster_frame_elsewhere {control : LdnControl} {env : Env}
    {srcIp : UInt32} {payload : List UInt8}
    (elsewhere : control.state ≠ .accessPointCreated)
    (idle : control.activeSlots = []) :
    (control.onControlFrame env srcIp payload).control.roster =
      Roster.empty := by
  apply roster_of_activeSlots
  rcases control.onControlFrame_members env srcIp payload with
    ⟨slot, -, hosting, -, -⟩ | ⟨-, noneNew⟩
  · exact absurd hosting elsewhere
  · apply List.filter_eq_nil_iff.mpr
    intro slot member used
    have active := mem_activeSlots.mpr ⟨member, (noneNew slot used).1⟩
    rw [idle] at active
    contradiction

/-- Every step of either thread, seen through the roster. -/
theorem roster_next (system : System) (input : Env × Event)
    (holds : system.control.RoomInvariant) :
    (machine.next system input).control.roster =
      system.control.roster.follow relayPeerTimeoutTicks
        (system.signal input) := by
  have afterSound := (roomInvariant_next input holds).sound
  rcases input with ⟨env, event⟩
  cases event with
  | command command =>
      by_cases idle : system.phase = .idle
      · have stations :=
          commandStep_stations system.control env command
        unfold Machine.next
        rw [next_command env command idle]
        unfold signal
        dsimp only
        by_cases empties : command.resets system.control.state = true
        · rw [if_pos empties] at stations
          rw [if_pos ⟨idle, empties⟩, Roster.follow_some, Roster.after,
            roster_of_stations stations]
          exact roster_of_activeSlots (activeSlots_resetStations _)
        · rw [if_neg empties] at stations
          rw [if_neg fun both => empties both.2]
          exact roster_of_stations stations
      · unfold Machine.next
        rw [next_command_busy env command idle]
        unfold signal
        dsimp only
        rw [if_neg fun both => idle both.1]
        rfl
  | ipc => exact roster_of_stations (system.ipcStep_stations env)
  | frame srcIp payload =>
      show (system.control.onControlFrame env srcIp payload).control.roster =
        system.control.roster.follow _
          (system.control.frameSignal env.now srcIp payload)
      by_cases hosting : system.control.state = .accessPointCreated
      · exact roster_onControlFrame hosting holds.sound afterSound
      · rw [roster_frame_elsewhere hosting (holds.empty hosting),
          frameSignal, if_pos hosting]
        exact (roster_of_activeSlots (holds.empty hosting)).symm
  | tick =>
      show (system.control.tick env).control.roster = _
      change (system.control.tick env).control.StationsSound at afterSound
      unfold signal
      dsimp only
      unfold LdnControl.tick at afterSound ⊢
      rw [locked_control] at afterSound ⊢
      by_cases early :
          env.now - system.control.lastBeacon < relayBeaconIntervalTicks
      · rw [if_pos early, if_pos early]
        rfl
      · rw [if_neg early] at afterSound ⊢
        rw [if_neg early]
        by_cases hosting : system.control.state = .accessPointCreated
        · rw [if_pos hosting] at afterSound ⊢
          exact roster_reap holds.sound afterSound
            (updateNodes_stations ..)
        · have before := roster_of_activeSlots (holds.empty hosting)
          have same (control : LdnControl)
              (stations : control.stations = system.control.stations) :
              control.roster = Roster.empty :=
            (roster_of_stations stations).trans before
          rw [if_neg hosting, Roster.follow_some, before]
          show _ = Roster.empty
          split
          · apply same
            rw [Step.andThen_control]
            exact
              (dropSilentHost_stations ..).trans
                (sendHeartbeat_stations ..)
          · exact same _ rfl
  | knownPeer => rfl
  | enterLocalNetworkModePublic =>
      exact roster_of_stations (enterLocalNetworkMode_stations ..)
  | exitLocalNetworkModePublic =>
      exact roster_of_stations (leaveLocalNetworkMode_stations ..)

/-- What the events of a run mean for the stations of a host. -/
def signals (mtu : UInt32) (inputs : List (Env × Event)) :
    List (Happening UInt32) :=
  machine.fed (fun system input => (system.signal input).toList)
    (initial mtu) inputs

/-- The station table of any run is a roster fed with its signals. -/
theorem roster_run (mtu : UInt32) (inputs : List (Env × Event)) :
    (machine.run (initial mtu) inputs).control.roster =
      (Roster.machine relayPeerTimeoutTicks).run Roster.empty
        (signals mtu inputs) := by
  have initially : (initial mtu).control.RoomInvariant :=
    roomInvariant_initial mtu
  have start : (initial mtu).control.roster = Roster.empty :=
    roster_of_activeSlots rfl
  have each (system : System) (input : Env × Event)
      (holds : system.control.RoomInvariant) :
      (machine.next system input).control.roster =
        (Roster.machine relayPeerTimeoutTicks).run system.control.roster
          (system.signal input).toList := by
    rw [Roster.machine_run_toList]
    exact system.roster_next input holds
  have keeps (system : System) (input : Env × Event)
      (holds : system.control.RoomInvariant) :
      (machine.next system input).control.RoomInvariant :=
    roomInvariant_next input holds
  rw [signals, ← start]
  exact
    machine.part_run_of_invariant (fun system => system.control.roster)
      keeps each initially inputs

end System

end SlpClient.Ldn
