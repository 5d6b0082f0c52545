import SlpClient.Ldn.HostTable

/-!
# Places and ids

A host lists its stations without gaps, each with the id of its slot.  So the
id of a node is its place in the list as long as the slots in use have no gap
either.  New stations take the lowest free slot; a gap comes from a station
that leaves while one above it stays.
-/

namespace SlpClient.Ldn

open SlpClient.Lib

/-! ## The nodes of a network -/

namespace NetworkInfo

/-- The entry at this place is connected. -/
def connectedAt (info : NetworkInfo) (place : Fin 8) : Bool :=
  (info.ldn.nodes place).isConnected != 0

/-- A node with this id is connected. -/
def lists (info : NetworkInfo) (id : Fin 8) : Bool :=
  decide
    (∃ place, info.connectedAt place = true ∧
      (info.ldn.nodes place).nodeId.toNat = id.val)

/-- The ids in use are the places in use. -/
def Placed (info : NetworkInfo) : Prop :=
  ∀ id, info.lists id = info.connectedAt id

theorem placed_of_nodeId {info : NetworkInfo}
    (same :
      ∀ place, info.connectedAt place = true →
        (info.ldn.nodes place).nodeId.toNat = place.val) :
    info.Placed := by
  intro id
  cases connected : info.connectedAt id with
  | true => exact decide_eq_true ⟨id, connected, same id connected⟩
  | false =>
      refine decide_eq_false ?_
      rintro ⟨place, listed, equal⟩
      rw [same place listed] at equal
      rw [Fin.ext equal, connected] at listed
      nomatch listed

end NetworkInfo

namespace LdnControl

/-! ## Stations without a gap -/

/-- The slots in use come before all others. -/
def Gapless (control : LdnControl) : Prop :=
  ∀ lower higher : Fin 8, higher ∈ stationSlots → lower < higher →
    (control.stations higher).active = true →
      (control.stations lower).active = true

theorem mem_stationSlots_of_lt :
    ∀ lower higher : Fin 8, higher ∈ stationSlots → lower < higher →
      lower ∈ stationSlots := by
  decide

theorem stationSlots_sorted : stationSlots.Pairwise (· < ·) := by
  decide

theorem stationSlots_getElem (place : Fin 7) :
    stationSlots[place.val]?.map Fin.val = some place.val := by
  revert place
  decide

theorem Gapless.of_active {control other : LdnControl}
    (gapless : control.Gapless)
    (same :
      ∀ slot ∈ stationSlots,
        (other.stations slot).active = (control.stations slot).active) :
    other.Gapless := by
  intro lower higher member below active
  rw [same higher member] at active
  rw [same lower (mem_stationSlots_of_lt lower higher member below)]
  exact gapless lower higher member below active

theorem Gapless.of_core {control other : LdnControl}
    (gapless : control.Gapless) (same : other.core = control.core) :
    other.Gapless := by
  have stations := congrArg LdnControl.stations same
  apply gapless.of_active
  intro slot _
  have active := congrArg Station.active (congrFun stations slot)
  exact active

theorem gapless_resetStations (control : LdnControl) :
    control.resetStations.Gapless := by
  intro lower higher member below active
  rw [(control.resetStations_inactive higher member).1] at active
  nomatch active

/-- The first free slot is taken. -/
theorem Gapless.below_connectSlot {control : LdnControl}
    (gapless : control.Gapless) {srcIp : UInt32} {slot : Fin 8}
    (found : control.connectSlot srcIp = some slot) {lower : Fin 8}
    (below : lower < slot) : (control.stations lower).active = true := by
  have member := (connectSlot_some found).1
  unfold connectSlot at found
  split at found
  · next own known =>
      rw [Option.some.injEq] at found
      subst found
      exact gapless lower own member below (findStationByIp_some known).2.1
  · split at found
    · nomatch found
    · rcases List.find?_eq_some_iff_append.mp found with
        ⟨-, before, after, slots, used⟩
      have sorted := stationSlots_sorted
      have listed := mem_stationSlots_of_lt lower slot member below
      rw [slots] at sorted listed
      rcases List.mem_append.mp listed with earlier | later
      · simpa using used lower earlier
      · have above := (List.pairwise_append.mp sorted).2.1
        rcases List.mem_cons.mp later with same | behind
        · exact absurd below (same ▸ lt_irrefl _)
        · exact absurd below
            (lt_asymm ((List.pairwise_cons.mp above).1 lower behind))

theorem Gapless.takeIn {control : LdnControl} (gapless : control.Gapless)
    {srcIp : UInt32} {slot : Fin 8}
    (found : control.connectSlot srcIp = some slot) {station : Station}
    (active : station.active = true) :
    (control.withStation slot station).Gapless := by
  intro lower higher member below used
  change (Function.update control.stations slot station lower).active = true
  change
    (Function.update control.stations slot station higher).active = true
      at used
  by_cases low : lower = slot
  · subst low
    rw [Function.update_self]
    exact active
  · rw [Function.update_of_ne low]
    by_cases high : higher = slot
    · subst high
      exact gapless.below_connectSlot found below
    · rw [Function.update_of_ne high] at used
      exact gapless lower higher member below used

/-- Stations that leave have no station above them that stays. -/
theorem Gapless.leaving {control other : LdnControl}
    (gapless : control.Gapless)
    (leaves :
      ∀ slot, other.stations slot = control.stations slot ∨
        (other.stations slot = (control.stations slot).clear ∧
          ∀ higher ∈ stationSlots, slot < higher →
            (other.stations higher).active = false)) :
    other.Gapless := by
  intro lower higher member below active
  rcases leaves higher with stays | ⟨clear, -⟩
  · rcases leaves lower with same | ⟨-, above⟩
    · rw [stays] at active
      rw [same]
      exact gapless lower higher member below active
    · rw [above higher member below] at active
      nomatch active
  · rw [clear] at active
    nomatch active

/-! ## Networks of a host -/

/-- What a sorted list keeps of a downward closed property is its start. -/
theorem filter_prefix_of_sorted {Slot : Type*} [LT Slot]
    {keep : Slot → Bool} :
    ∀ {slots : List Slot}, slots.Pairwise (· < ·) →
      (∀ lower ∈ slots, ∀ higher ∈ slots, lower < higher →
        keep higher = true → keep lower = true) →
      slots.filter keep <+: slots
  | [], _, _ => List.prefix_rfl
  | slot :: rest, sorted, down => by
      rcases List.pairwise_cons.mp sorted with ⟨first, others⟩
      have later : rest.filter keep <+: rest :=
        filter_prefix_of_sorted others fun lower low higher high =>
          down lower (List.mem_cons_of_mem _ low) higher
            (List.mem_cons_of_mem _ high)
      cases kept : keep slot with
      | true =>
          rw [List.filter_cons_of_pos kept]
          exact (List.cons_prefix_cons).mpr ⟨rfl, later⟩
      | false =>
          have none : rest.filter keep = [] := by
            apply List.filter_eq_nil_iff.mpr
            intro higher member used
            have below :=
              down slot List.mem_cons_self higher
                (List.mem_cons_of_mem _ member) (first higher member) used
            rw [kept] at below
            nomatch below
          rw [List.filter_cons_of_neg (by simp [kept]), none]
          exact List.nil_prefix

theorem Gapless.activeSlots_prefix {control : LdnControl}
    (gapless : control.Gapless) : control.activeSlots <+: stationSlots :=
  filter_prefix_of_sorted stationSlots_sorted
    fun lower _ higher high below active =>
      gapless lower higher high below active

/-- Without a gap every node stands at the place of its id. -/
theorem AdvertisesStations.placed {control : LdnControl}
    (advertises : control.AdvertisesStations)
    (sound : control.StationsSound) (gapless : control.Gapless) :
    control.networkInfo.Placed := by
  apply NetworkInfo.placed_of_nodeId
  intro place connected
  rcases advertises.entry place with
    ⟨first, host⟩ | ⟨index, slot, behind, listed, node⟩ | unused
  · rw [host, first]
    rfl
  · rcases gapless.activeSlots_prefix with ⟨others, slots⟩
    have inside : index < control.activeSlots.length :=
      (List.getElem?_eq_some_iff.mp listed).1
    have value := stationSlots_getElem ⟨index, by omega⟩
    rw [← slots, List.getElem?_append_left inside, listed,
      Option.map_some, Option.some.injEq] at value
    rcases mem_activeSlots.mp (List.mem_of_getElem? listed) with
      ⟨member, active⟩
    rw [node, (sound.node slot member active).2.2.1, slotNodeId, value,
      behind]
    exact Nat.mod_eq_of_lt (by omega)
  · unfold NetworkInfo.connectedAt at connected
    rw [unused] at connected
    nomatch connected

theorem StationsSound.placed_rebuilt {control : LdnControl}
    (sound : control.StationsSound) (gapless : control.Gapless) :
    control.rebuilt.networkInfo.Placed :=
  sound.advertises_rebuilt.placed (sound.of_stations rfl)
    (gapless.of_active fun _ _ => rfl)

/-! ## Stations that come and leave -/

theorem updateNodes_stations (control : LdnControl) (env : Env) :
    (control.updateNodes env).control.stations = control.stations := by
  rw [updateNodes_control]
  rfl

/-- What a frame does to the stations of a console. -/
inductive FrameStations (control : LdnControl) (srcIp : UInt32)
    (payload : List UInt8) (after : LdnControl) : Prop where
  | kept
      (same :
        ∀ slot, (after.stations slot).active =
          (control.stations slot).active)
  | taken (slot : Fin 8) (station : Station)
      (found : control.connectSlot srcIp = some slot)
      (active : station.active = true)
      (stations :
        after.stations = (control.withStation slot station).stations)
  | left (bye : RelayHeartbeatPayload) (slot : Fin 8)
      (hosting : control.state = .accessPointCreated)
      (carried : byeOf payload = some bye)
      (network : bye.bssid = control.networkInfo.common.bssid)
      (found : control.findStationByIp srcIp = some slot)
      (stations :
        after.stations =
          (control.withStation slot (control.stations slot).clear).stations)

section FrameStations

variable (control : LdnControl) (env : Env) (srcIp : UInt32)
  (payload body : List UInt8)

theorem FrameStations.of_stations {control after : LdnControl}
    {srcIp : UInt32} {payload : List UInt8}
    (same : after.stations = control.stations) :
    control.FrameStations srcIp payload after :=
  .kept fun slot => by rw [same]

theorem frameStations_handleScan :
    control.FrameStations srcIp payload
      (control.handleScan env srcIp).control := by
  unfold handleScan
  split
  · exact .of_stations rfl
  · refine .of_stations ?_
    rw [Step.after_control, sendFrame_control]
    rfl

theorem frameStations_handleScanResp :
    control.FrameStations srcIp payload
      (control.handleScanResp srcIp body).control := by
  rcases control.handleScanResp_control srcIp body with
    ⟨results, count, equality⟩
  rw [equality]
  exact .of_stations rfl

theorem frameStations_handleConnect :
    control.FrameStations srcIp payload
      (control.handleConnect env srcIp body).control := by
  unfold handleConnect
  split
  · exact .of_stations rfl
  · split
    · exact .of_stations rfl
    · split
      · exact .of_stations rfl
      · dsimp only
        split
        · exact .of_stations rfl
        · rename_i slot found
          exact
            .taken slot
              (connectedStation env srcIp (NodeInfo.codec.decode body) slot)
              found rfl (updateNodes_stations ..)

theorem frameStations_handleSyncNetwork (seq : UInt16) :
    control.FrameStations srcIp payload
      (control.handleSyncNetwork env body seq).control := by
  unfold handleSyncNetwork
  split
  · exact .of_stations rfl
  · split
    · exact .of_stations rfl
    · split
      · exact .of_stations rfl
      · dsimp only
        split
        · exact .of_stations (noteSyncSeq_stations ..)
        · exact
            .of_stations
              ((applySync_stations ..).trans (noteSyncSeq_stations ..))

theorem frameStations_handleRelayHeartbeat :
    control.FrameStations srcIp payload
      (control.handleRelayHeartbeat env srcIp body).control := by
  unfold handleRelayHeartbeat
  split
  · exact .of_stations rfl
  · split
    · exact .of_stations rfl
    · dsimp only
      split
      · exact .of_stations rfl
      · split
        · exact .of_stations rfl
        · rename_i heard found
          apply FrameStations.kept
          intro slot
          change
            (Function.update control.stations heard _ slot).active = _
          by_cases same : slot = heard
          · subst same
            rw [Function.update_self]
          · rw [Function.update_of_ne same]

theorem frameStations_handleRelayBye {payload body : List UInt8}
    {seq : UInt16}
    (opened : openedFrame payload = some (.relayBye, body, seq)) :
    control.FrameStations srcIp payload
      (control.handleRelayBye env srcIp body).control := by
  unfold handleRelayBye
  split
  · exact .of_stations rfl
  · rename_i length
    rw [ne_eq, not_not] at length
    have carried :
        byeOf payload =
          some (RelayHeartbeatPayload.codec.decode body) := by
      rw [byeOf, opened]
      exact if_pos length
    dsimp only
    split
    · split
      · refine .of_stations ?_
        unfold loseHost setState
        split <;> rfl
      · exact .of_stations rfl
    · split
      · rename_i hosting
        split
        · exact .of_stations rfl
        · rename_i network
          rw [ne_eq, not_not] at network
          split
          · exact .of_stations rfl
          · rename_i slot found
            exact
              .left _ slot hosting carried network found
                (updateNodes_stations ..)
      · exact .of_stations rfl

theorem frameStations_onControlFrame :
    control.FrameStations srcIp payload
      (control.onControlFrame env srcIp payload).control := by
  rw [onControlFrame_eq, locked_control, Step.after_control]
  split
  · exact .of_stations rfl
  · rename_i type body seq opened
    cases type with
    | scan => exact frameStations_handleScan ..
    | scanResp => exact frameStations_handleScanResp ..
    | connect => exact frameStations_handleConnect ..
    | syncNetwork => exact frameStations_handleSyncNetwork ..
    | relayHeartbeat => exact frameStations_handleRelayHeartbeat ..
    | relayBye => exact frameStations_handleRelayBye control env srcIp opened

end FrameStations

theorem sendHeartbeat_stations (control : LdnControl) (env : Env) :
    (control.sendHeartbeat env).control.stations = control.stations := by
  unfold sendHeartbeat
  split
  · rw [sendFrame_control]
  · rfl

theorem dropSilentHost_stations (control : LdnControl) (now : Int) :
    (control.dropSilentHost now).stations = control.stations := by
  unfold dropSilentHost loseHost setState
  split_ifs <;> rfl

/-- A tick that is due reaps the stations of a host. -/
theorem tick_stations (control : LdnControl) (env : Env) :
    (control.tick env).control.stations = control.stations ∨
      (control.state = .accessPointCreated ∧
        relayBeaconIntervalTicks ≤ env.now - control.lastBeacon ∧
        (control.tick env).control.stations =
          (control.reapStations env.now).stations) := by
  unfold tick
  rw [locked_control]
  split
  · exact .inl rfl
  · rename_i due
    split
    · rename_i hosting
      exact .inr ⟨hosting, not_lt.mp due, updateNodes_stations ..⟩
    · split
      · left
        rw [Step.andThen_control]
        exact
          (dropSilentHost_stations ..).trans (sendHeartbeat_stations ..)
      · exact .inl rfl

/-! ## Leaving from the end -/

/-- A station that says goodbye has no station above it. -/
def LeavesFromEnd (control : LdnControl) (srcIp : UInt32)
    (payload : List UInt8) : Prop :=
  control.state = .accessPointCreated →
    ∀ bye slot, byeOf payload = some bye →
      bye.bssid = control.networkInfo.common.bssid →
        control.findStationByIp srcIp = some slot →
          ∀ higher ∈ stationSlots, slot < higher →
            (control.stations higher).active = false

/-- Above a station that is reaped, all are reaped. -/
def ReapsFromEnd (control : LdnControl) (now : Int) : Prop :=
  control.state = .accessPointCreated →
    relayBeaconIntervalTicks ≤ now - control.lastBeacon →
      ∀ lower higher : Fin 8, higher ∈ stationSlots → lower < higher →
        control.silentStation now lower = true →
          (control.stations higher).active = true →
            control.silentStation now higher = true

theorem Gapless.frame {control : LdnControl} (gapless : control.Gapless)
    (env : Env) {srcIp : UInt32} {payload : List UInt8}
    (fromEnd : control.LeavesFromEnd srcIp payload) :
    (control.onControlFrame env srcIp payload).control.Gapless := by
  have stations :=
    control.frameStations_onControlFrame env srcIp payload
  generalize (control.onControlFrame env srcIp payload).control = after
    at stations ⊢
  cases stations with
  | kept same => exact gapless.of_active fun slot _ => same slot
  | taken slot station found active stations =>
      exact
        (gapless.takeIn found active).of_active fun other _ => by
          rw [stations]
  | left bye slot hosting carried network found stations =>
      apply gapless.leaving
      intro other
      rw [stations]
      by_cases same : other = slot
      · subst same
        refine .inr ⟨Function.update_self .., fun higher member above => ?_⟩
        change (Function.update control.stations other _ higher).active = _
        rw [Function.update_of_ne (ne_of_gt above)]
        exact
          fromEnd hosting bye other carried network found higher member above
      · exact .inl (Function.update_of_ne same ..)

theorem Gapless.tick {control : LdnControl} (gapless : control.Gapless)
    {env : Env} (fromEnd : control.ReapsFromEnd env.now) :
    (control.tick env).control.Gapless := by
  rcases control.tick_stations env with same | ⟨hosting, due, reaped⟩
  · exact gapless.of_active fun slot _ => by rw [same]
  · apply gapless.leaving
    intro slot
    rw [reaped]
    by_cases silent :
        slot ∈ stationSlots ∧ control.silentStation env.now slot = true
    · refine .inr ⟨if_pos silent, fun higher member above => ?_⟩
      change (if _ then _ else _ : Station).active = false
      split
      · rfl
      · rename_i heard
        by_contra active
        rw [Bool.not_eq_false] at active
        exact
          heard
            ⟨member,
              fromEnd hosting due slot higher member above silent.2 active⟩
    · exact .inl (if_neg silent)

/-- Commands reset the stations or leave them alone. -/
theorem Gapless.command {system : System} {env : Env} {event : Event}
    {target : LdnControl} (gapless : system.control.Gapless)
    (move : Move system env event target)
    (noFrame : ∀ srcIp payload, event ≠ .frame srcIp payload)
    (noTick : event ≠ .tick) : target.Gapless := by
  have reset (control : LdnControl) := control.gapless_resetStations
  cases move with
  | still => exact gapless
  | initializeLdn => exact (reset _).of_active fun _ _ => rfl
  | finalize => exact (reset _).of_active fun _ _ => rfl
  | openAccessPoint => exact (reset _).of_active fun _ _ => rfl
  | openStation => exact (reset _).of_active fun _ _ => rfl
  | closeAccessPoint => exact (reset _).of_active fun _ _ => rfl
  | closeStation => exact (reset _).of_active fun _ _ => rfl
  | createNetwork => exact (reset _).of_active fun _ _ => rfl
  | destroyNetwork => exact (reset _).of_active fun _ _ => rfl
  | setAdvertiseData => exact gapless.of_active fun _ _ => rfl
  | disconnect => exact (reset _).of_active fun _ _ => rfl
  | connect => exact gapless.of_active fun _ _ => rfl
  | connectTimeout => exact gapless.of_active fun _ _ => rfl
  | getNetworkInfoLatestUpdate => exact gapless.of_active fun _ _ => rfl
  | takeIn srcIp payload => exact absurd rfl (noFrame srcIp payload)
  | stationBye srcIp payload => exact absurd rfl (noFrame srcIp payload)
  | reap => exact absurd rfl noTick
  | noteSync srcIp payload => exact absurd rfl (noFrame srcIp payload)
  | applySync srcIp payload => exact absurd rfl (noFrame srcIp payload)
  | hostBye srcIp payload => exact absurd rfl (noFrame srcIp payload)
  | hostSilent => exact absurd rfl noTick

end LdnControl

end SlpClient.Ldn
