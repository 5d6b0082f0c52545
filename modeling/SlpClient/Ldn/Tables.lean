import SlpClient.Ldn.SyncGate

/-!
# Counts and peer addresses

The counts that bound array accesses, the address of this console and the
addresses of its peers, followed through every step.  `TableView` keeps the
fields concerned.  `Bounded` is an invariant of every run; `PeersAway`, that
no known peer lies behind the loopback, is kept by every step except a scan
from a loopback address that a host records.
-/

namespace SlpClient.Ldn

open SlpClient.Lib
open SlpClient.Net

/-- The counts, the own address and the tables of peers. -/
structure TableView where
  scanResultCount : UInt16
  advertiseSize : UInt16
  ipv4Address : UInt32
  subnetMask : UInt32
  stations : Fin 8 → Station
  recentScanners : Fin 16 → ScannerEntry

namespace TableView

/-- Counts within their arrays, and an address of the virtual LAN. -/
structure Bounded (view : TableView) : Prop where
  scanResultCount : view.scanResultCount.toNat ≤ maxScanResults
  advertiseSize : view.advertiseSize.toNat ≤ advertiseDataSizeMax
  address : isLanAddress view.ipv4Address = true
  mask : view.subnetMask = 0xFFFF0000

/-- No known peer lies behind the loopback. -/
structure PeersAway (view : TableView) : Prop where
  stations :
    ∀ slot, (view.stations slot).active = true →
      isLoopback (view.stations slot).srcIp = false
  scanners :
    ∀ slot, (view.recentScanners slot).used = true →
      isLoopback (view.recentScanners slot).ip = false

/-- Station slots may be cleared. -/
theorem PeersAway.clearStations {view : TableView}
    (away : view.PeersAway) (stations : Fin 8 → Station)
    (cleared :
      ∀ slot,
        stations slot = view.stations slot ∨
          stations slot = (view.stations slot).clear) :
    { view with stations := stations }.PeersAway where
  stations slot active := by
    change (stations slot).active = true at active
    change isLoopback (stations slot).srcIp = false
    rcases cleared slot with same | clear
    · rw [same] at active ⊢
      exact away.stations slot active
    · rw [clear] at active
      simp [Station.clear] at active
  scanners := away.scanners

/-- A slot may be given to a station that is not behind the loopback. -/
theorem PeersAway.updateStation {view : TableView}
    (away : view.PeersAway) (slot : Fin 8) (station : Station)
    (outside :
      station.active = true → isLoopback station.srcIp = false) :
    { view with
      stations := Function.update view.stations slot station }.PeersAway
    where
  stations other active := by
    change (Function.update view.stations slot station other).active =
      true at active
    change isLoopback
      (Function.update view.stations slot station other).srcIp = false
    by_cases same : other = slot
    · subst same
      rw [Function.update_self] at active ⊢
      exact outside active
    · rw [Function.update_of_ne same] at active ⊢
      exact away.stations other active
  scanners := away.scanners

/-- An allowlist entry may be given to a scanner that is not there either. -/
theorem PeersAway.updateScanner {view : TableView}
    (away : view.PeersAway) (slot : Fin 16) (entry : ScannerEntry)
    (outside : isLoopback entry.ip = false) :
    { view with
      recentScanners :=
        Function.update view.recentScanners slot entry }.PeersAway
    where
  stations := away.stations
  scanners other used := by
    change (Function.update view.recentScanners slot entry other).used =
      true at used
    change isLoopback
      (Function.update view.recentScanners slot entry other).ip = false
    by_cases same : other = slot
    · subst same
      rw [Function.update_self]
      exact outside
    · rw [Function.update_of_ne same] at used ⊢
      exact away.scanners other used

/-- A step from one view to another keeps both properties. -/
structure Keeps (before after : TableView) : Prop where
  bounded : before.Bounded → after.Bounded
  away : before.PeersAway → after.PeersAway

theorem Keeps.of_eq {before after : TableView} (same : after = before) :
    Keeps before after := by
  subst same
  exact ⟨id, id⟩

theorem Keeps.trans {first second third : TableView}
    (start : Keeps first second) (finish : Keeps second third) :
    Keeps first third :=
  ⟨finish.bounded ∘ start.bounded, finish.away ∘ start.away⟩

end TableView

namespace LdnControl

def tableView (control : LdnControl) : TableView where
  scanResultCount := control.scanResultCount
  advertiseSize := control.advertiseSize
  ipv4Address := control.ipv4Address
  subnetMask := control.subnetMask
  stations := control.stations
  recentScanners := control.recentScanners

/-! ## What the helpers do to the view -/

@[simp]
theorem tableView_setState (control : LdnControl) (state : CommState) :
    (control.setState state).tableView = control.tableView := by
  unfold setState
  split <;> rfl

@[simp]
theorem tableView_sendFrame (control : LdnControl) (env : Env)
    (dst : UInt32) (type : LanPacketType) (body : List UInt8) :
    (control.sendFrame env dst type body).control.tableView =
      control.tableView := by
  rw [sendFrame_control]
  rfl

@[simp]
theorem tableView_updateNodes (control : LdnControl) (env : Env) :
    (control.updateNodes env).control.tableView = control.tableView := by
  rw [updateNodes_control]
  rfl

@[simp]
theorem tableView_onNetworkInfoChanged (control : LdnControl) :
    control.onNetworkInfoChanged.tableView = control.tableView :=
  rfl

@[simp]
theorem tableView_initNodeStateChange (control : LdnControl) :
    control.initNodeStateChange.tableView = control.tableView :=
  rfl

@[simp]
theorem tableView_enterLocalNetworkMode (control : LdnControl)
    (env : Env) :
    (control.enterLocalNetworkMode env).2.tableView =
      control.tableView := by
  rcases control.enterLocalNetworkMode_shape env with
    ⟨nifm, savedMtu, mode, shape⟩
  rw [shape]
  rfl

@[simp]
theorem tableView_leaveLocalNetworkMode (control : LdnControl)
    (env : Env) :
    (control.leaveLocalNetworkMode env).tableView = control.tableView := by
  rcases control.leaveLocalNetworkMode_shape env with ⟨nifm, mode, shape⟩
  rw [shape]
  rfl

@[simp]
theorem tableView_noteSyncSeq (control : LdnControl) (seq : UInt16) :
    (control.noteSyncSeq seq).tableView = control.tableView := by
  unfold noteSyncSeq
  split <;> rfl

@[simp]
theorem tableView_loseHost (control : LdnControl) (reason : UInt32) :
    (control.loseHost reason).tableView = control.tableView := by
  unfold loseHost
  rw [tableView_setState]
  rfl

@[simp]
theorem tableView_applySync (control : LdnControl) (env : Env)
    (info : NetworkInfo) :
    (control.applySync env info).control.tableView =
      control.tableView := by
  unfold applySync
  split_ifs
  · rw [tableView_onNetworkInfoChanged, tableView_setState]
    rfl
  · rfl
  · rfl

/-- A reset clears station slots. -/
theorem keeps_resetStations (control : LdnControl) :
    TableView.Keeps control.tableView control.resetStations.tableView where
  bounded bounded := ⟨bounded.1, bounded.2, bounded.3, bounded.4⟩
  away away := by
    refine
      away.clearStations control.resetStations.stations fun slot => ?_
    unfold resetStations
    dsimp only
    split
    · exact .inr rfl
    · exact .inl rfl

/-- So does a reap. -/
theorem keeps_reapStations (control : LdnControl) (now : Int) :
    TableView.Keeps control.tableView
      (control.reapStations now).tableView where
  bounded bounded := ⟨bounded.1, bounded.2, bounded.3, bounded.4⟩
  away away := by
    refine
      away.clearStations (control.reapStations now).stations fun slot => ?_
    unfold reapStations
    dsimp only
    split
    · exact .inr rfl
    · exact .inl rfl

/-! ## What the commands do to the view -/

theorem keeps_openRole (control : LdnControl) (env : Env)
    (role : CommState) :
    TableView.Keeps control.tableView
      (control.openRole env role).control.tableView := by
  unfold openRole
  dsimp only
  split
  · exact .of_eq rfl
  · rw [answer_control, tableView_setState]
    split
    · exact keeps_resetStations { control with disconnectReason := 0 }
    · have entered :=
        tableView_enterLocalNetworkMode
          { control with disconnectReason := 0 } env
      exact (TableView.Keeps.of_eq entered).trans (keeps_resetStations _)

theorem keeps_closeRole (control : LdnControl) (env : Env) :
    TableView.Keeps control.tableView
      (control.closeRole env).control.tableView := by
  unfold closeRole
  split
  · exact .of_eq rfl
  · dsimp only
    rw [answer_control, tableView_setState]
    exact
      (TableView.Keeps.of_eq
        (tableView_leaveLocalNetworkMode control env)).trans
        (keeps_resetStations _)

/-- `Initialize` takes an address of the virtual LAN. -/
theorem keeps_initializeLdn (control : LdnControl) (env : Env) :
    TableView.Keeps control.tableView
      (control.initializeLdn env).control.tableView := by
  let addressed :=
    { control with
      ipv4Address :=
        if parseIp (virtualIpText env.virtualOctets) = 0 then 0x0A0D2502
        else parseIp (virtualIpText env.virtualOctets)
      subnetMask := 0xFFFF0000
      disconnectReason := 0
      scanResultCount := 0
      scanFilterLcid := 0 }
  have start : TableView.Keeps control.tableView addressed.tableView :=
    { bounded := fun bounded =>
        { scanResultCount := Nat.zero_le _
          advertiseSize := bounded.advertiseSize
          address := by
            change
              isLanAddress
                (if parseIp (virtualIpText env.virtualOctets) = 0 then
                  0x0A0D2502
                else parseIp (virtualIpText env.virtualOctets)) = true
            split
            · decide
            · exact isLanAddress_virtualIp env.virtualOctets
          mask := rfl }
      away := fun away => ⟨away.stations, away.scanners⟩ }
  have reset := start.trans (keeps_resetStations addressed)
  unfold initializeLdn
  rw [answer_control, tableView_setState]
  exact
    reset.trans
      (.of_eq
        (tableView_leaveLocalNetworkMode
          addressed.resetStations.initNodeStateChange env))

theorem keeps_finalize (control : LdnControl) (env : Env) :
    TableView.Keeps control.tableView
      (control.finalize env).control.tableView := by
  let left := control.leaveLocalNetworkMode env
  let cleared :=
    { left with
      scanResultCount := 0
      scanFilterLcid := 0
      joinActive := false
      relaySyncSeqValid := false }
  have start : TableView.Keeps left.tableView cleared.tableView :=
    { bounded := fun bounded =>
        ⟨Nat.zero_le _, bounded.advertiseSize, bounded.address,
          bounded.mask⟩
      away := fun away => ⟨away.stations, away.scanners⟩ }
  unfold finalize
  rw [answer_control, tableView_setState]
  exact
    ((TableView.Keeps.of_eq
      (tableView_leaveLocalNetworkMode control env)).trans start).trans
      (keeps_resetStations cleared)

/-- A created network advertises nothing. -/
theorem keeps_created (control : LdnControl) (env : Env)
    (data : CreateNetworkConfig) :
    TableView.Keeps control.tableView
      (control.created env data).tableView where
  bounded bounded :=
    ⟨bounded.scanResultCount, Nat.zero_le _, bounded.address,
      bounded.mask⟩
  away away := ⟨away.stations, away.scanners⟩

theorem keeps_createNetwork (control : LdnControl) (env : Env)
    (data : CreateNetworkConfig) :
    TableView.Keeps control.tableView
      (control.createNetwork env data).control.tableView := by
  unfold createNetwork
  split
  · exact .of_eq rfl
  · rw [answer_control, tableView_updateNodes, tableView_setState,
      tableView_initNodeStateChange]
    exact
      (control.keeps_created env data).trans
        (keeps_resetStations (control.created env data))

theorem keeps_destroyNetwork (control : LdnControl) (env : Env) :
    TableView.Keeps control.tableView
      (control.destroyNetwork env).control.tableView := by
  unfold destroyNetwork
  rw [answer_control, Step.andThen_control, tableView_setState]
  refine TableView.Keeps.trans (.of_eq ?_) (keeps_resetStations _)
  split
  · exact tableView_sendFrame ..
  · rfl

/-- Accepted advertise data fits. -/
theorem advertised_size_le (control : LdnControl) (data : List UInt8)
    (fits : data.length ≤ advertiseDataSizeMax) :
    (control.advertised data).advertiseSize.toNat ≤
      advertiseDataSizeMax := by
  change (UInt16.ofNat data.length).toNat ≤ advertiseDataSizeMax
  rw [UInt16.toNat_ofNat']
  unfold advertiseDataSizeMax at fits ⊢
  omega

theorem keeps_advertised (control : LdnControl) (data : List UInt8)
    (fits : data.length ≤ advertiseDataSizeMax) :
    TableView.Keeps control.tableView
      (control.advertised data).tableView where
  bounded bounded :=
    ⟨bounded.scanResultCount, control.advertised_size_le data fits,
      bounded.address, bounded.mask⟩
  away away := ⟨away.stations, away.scanners⟩

theorem keeps_setAdvertiseData (control : LdnControl) (env : Env)
    (data : List UInt8) :
    TableView.Keeps control.tableView
      (control.setAdvertiseData env data).control.tableView := by
  unfold setAdvertiseData
  split
  · exact .of_eq rfl
  · rename_i fits
    rw [answer_control, Step.after_control, tableView_updateNodes]
    exact control.keeps_advertised data (not_lt.1 fits)

theorem keeps_disconnect (control : LdnControl) (env : Env) :
    TableView.Keeps control.tableView
      (control.disconnect env).control.tableView := by
  unfold disconnect
  rw [answer_control, Step.andThen_control, tableView_setState]
  refine
    TableView.Keeps.trans (.of_eq ?_) (keeps_resetStations (leaveJoin _))
  split
  · exact tableView_sendFrame ..
  · rfl

/-- Forgetting the stored scan results. -/
theorem keeps_forgetScan (control : LdnControl) (view : TableView)
    (forgotten :
      view = { control.tableView with scanResultCount := 0 }) :
    TableView.Keeps control.tableView view := by
  subst forgotten
  exact
    { bounded := fun bounded =>
        ⟨Nat.zero_le _, bounded.advertiseSize, bounded.address,
          bounded.mask⟩
      away := fun away => ⟨away.stations, away.scanners⟩ }

/-! ## What the run loop does to the view -/

/-- A scanner on the allowlist is not behind the loopback. -/
theorem not_isLoopback_of_wasRecentScanner {control : LdnControl}
    (away : control.tableView.PeersAway) {now : Int} {srcIp : UInt32}
    (recent : control.wasRecentScanner now srcIp = true) :
    isLoopback srcIp = false := by
  simp only [wasRecentScanner, List.any_eq_true, Bool.and_eq_true,
    beq_iff_eq] at recent
  rcases recent with ⟨slot, -, ⟨used, same⟩, -⟩
  rw [← same]
  exact away.scanners slot used

/-- Nor is a known station. -/
theorem not_isLoopback_of_findStationByIp {control : LdnControl}
    (away : control.tableView.PeersAway) {srcIp : UInt32} {slot : Fin 8}
    (found : control.findStationByIp srcIp = some slot) :
    isLoopback srcIp = false := by
  have matching := List.find?_some found
  simp only [Bool.and_eq_true, beq_iff_eq] at matching
  rw [← matching.2]
  exact away.stations slot matching.1

/-- The slot of a peer that may connect is given to that peer. -/
theorem keeps_withStation_connected (control : LdnControl) (env : Env)
    (srcIp : UInt32) (node : NodeInfo) (slot : Fin 8)
    (allowed :
      ¬ (control.wasRecentScanner env.now srcIp = false ∧
        control.findStationByIp srcIp = none)) :
    TableView.Keeps control.tableView
      (control.withStation slot
        (connectedStation env srcIp node slot)).tableView where
  bounded bounded := ⟨bounded.1, bounded.2, bounded.3, bounded.4⟩
  away away := by
    refine away.updateStation slot _ fun _ => ?_
    change isLoopback srcIp = false
    cases recent : control.wasRecentScanner env.now srcIp with
    | true => exact not_isLoopback_of_wasRecentScanner away recent
    | false =>
        cases known : control.findStationByIp srcIp with
        | none => exact (allowed ⟨recent, known⟩).elim
        | some found =>
            exact not_isLoopback_of_findStationByIp away known

/-- A slot is cleared or refreshed. -/
theorem keeps_withStation (control : LdnControl) (slot : Fin 8)
    (station : Station)
    (weaker :
      station.active = true →
        (control.stations slot).active = true ∧
          station.srcIp = (control.stations slot).srcIp) :
    TableView.Keeps control.tableView
      (control.withStation slot station).tableView where
  bounded bounded := ⟨bounded.1, bounded.2, bounded.3, bounded.4⟩
  away away := by
    refine away.updateStation slot station fun active => ?_
    have known := weaker active
    rw [known.2]
    exact away.stations slot known.1

/-- A recorded scanner must not be behind the loopback. -/
theorem keeps_handleScan (control : LdnControl) (env : Env)
    (srcIp : UInt32)
    (outside :
      control.state = .accessPointCreated → isLoopback srcIp = false) :
    TableView.Keeps control.tableView
      (control.handleScan env srcIp).control.tableView := by
  unfold handleScan
  split
  · exact .of_eq rfl
  · rename_i hosting
    dsimp only
    rw [Step.after_control, tableView_sendFrame]
    exact
      { bounded := fun bounded =>
          ⟨bounded.1, bounded.2, bounded.3, bounded.4⟩
        away := fun away =>
          away.updateScanner _ _ (outside (not_not.1 hosting)) }

/-- Whatever a scan comes from, the counts stay. -/
theorem bounded_handleScan (control : LdnControl) (env : Env)
    (srcIp : UInt32) (bounded : control.tableView.Bounded) :
    (control.handleScan env srcIp).control.tableView.Bounded := by
  unfold handleScan
  split
  · exact bounded
  · dsimp only
    rw [Step.after_control, tableView_sendFrame]
    exact ⟨bounded.1, bounded.2, bounded.3, bounded.4⟩

/-- A scan response is stored in a slot that exists. -/
theorem keeps_handleScanResp (control : LdnControl) (srcIp : UInt32)
    (body : List UInt8) :
    TableView.Keeps control.tableView
      (control.handleScanResp srcIp body).control.tableView := by
  unfold handleScanResp
  split
  · exact .of_eq rfl
  · split
    · exact .of_eq rfl
    · dsimp only
      split
      · exact .of_eq rfl
      · split
        · exact .of_eq rfl
        · split
          · rename_i room
            exact
              { bounded := fun bounded =>
                  { scanResultCount := by
                      change
                        (control.scanResultCount + 1).toNat ≤
                          maxScanResults
                      unfold maxScanResults at room ⊢
                      rw [UInt16.toNat_add, UInt16.toNat_one]
                      omega
                    advertiseSize := bounded.advertiseSize
                    address := bounded.address
                    mask := bounded.mask }
                away := fun away => ⟨away.stations, away.scanners⟩ }
          · exact .of_eq rfl

theorem keeps_handleConnect (control : LdnControl) (env : Env)
    (srcIp : UInt32) (body : List UInt8) :
    TableView.Keeps control.tableView
      (control.handleConnect env srcIp body).control.tableView := by
  unfold handleConnect
  split
  · exact .of_eq rfl
  · split
    · exact .of_eq rfl
    · split
      · exact .of_eq rfl
      · rename_i allowed
        dsimp only
        split
        · exact .of_eq rfl
        · rw [Step.after_control, tableView_updateNodes]
          exact
            control.keeps_withStation_connected env srcIp _ _ allowed

theorem keeps_handleSyncNetwork (control : LdnControl) (env : Env)
    (body : List UInt8) (seq : UInt16) :
    TableView.Keeps control.tableView
      (control.handleSyncNetwork env body seq).control.tableView := by
  refine .of_eq ?_
  unfold handleSyncNetwork
  split
  · rfl
  · split
    · rfl
    · split
      · rfl
      · dsimp only
        split
        · exact tableView_noteSyncSeq ..
        · rw [Step.after_control, tableView_applySync,
            tableView_noteSyncSeq]

theorem keeps_handleRelayHeartbeat (control : LdnControl) (env : Env)
    (srcIp : UInt32) (body : List UInt8) :
    TableView.Keeps control.tableView
      (control.handleRelayHeartbeat env srcIp
        body).control.tableView := by
  unfold handleRelayHeartbeat
  split
  · exact .of_eq rfl
  · split
    · exact .of_eq rfl
    · dsimp only
      split
      · exact .of_eq rfl
      · split
        · exact .of_eq rfl
        · exact
            control.keeps_withStation _ _ fun active => ⟨active, rfl⟩

theorem keeps_handleRelayBye (control : LdnControl) (env : Env)
    (srcIp : UInt32) (body : List UInt8) :
    TableView.Keeps control.tableView
      (control.handleRelayBye env srcIp body).control.tableView := by
  unfold handleRelayBye
  split
  · exact .of_eq rfl
  · dsimp only
    split
    · split
      · exact .of_eq (tableView_loseHost control 3)
      · exact .of_eq rfl
    · split
      · split
        · exact .of_eq rfl
        · split
          · exact .of_eq rfl
          · rw [Step.after_control, tableView_updateNodes]
            refine control.keeps_withStation _ _ fun active => ?_
            simp [Station.clear] at active
      · exact .of_eq rfl

theorem keeps_tick (control : LdnControl) (env : Env) :
    TableView.Keeps control.tableView
      (control.tick env).control.tableView := by
  unfold tick
  rw [locked_control]
  split
  · exact .of_eq rfl
  · split
    · rw [tableView_updateNodes]
      exact keeps_reapStations (control.withBeacon env.now) env.now
    · split
      · refine .of_eq ?_
        have sent :
            ((control.withBeacon env.now).sendHeartbeat
              env).control.tableView = control.tableView := by
          unfold sendHeartbeat
          split
          · exact tableView_sendFrame ..
          · rfl
        rw [Step.andThen_control]
        unfold dropSilentHost
        split
        · rw [tableView_loseHost, sent]
        · exact sent
      · exact .of_eq rfl

/-- The scan that a host should not record. -/
def LoopbackScan (control : LdnControl) (srcIp : UInt32)
    (payload : List UInt8) : Prop :=
  control.state = .accessPointCreated ∧ isLoopback srcIp = true ∧
    ∃ body seq, openedFrame payload = some (.scan, body, seq)

/-- Every other datagram keeps both properties. -/
theorem keeps_onControlFrame (control : LdnControl) (env : Env)
    (srcIp : UInt32) (payload : List UInt8)
    (harmless : ¬ control.LoopbackScan srcIp payload) :
    TableView.Keeps control.tableView
      (control.onControlFrame env srcIp payload).control.tableView := by
  rw [onControlFrame_eq, locked_control, Step.after_control]
  split
  · exact .of_eq rfl
  · rename_i type body seq opened
    cases type with
    | scan =>
        refine control.keeps_handleScan env srcIp fun hosting => ?_
        by_contra loopback
        rw [Bool.not_eq_false] at loopback
        exact harmless ⟨hosting, loopback, body, seq, opened⟩
    | scanResp => exact control.keeps_handleScanResp srcIp body
    | connect => exact control.keeps_handleConnect env srcIp body
    | syncNetwork => exact control.keeps_handleSyncNetwork env body seq
    | relayHeartbeat =>
        exact control.keeps_handleRelayHeartbeat env srcIp body
    | relayBye => exact control.keeps_handleRelayBye env srcIp body

theorem bounded_onControlFrame (control : LdnControl) (env : Env)
    (srcIp : UInt32) (payload : List UInt8)
    (bounded : control.tableView.Bounded) :
    (control.onControlFrame env srcIp
      payload).control.tableView.Bounded := by
  by_cases harmless : control.LoopbackScan srcIp payload
  · rcases harmless with ⟨-, -, body, seq, opened⟩
    rw [onControlFrame_eq, opened, locked_control, Step.after_control]
    exact control.bounded_handleScan env srcIp bounded
  · exact
      (control.keeps_onControlFrame env srcIp payload harmless).bounded
        bounded

end LdnControl

/-! ## Every step -/

namespace System

theorem keeps_commandStep (control : LdnControl) (env : Env)
    (command : Command) :
    TableView.Keeps control.tableView
      (commandStep control env command).1.control.tableView := by
  have query (reply : Reply) :
      TableView.Keeps control.tableView
        (control.whenInNetwork reply).control.tableView := by
    rw [LdnControl.whenInNetwork_control]
    exact .of_eq rfl
  cases command with
  | getState => exact .of_eq rfl
  | getNetworkInfo => exact query _
  | getIpv4Address => exact .of_eq rfl
  | getDisconnectReason => exact .of_eq rfl
  | getSecurityParameter => exact query _
  | getNetworkConfig => exact query _
  | attachStateChangeEvent => exact .of_eq rfl
  | getNetworkInfoLatestUpdate capacity =>
      simp only [commandStep, enter,
        LdnControl.getNetworkInfoLatestUpdate]
      split_ifs <;> exact .of_eq rfl
  | scan filter capacity =>
      simp only [commandStep]
      split
      · exact .of_eq rfl
      · exact control.keeps_forgetScan _ rfl
  | openAccessPoint => exact control.keeps_openRole env _
  | closeAccessPoint => exact control.keeps_closeRole env
  | createNetwork data => exact control.keeps_createNetwork env data
  | destroyNetwork => exact control.keeps_destroyNetwork env
  | setAdvertiseData data =>
      exact control.keeps_setAdvertiseData env data
  | openStation => exact control.keeps_openRole env _
  | closeStation => exact control.keeps_closeRole env
  | connect dat data =>
      simp only [commandStep]
      split
      · exact .of_eq rfl
      · split
        · exact .of_eq rfl
        · exact control.keeps_forgetScan _ rfl
  | disconnect => exact control.keeps_disconnect env
  | initializeLdn => exact control.keeps_initializeLdn env
  | finalize => exact control.keeps_finalize env

theorem tableView_ipcStep (system : System) (env : Env) :
    (system.ipcStep env).1.control.tableView =
      system.control.tableView := by
  unfold ipcStep
  cases system.phase with
  | idle => rfl
  | scanBroadcast filter capacity => simp [enter]
  | scanWait filter capacity iteration lastCount stable =>
      simp only [enter]
      split
      · exact LdnControl.tableView_sendFrame ..
      · rfl
  | scanPoll filter capacity iteration lastCount stable => rfl
  | scanCollect filter capacity => rfl
  | connectSend hostIp my => simp [enter]
  | connectPoll hostIp my iteration =>
      dsimp only
      split <;> rfl
  | connectWait hostIp my iteration =>
      simp only [enter]
      split
      · exact LdnControl.tableView_sendFrame ..
      · rfl
  | connectTimeout => rfl

/-- The step is not a loopback scan that a host records. -/
def NoLoopbackScan (system : System) (input : Env × Event) : Prop :=
  ∀ srcIp payload, input.2 = .frame srcIp payload →
    ¬ system.control.LoopbackScan srcIp payload

/-- Every step but a recorded loopback scan keeps both properties. -/
theorem keeps_next (system : System) (input : Env × Event)
    (harmless : NoLoopbackScan system input) :
    TableView.Keeps system.control.tableView
      (machine.next system input).control.tableView := by
  rcases input with ⟨env, event⟩
  cases event with
  | command command =>
      simp only [Machine.next, machine, step]
      cases system.phase with
      | idle => exact keeps_commandStep system.control env command
      | _ => exact .of_eq rfl
  | ipc => exact .of_eq (tableView_ipcStep system env)
  | frame srcIp payload =>
      exact
        system.control.keeps_onControlFrame env srcIp payload
          (harmless srcIp payload rfl)
  | tick => exact system.control.keeps_tick env
  | knownPeer ip => exact .of_eq rfl
  | enterLocalNetworkModePublic =>
      exact
        .of_eq (system.control.tableView_enterLocalNetworkMode env)
  | exitLocalNetworkModePublic =>
      exact
        .of_eq (system.control.tableView_leaveLocalNetworkMode env)

/-- The counts stay within their arrays whatever happens. -/
theorem bounded_next (system : System) (input : Env × Event)
    (bounded : system.control.tableView.Bounded) :
    (machine.next system input).control.tableView.Bounded := by
  rcases input with ⟨env, event⟩
  cases event with
  | frame srcIp payload =>
      exact
        system.control.bounded_onControlFrame env srcIp payload bounded
  | _ =>
      exact
        (keeps_next system _ fun srcIp payload frame => by
          simp at frame).bounded bounded

theorem initial_bounded (mtu : UInt32) :
    (initial mtu).control.tableView.Bounded :=
  ⟨Nat.zero_le _, Nat.zero_le _, (by decide : isLanAddress 0x0A0D2502),
    rfl⟩

theorem initial_peersAway (mtu : UInt32) :
    (initial mtu).control.tableView.PeersAway where
  stations slot active := by
    simp [initial, LdnControl.constructed, LdnControl.tableView] at active
  scanners slot used := by
    simp [initial, LdnControl.constructed, LdnControl.tableView] at used

end System

end SlpClient.Ldn
