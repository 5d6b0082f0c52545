import SlpClient.Lib.KeyedTable
import SlpClient.Ldn.Transitions

/-!
# The table of scan answers

While the IPC thread waits inside `Scan`, the other thread collects the
answers of the rooms.  `ScanView` keeps the fields concerned.  No step but a
scan response touches them during a scan, and a scan response stores its
network in the table of eight rooms, one for each BSSID, if it has the local
communication id of the scan.
-/

namespace SlpClient.Ldn

open SlpClient.Lib

/-- The own address and what is kept for the scan in progress. -/
structure ScanView where
  address : UInt32
  lcid : UInt64
  results : Fin 8 → NetworkInfo
  count : UInt16

/-- The BSSID of a network. -/
def NetworkInfo.bssid (info : NetworkInfo) : MacAddress :=
  info.common.bssid

/-- The receive path lets a network pass: `m_scan_filter_lcid`, 0 for all. -/
def passesLcid (lcid : UInt64) (info : NetworkInfo) : Bool :=
  lcid == 0 || info.networkId.intentId.localCommunicationId == lcid

/-- The networks that are stored. -/
def ScanView.table (view : ScanView) : List NetworkInfo :=
  KeyedTable.contents view.results view.count.toNat

namespace LdnControl

def scanView (control : LdnControl) : ScanView where
  address := control.ipv4Address
  lcid := control.scanFilterLcid
  results := control.scanResults
  count := control.scanResultCount

/-! ## What lets the table be -/

@[simp]
theorem scanView_setState (control : LdnControl) (state : CommState) :
    (control.setState state).scanView = control.scanView := by
  unfold setState
  split <;> rfl

@[simp]
theorem scanView_sendFrame (control : LdnControl) (env : Env)
    (dst : UInt32) (type : LanPacketType) (body : List UInt8) :
    (control.sendFrame env dst type body).control.scanView =
      control.scanView := by
  rw [sendFrame_control]
  rfl

@[simp]
theorem scanView_updateNodes (control : LdnControl) (env : Env) :
    (control.updateNodes env).control.scanView = control.scanView := by
  rw [updateNodes_control]
  rfl

@[simp]
theorem scanView_noteSyncSeq (control : LdnControl) (seq : UInt16) :
    (control.noteSyncSeq seq).scanView = control.scanView := by
  unfold noteSyncSeq
  split <;> rfl

@[simp]
theorem scanView_loseHost (control : LdnControl) (reason : UInt32) :
    (control.loseHost reason).scanView = control.scanView := by
  unfold loseHost
  rw [scanView_setState]
  rfl

@[simp]
theorem scanView_applySync (control : LdnControl) (env : Env)
    (info : NetworkInfo) :
    (control.applySync env info).control.scanView = control.scanView := by
  unfold applySync
  split_ifs
  · exact (control.received env info).scanView_setState .stationConnected
  · rfl
  · rfl

theorem scanView_enterLocalNetworkMode (control : LdnControl) (env : Env) :
    (control.enterLocalNetworkMode env).2.scanView = control.scanView := by
  rcases control.enterLocalNetworkMode_shape env with
    ⟨nifm, savedMtu, mode, shape⟩
  rw [shape]
  rfl

theorem scanView_leaveLocalNetworkMode (control : LdnControl) (env : Env) :
    (control.leaveLocalNetworkMode env).scanView = control.scanView := by
  rcases control.leaveLocalNetworkMode_shape env with ⟨nifm, mode, shape⟩
  rw [shape]
  rfl

theorem scanView_handleScan (control : LdnControl) (env : Env)
    (srcIp : UInt32) :
    (control.handleScan env srcIp).control.scanView = control.scanView := by
  unfold handleScan
  split
  · rfl
  · rw [Step.after_control, scanView_sendFrame]
    rfl

theorem scanView_handleConnect (control : LdnControl) (env : Env)
    (srcIp : UInt32) (body : List UInt8) :
    (control.handleConnect env srcIp body).control.scanView =
      control.scanView := by
  unfold handleConnect
  dsimp only
  split_ifs
  · rfl
  · rfl
  · rfl
  · split
    · rfl
    · rw [Step.after_control, scanView_updateNodes]
      rfl

theorem scanView_handleSyncNetwork (control : LdnControl) (env : Env)
    (body : List UInt8) (seq : UInt16) :
    (control.handleSyncNetwork env body seq).control.scanView =
      control.scanView := by
  unfold handleSyncNetwork
  dsimp only
  split_ifs
  · rfl
  · rfl
  · rfl
  · rw [scanView_noteSyncSeq]
  · rw [Step.after_control, scanView_applySync, scanView_noteSyncSeq]

theorem scanView_handleRelayHeartbeat (control : LdnControl) (env : Env)
    (srcIp : UInt32) (body : List UInt8) :
    (control.handleRelayHeartbeat env srcIp body).control.scanView =
      control.scanView := by
  unfold handleRelayHeartbeat
  dsimp only
  split_ifs
  · rfl
  · rfl
  · rfl
  · split <;> rfl

theorem scanView_handleRelayBye (control : LdnControl) (env : Env)
    (srcIp : UInt32) (body : List UInt8) :
    (control.handleRelayBye env srcIp body).control.scanView =
      control.scanView := by
  unfold handleRelayBye
  dsimp only
  split_ifs
  · rfl
  · rw [scanView_loseHost]
  · rfl
  · rfl
  · split
    · rfl
    · rw [Step.after_control, scanView_updateNodes]
      rfl
  · rfl

theorem scanView_tick (control : LdnControl) (env : Env) :
    (control.tick env).control.scanView = control.scanView := by
  have beacon :
      ((control.withBeacon env.now).sendHeartbeat env).control.scanView =
        control.scanView := by
    unfold sendHeartbeat
    split
    · rw [scanView_sendFrame]
      rfl
    · rfl
  unfold tick
  rw [locked_control]
  split_ifs
  · rfl
  · rw [scanView_updateNodes]
    rfl
  · rw [Step.andThen_control]
    unfold dropSilentHost
    split
    · rw [scanView_loseHost, beacon]
    · exact beacon
  · rfl

end LdnControl

/-! ## Answers -/

/-- The network that a scan response of another console carries. -/
def scanAnswer (own srcIp : UInt32) (body : List UInt8) :
    Option NetworkInfo :=
  if body.length = NetworkInfo.codec.size ∧ srcIp ≠ own then
    some (NetworkInfo.codec.decode body)
  else none

/--
The view belongs to a scan with this local communication id that has heard
these answers.
-/
structure ScanView.Heard (view : ScanView) (own : UInt32) (lcid : UInt64)
    (heard : List NetworkInfo) : Prop where
  address : view.address = own
  scanning : view.lcid = lcid
  bounded : view.count.toNat ≤ 8
  table :
    view.table =
      KeyedTable.stored NetworkInfo.bssid 8
        (heard.filter (passesLcid lcid))

/-- Nothing is heard. -/
theorem ScanView.Heard.nothing {view : ScanView} {own : UInt32}
    {lcid : UInt64} {heard : List NetworkInfo}
    (holds : view.Heard own lcid heard) :
    view.Heard own lcid (heard ++ (none : Option NetworkInfo).toList) := by
  rw [Option.toList_none, List.append_nil]
  exact holds

/-- An answer with another local communication id is not stored. -/
theorem ScanView.Heard.stopped {view : ScanView} {own : UInt32}
    {lcid : UInt64} {heard : List NetworkInfo} {info : NetworkInfo}
    (holds : view.Heard own lcid heard)
    (stops : passesLcid lcid info = false) :
    view.Heard own lcid (heard ++ (some info).toList) where
  address := holds.address
  scanning := holds.scanning
  bounded := holds.bounded
  table := by
    rw [holds.table, Option.toList_some, List.filter_append,
      List.filter_cons_of_neg (by rw [stops]; exact Bool.false_ne_true)]
    exact congrArg _ (List.append_nil _).symm

/-- Any other answer is stored. -/
theorem ScanView.Heard.passed {view after : ScanView} {own : UInt32}
    {lcid : UInt64} {heard : List NetworkInfo} {info : NetworkInfo}
    (holds : view.Heard own lcid heard)
    (passes : passesLcid lcid info = true)
    (sameAddress : after.address = view.address)
    (sameLcid : after.lcid = view.lcid) (bounded : after.count.toNat ≤ 8)
    (storing :
      after.table =
        KeyedTable.store NetworkInfo.bssid 8 view.table info) :
    after.Heard own lcid (heard ++ (some info).toList) where
  address := sameAddress.trans holds.address
  scanning := sameLcid.trans holds.scanning
  bounded := bounded
  table := by
    rw [storing, holds.table, Option.toList_some, List.filter_append,
      List.filter_cons_of_pos passes, List.filter_nil,
      KeyedTable.stored_concat]

namespace LdnControl

/-- The slot of a network in the table. -/
def scanSlot (control : LdnControl) (info : NetworkInfo) :
    Option (Fin 8) :=
  (List.finRange 8).find? fun index =>
    decide (index.val < control.scanResultCount.toNat) &&
      (control.scanResults index).common.bssid == info.common.bssid

/-- The control with a network stored in its slot, or in a new one. -/
def collected (control : LdnControl) (info : NetworkInfo) : LdnControl :=
  match control.scanSlot info with
  | some index =>
      { control with
        scanResults := Function.update control.scanResults index info }
  | none =>
      if control.scanResultCount.toNat < maxScanResults then
        { control with
          scanResults := fun index =>
            if index.val = control.scanResultCount.toNat then info
            else control.scanResults index
          scanResultCount := control.scanResultCount + 1 }
      else control

/-- A scan response is ignored or collected. -/
theorem handleScanResp_eq (control : LdnControl) (srcIp : UInt32)
    (body : List UInt8) :
    (control.handleScanResp srcIp body).control =
      match
        (scanAnswer control.ipv4Address srcIp body).filter
          (passesLcid control.scanFilterLcid)
      with
      | none => control
      | some info => control.collected info := by
  unfold handleScanResp scanAnswer
  by_cases length : body.length = NetworkInfo.codec.size
  · by_cases source : srcIp = control.ipv4Address
    · rw [if_neg (not_not.mpr length), if_pos source,
        if_neg fun both => both.2 source]
      rfl
    · have answers :
          body.length = NetworkInfo.codec.size ∧
            srcIp ≠ control.ipv4Address :=
        ⟨length, source⟩
      rw [if_neg (not_not.mpr length), if_neg source, if_pos answers,
        Option.filter_some]
      dsimp only
      cases passes :
          passesLcid control.scanFilterLcid
            (NetworkInfo.codec.decode body) with
      | false =>
          rw [if_pos (by simpa [passesLcid] using passes)]
          rfl
      | true =>
          rw [if_neg (by simpa [passesLcid, or_iff_not_imp_left] using passes)]
          show _ = control.collected (NetworkInfo.codec.decode body)
          unfold collected
          cases found :
              control.scanSlot (NetworkInfo.codec.decode body) with
          | some index =>
              unfold scanSlot at found
              rw [found]
          | none =>
              unfold scanSlot at found
              rw [found]
              dsimp only
              split <;> rfl
  · rw [if_pos length, if_neg fun both => length both.1]
    rfl

/-- Collecting a network leaves the scan as it is. -/
theorem collected_keeps (control : LdnControl) (info : NetworkInfo) :
    (control.collected info).scanView.address =
        control.scanView.address ∧
      (control.collected info).scanView.lcid = control.scanView.lcid := by
  unfold collected
  split
  · exact ⟨rfl, rfl⟩
  · split <;> exact ⟨rfl, rfl⟩

/-- A network has a slot when its bssid is in the table. -/
theorem mem_table_iff_scanSlot (control : LdnControl)
    (info : NetworkInfo) :
    NetworkInfo.bssid info ∈
        control.scanView.table.map NetworkInfo.bssid ↔
      control.scanSlot info ≠ none := by
  rw [List.mem_map, ← Option.isSome_iff_ne_none, scanSlot,
    List.find?_isSome]
  constructor
  · rintro ⟨other, member, same⟩
    rcases KeyedTable.mem_contents.mp member with ⟨index, inside, rfl⟩
    refine ⟨index, List.mem_finRange index, ?_⟩
    rw [Bool.and_eq_true, decide_eq_true_eq, beq_iff_eq]
    exact ⟨inside, same⟩
  · rintro ⟨index, -, here⟩
    rw [Bool.and_eq_true, decide_eq_true_eq, beq_iff_eq] at here
    exact
      ⟨_, KeyedTable.mem_contents.mpr ⟨index, here.1, rfl⟩, here.2⟩

/-- Collecting a network stores it in the table. -/
theorem table_collected {control : LdnControl} (info : NetworkInfo)
    (bounded : control.scanResultCount.toNat ≤ 8)
    (distinct :
      (control.scanView.table.map NetworkInfo.bssid).Nodup) :
    (control.collected info).scanView.count.toNat ≤ 8 ∧
      (control.collected info).scanView.table =
        KeyedTable.store NetworkInfo.bssid 8 control.scanView.table
          info := by
  have size : control.scanView.table.length = control.scanResultCount.toNat :=
    KeyedTable.length_contents bounded
  have placed := control.mem_table_iff_scanSlot info
  unfold collected KeyedTable.store
  rw [size]
  cases found : control.scanSlot info with
  | some index =>
      have here := List.find?_some found
      rw [Bool.and_eq_true, decide_eq_true_eq, beq_iff_eq] at here
      rw [found] at placed
      rw [if_pos (placed.mpr (Option.some_ne_none index))]
      refine ⟨bounded, ?_⟩
      exact KeyedTable.contents_update distinct here.1 here.2
  | none =>
      rw [found] at placed
      rw [if_neg fun member => placed.mp member rfl]
      dsimp only
      by_cases room : control.scanResultCount.toNat < maxScanResults
      · have more :
            (control.scanResultCount + 1).toNat =
              control.scanResultCount.toNat + 1 := by
          unfold maxScanResults at room
          rw [UInt16.toNat_add, UInt16.toNat_one]
          omega
        rw [if_pos room, if_pos (show _ < 8 from room)]
        constructor
        · show (control.scanResultCount + 1).toNat ≤ 8
          rw [more]
          exact room
        · show KeyedTable.contents _ (control.scanResultCount + 1).toNat = _
          rw [more]
          exact KeyedTable.contents_append room info
      · rw [if_neg room, if_neg (show ¬ _ < 8 from room)]
        exact ⟨bounded, rfl⟩

/-- What a scan response does to the view. -/
theorem heard_handleScanResp {control : LdnControl} {own : UInt32}
    {lcid : UInt64} {heard : List NetworkInfo}
    (holds : control.scanView.Heard own lcid heard) (srcIp : UInt32)
    (body : List UInt8) :
    (control.handleScanResp srcIp body).control.scanView.Heard own lcid
      (heard ++ (scanAnswer own srcIp body).toList) := by
  have address : control.ipv4Address = own := holds.address
  have scanning : control.scanFilterLcid = lcid := holds.scanning
  rw [handleScanResp_eq, address, scanning]
  cases scanAnswer own srcIp body with
  | none => exact holds.nothing
  | some info =>
      rw [Option.filter_some]
      cases passes : passesLcid lcid info with
      | false => exact holds.stopped passes
      | true =>
          have distinct :
              (control.scanView.table.map NetworkInfo.bssid).Nodup := by
            rw [holds.table]
            exact KeyedTable.nodup_stored 8 _
          have storing := table_collected info holds.bounded distinct
          have kept := control.collected_keeps info
          exact holds.passed passes kept.1 kept.2 storing.1 storing.2

end LdnControl

/-! ## During a scan -/

/-- The network that a step brings, if it handles an answer to a scan. -/
def Event.scanAnswer (own : UInt32) : Event → Option NetworkInfo
  | .frame srcIp payload =>
      match LdnControl.openedFrame payload with
      | some (.scanResp, body, _) => Ldn.scanAnswer own srcIp body
      | _ => none
  | _ => none

/-- What it takes for a step to bring a network. -/
theorem Event.scanAnswer_eq_some {own : UInt32} {event : Event}
    {info : NetworkInfo} (answers : event.scanAnswer own = some info) :
    ∃ srcIp payload body seq,
      event = .frame srcIp payload ∧
        LdnControl.openedFrame payload = some (.scanResp, body, seq) ∧
        body = NetworkInfo.codec.encode info ∧ srcIp ≠ own := by
  unfold scanAnswer at answers
  split at answers
  · rename_i srcIp payload
    split at answers
    · rename_i body seq opened
      unfold Ldn.scanAnswer at answers
      split at answers
      · rename_i accepted
        refine ⟨srcIp, payload, body, seq, rfl, opened, ?_, accepted.2⟩
        rw [← Option.some_inj.mp answers]
        exact (NetworkInfo.codec.encode_decode body accepted.1).symm
      · exact absurd answers.symm (Option.some_ne_none _)
    · exact absurd answers.symm (Option.some_ne_none _)
  · exact absurd answers.symm (Option.some_ne_none _)

/-- The answer that a room sends is heard by any other console. -/
theorem Event.scanAnswer_frameBytes {own srcIp : UInt32}
    (foreign : srcIp ≠ own) (seq : UInt16) (info : NetworkInfo) :
    (Event.frame srcIp
        (frameBytes .scanResp seq
          (NetworkInfo.codec.encode info))).scanAnswer own =
      some info := by
  have length := NetworkInfo.codec.encode_length info
  unfold scanAnswer
  dsimp only
  rw [LdnControl.openedFrame_frameBytes .scanResp seq _ length.le]
  show Ldn.scanAnswer own srcIp (NetworkInfo.codec.encode info) = _
  rw [Ldn.scanAnswer, if_pos ⟨length, foreign⟩,
    NetworkInfo.codec.decode_encode]

/-- What a datagram does to the view. -/
theorem LdnControl.heard_onControlFrame {control : LdnControl}
    {own : UInt32} {lcid : UInt64} {heard : List NetworkInfo}
    (holds : control.scanView.Heard own lcid heard) (env : Env)
    (srcIp : UInt32) (payload : List UInt8) :
    (control.onControlFrame env srcIp payload).control.scanView.Heard own
      lcid
      (heard ++ ((Event.frame srcIp payload).scanAnswer own).toList) := by
  have unheard {after : LdnControl}
      (same : after.scanView = control.scanView) :
      after.scanView.Heard own lcid
        (heard ++ (none : Option NetworkInfo).toList) := by
    rw [same]
    exact holds.nothing
  rw [onControlFrame_eq, locked_control, Step.after_control]
  unfold Event.scanAnswer
  dsimp only
  cases openedFrame payload with
  | none => exact unheard rfl
  | some opened =>
      rcases opened with ⟨type, body, seq⟩
      cases type with
      | scan => exact unheard (control.scanView_handleScan ..)
      | scanResp => exact heard_handleScanResp holds srcIp body
      | connect => exact unheard (control.scanView_handleConnect ..)
      | syncNetwork =>
          exact unheard (control.scanView_handleSyncNetwork ..)
      | relayHeartbeat =>
          exact unheard (control.scanView_handleRelayHeartbeat ..)
      | relayBye => exact unheard (control.scanView_handleRelayBye ..)

namespace System

/-- A position inside a `Scan` with these arguments. -/
def InScan (filter : ScanFilter) (capacity : Nat) : IpcPhase → Prop
  | .scanBroadcast other bound => other = filter ∧ bound = capacity
  | .scanWait other bound _ _ _ => other = filter ∧ bound = capacity
  | .scanPoll other bound _ _ _ => other = filter ∧ bound = capacity
  | .scanCollect other bound => other = filter ∧ bound = capacity
  | _ => False

/-- The IPC thread is inside a command. -/
def Busy (system : System) : Prop :=
  system.phase ≠ .idle

instance decidableBusy : DecidablePred Busy :=
  fun system => inferInstanceAs (Decidable (system.phase ≠ .idle))

theorem InScan.busy {filter : ScanFilter} {capacity : Nat}
    {system : System} (position : InScan filter capacity system.phase) :
    system.Busy := by
  intro idle
  rw [idle] at position
  exact position

/-- The local communication id that a scan lets pass. -/
def scanLcid (filter : ScanFilter) : UInt64 :=
  if filter.flag &&& 1 ≠ 0 then
    filter.networkId.intentId.localCommunicationId
  else 0

/-- A scan is under way and has heard these answers. -/
structure Scanning (filter : ScanFilter) (capacity : Nat) (own : UInt32)
    (heard : List NetworkInfo) (system : System) : Prop where
  position : InScan filter capacity system.phase
  view : system.control.scanView.Heard own (scanLcid filter) heard

/-- A step inside of `Scan` that does not end it. -/
theorem ipcStep_inScan {filter : ScanFilter} {capacity : Nat}
    {system : System} (env : Env)
    (position : InScan filter capacity system.phase)
    (busy : (system.ipcStep env).1.Busy) :
    InScan filter capacity (system.ipcStep env).1.phase ∧
      (system.ipcStep env).1.control.scanView =
        system.control.scanView := by
  unfold ipcStep at busy ⊢
  cases located : system.phase with
  | scanBroadcast other bound =>
      rw [located] at position
      exact ⟨position, LdnControl.scanView_sendFrame ..⟩
  | scanWait other bound iteration lastCount stable =>
      rw [located] at position
      refine ⟨position, ?_⟩
      show LdnControl.scanView (Step.control (ite _ _ _)) = _
      split
      · exact LdnControl.scanView_sendFrame ..
      · rfl
  | scanPoll other bound iteration lastCount stable =>
      rw [located] at position
      refine ⟨?_, rfl⟩
      show InScan filter capacity (afterScanPoll ..)
      unfold afterScanPoll
      dsimp only
      split_ifs <;> exact position
  | scanCollect other bound =>
      rw [located] at busy
      exact absurd rfl busy
  | _ =>
      rw [located] at position
      exact position.elim

/-- A step during a scan that does not end it. -/
theorem scanning_next {filter : ScanFilter} {capacity : Nat}
    {own : UInt32} {heard : List NetworkInfo} {system : System}
    (scanning : Scanning filter capacity own heard system)
    (input : Env × Event) (busy : (machine.next system input).Busy) :
    Scanning filter capacity own
      (heard ++ (input.2.scanAnswer own).toList)
      (machine.next system input) := by
  have inside : system.phase ≠ .idle := scanning.position.busy
  have unheard {after : System}
      (position : InScan filter capacity after.phase)
      (same : after.control.scanView = system.control.scanView) :
      Scanning filter capacity own
        (heard ++ (none : Option NetworkInfo).toList) after := by
    refine ⟨position, ?_⟩
    rw [same]
    exact scanning.view.nothing
  rcases input with ⟨env, event⟩
  cases event with
  | command command =>
      have refused : machine.next system (env, .command command) = system :=
        congrArg Prod.fst (next_command_busy env command inside)
      rw [refused]
      exact unheard scanning.position rfl
  | ipc =>
      have after := ipcStep_inScan env scanning.position busy
      exact unheard after.1 after.2
  | frame srcIp payload =>
      exact
        ⟨scanning.position,
          LdnControl.heard_onControlFrame scanning.view env srcIp payload⟩
  | tick =>
      exact
        unheard scanning.position (system.control.scanView_tick env)
  | knownPeer ip => exact unheard scanning.position rfl
  | enterLocalNetworkModePublic =>
      exact
        unheard scanning.position
          (system.control.scanView_enterLocalNetworkMode env)
  | exitLocalNetworkModePublic =>
      exact
        unheard scanning.position
          (system.control.scanView_leaveLocalNetworkMode env)

end System

end SlpClient.Ldn
