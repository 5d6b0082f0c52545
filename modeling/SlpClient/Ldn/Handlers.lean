import SlpClient.Ldn.Control

/-!
# Frame handlers and the periodic tick

The part of `LdnControl` that the relay's run loop drives: `OnControlFrame`
with the six frame handlers, and `Tick`.  Each of them runs as one section
under the lock.
-/

namespace SlpClient.Ldn

open SlpClient.Lib

/-- Lifetime of an entry of the recent-scanner allowlist, 30 s of ticks. -/
def scannerTimeoutTicks : Int := 19200000 * 30

/-- Cadence of `Tick`, 5 s. -/
def relayBeaconIntervalTicks : Int := 19200000 * 5

/-- A peer silent for this long is gone, 30 s. -/
def relayPeerTimeoutTicks : Int := 19200000 * 30

namespace LdnControl

/-! ## Recent scanners -/

/-- The loop of `RecordScanner`: the slot to write. -/
def scannerSlot (control : LdnControl) (now : Int) (srcIp : UInt32) :
    List (Fin 16) → Option (Fin 16) → Fin 16
  | [], free => free.getD 0
  | slot :: rest, free =>
      let entry := control.recentScanners slot
      if entry.used ∧ entry.ip = srcIp then slot
      else if free.isNone ∧
          (¬ entry.used ∨ now - entry.lastTick > scannerTimeoutTicks) then
        control.scannerSlot now srcIp rest (some slot)
      else control.scannerSlot now srcIp rest free

/--
`RecordScanner`.  Refreshing the entry of a known scanner and writing a new
entry store the same three values.
-/
def recordScanner (control : LdnControl) (now : Int) (srcIp : UInt32) :
    LdnControl :=
  { control with
    recentScanners :=
      Function.update control.recentScanners
        (control.scannerSlot now srcIp (List.finRange 16) none)
        ⟨srcIp, now, true⟩ }

/-- `WasRecentScanner`. -/
def wasRecentScanner (control : LdnControl) (now : Int) (srcIp : UInt32) :
    Bool :=
  (List.finRange 16).any fun slot =>
    (control.recentScanners slot).used &&
      (control.recentScanners slot).ip == srcIp &&
      decide
        (now - (control.recentScanners slot).lastTick ≤ scannerTimeoutTicks)

/-! ## Host side -/

def handleScan (control : LdnControl) (env : Env) (srcIp : UInt32) : Step :=
  if control.state ≠ .accessPointCreated then ⟨control, []⟩
  else
    let recorded := control.recordScanner env.now srcIp
    Step.after recorded.buildNetwork.2
      (recorded.sendFrame env srcIp .scanResp
        (NetworkInfo.codec.encode recorded.buildNetwork.1))

/-- The control with another station in a slot. -/
def withStation (control : LdnControl) (slot : Fin 8)
    (station : Station) : LdnControl :=
  { control with stations := Function.update control.stations slot station }

/-- The slot written by an accepted Connect frame. -/
def connectedStation (env : Env) (srcIp : UInt32) (node : NodeInfo)
    (slot : Fin 8) : Station where
  active := true
  connected := true
  srcIp := srcIp
  node :=
    { node with
      ipv4Address := srcIp
      macAddress := fakeMac srcIp
      nodeId := slotNodeId slot
      isConnected := 1 }
  lastSeen := env.now

/-- The slot an accepted Connect frame goes to, if there is one. -/
def connectSlot (control : LdnControl) (srcIp : UInt32) :
    Option (Fin 8) :=
  match control.findStationByIp srcIp with
  | some slot => some slot
  | none =>
      if control.stationCount ≥ stationCountMax then none
      else control.findFreeNodeId

def handleConnect (control : LdnControl) (env : Env) (srcIp : UInt32)
    (body : List UInt8) : Step :=
  if control.state ≠ .accessPointCreated then ⟨control, []⟩
  else if body.length ≠ NodeInfo.codec.size then ⟨control, []⟩
  else if control.wasRecentScanner env.now srcIp = false ∧
      control.findStationByIp srcIp = none then
    ⟨control, []⟩
  else
    let copied : List Effect :=
      [.access (.body body.length) 0 NodeInfo.codec.size]
    match control.connectSlot srcIp with
    | none => ⟨control, copied⟩
    | some slot =>
        Step.after copied
          ((control.withStation slot
            (connectedStation env srcIp (NodeInfo.codec.decode body)
              slot)).updateNodes env)

def handleRelayHeartbeat (control : LdnControl) (env : Env)
    (srcIp : UInt32) (body : List UInt8) : Step :=
  if body.length ≠ RelayHeartbeatPayload.codec.size then ⟨control, []⟩
  else if control.state ≠ .accessPointCreated then ⟨control, []⟩
  else
    let read : List Effect :=
      [.access (.body body.length) 0 RelayHeartbeatPayload.codec.size]
    if (RelayHeartbeatPayload.codec.decode body).bssid ≠
        control.networkInfo.common.bssid then
      ⟨control, read⟩
    else
      match control.findStationByIp srcIp with
      | none => ⟨control, read⟩
      | some slot =>
          ⟨control.withStation slot
              { control.stations slot with lastSeen := env.now },
            read⟩

/-! ## Station side -/

def handleScanResp (control : LdnControl) (srcIp : UInt32)
    (body : List UInt8) : Step :=
  if body.length ≠ NetworkInfo.codec.size then ⟨control, []⟩
  else if srcIp = control.ipv4Address then ⟨control, []⟩
  else
    let info := NetworkInfo.codec.decode body
    let copied : List Effect :=
      [.access (.body body.length) 0 NetworkInfo.codec.size]
    if control.scanFilterLcid ≠ 0 ∧
        info.networkId.intentId.localCommunicationId ≠
          control.scanFilterLcid then
      ⟨control, copied⟩
    else
      match
        (List.finRange 8).find? fun index =>
          decide (index.val < control.scanResultCount.toNat) &&
            (control.scanResults index).common.bssid == info.common.bssid
      with
      | some index =>
          ⟨{ control with
              scanResults := Function.update control.scanResults index info },
            copied ++ [.access .scanResults 0 (index.val + 1)]⟩
      | none =>
          let compared : List Effect :=
            copied ++
              [.access .scanResults 0 control.scanResultCount.toNat]
          if control.scanResultCount.toNat < maxScanResults then
            ⟨{ control with
                scanResults := fun index =>
                  if index.val = control.scanResultCount.toNat then info
                  else control.scanResults index
                scanResultCount := control.scanResultCount + 1 },
              compared ++
                [.access .scanResults control.scanResultCount.toNat 1]⟩
          else ⟨control, compared⟩

/-- The sequence filter drops this sync as stale. -/
def staleSync (control : LdnControl) (relaySeq : UInt16) : Bool :=
  relaySeq != 0 && control.relaySyncSeqValid &&
    decide (control.relaySyncSeq - relaySeq < 256)

/-- The counter that the sequence filter remembers for a sync it lets pass. -/
def noteSyncSeq (control : LdnControl) (relaySeq : UInt16) : LdnControl :=
  if relaySeq ≠ 0 then
    { control with relaySyncSeq := relaySeq, relaySyncSeqValid := true }
  else control

/-- The information of an accepted sync, copied in. -/
def received (control : LdnControl) (env : Env) (info : NetworkInfo) :
    LdnControl :=
  { control with networkInfo := info, hostLastSeen := env.now }

/-- The confirmation loop: does a sync list this console as connected. -/
def confirmSearch (control : LdnControl) (env : Env)
    (info : NetworkInfo) : Bool × List Effect :=
  searchNodes env info (NodeInfo.connectedAs control.ipv4Address) 0
    info.ldn.nodeCount.toNat

/-- Copying an accepted sync in, and the confirmation in `Station`. -/
def applySync (control : LdnControl) (env : Env) (info : NetworkInfo) :
    Step :=
  if control.state = .station then
    if (control.confirmSearch env info).1 then
      ⟨((control.received env info).setState
          .stationConnected).onNetworkInfoChanged,
        (control.confirmSearch env info).2⟩
    else
      ⟨(control.received env info).onNetworkInfoChanged,
        (control.confirmSearch env info).2⟩
  else ⟨(control.received env info).onNetworkInfoChanged, []⟩

section NoteSyncSeq

variable (control : LdnControl) (seq : UInt16)

@[simp]
theorem noteSyncSeq_state :
    (control.noteSyncSeq seq).state = control.state := by
  unfold noteSyncSeq
  split <;> rfl

@[simp]
theorem noteSyncSeq_joinActive :
    (control.noteSyncSeq seq).joinActive = control.joinActive := by
  unfold noteSyncSeq
  split <;> rfl

@[simp]
theorem noteSyncSeq_joinTargetBssid :
    (control.noteSyncSeq seq).joinTargetBssid =
      control.joinTargetBssid := by
  unfold noteSyncSeq
  split <;> rfl

@[simp]
theorem noteSyncSeq_confirmSearch (env : Env) (info : NetworkInfo) :
    (control.noteSyncSeq seq).confirmSearch env info =
      control.confirmSearch env info := by
  unfold noteSyncSeq
  split <;> rfl

end NoteSyncSeq

def handleSyncNetwork (control : LdnControl) (env : Env)
    (body : List UInt8) (relaySeq : UInt16) : Step :=
  if body.length ≠ NetworkInfo.codec.size then ⟨control, []⟩
  else if control.state ≠ .station ∧ control.state ≠ .stationConnected then
    ⟨control, []⟩
  else if control.staleSync relaySeq then ⟨control, []⟩
  else
    let noted := control.noteSyncSeq relaySeq
    let info := NetworkInfo.codec.decode body
    let read : List Effect :=
      [.access (.body body.length) 0 NetworkInfo.codec.size]
    if noted.joinActive ∧ info.common.bssid ≠ noted.joinTargetBssid then
      ⟨noted, read⟩
    else Step.after read (noted.applySync env info)

/-- The join ends: by the host's goodbye, its silence, or a disconnect. -/
def leaveJoin (control : LdnControl) : LdnControl :=
  { control with joinActive := false, relaySyncSeqValid := false }

/-- A connected station loses its host and keeps the reason. -/
def loseHost (control : LdnControl) (reason : UInt32) : LdnControl :=
  ({ control with disconnectReason := reason }.leaveJoin).setState .station

def handleRelayBye (control : LdnControl) (env : Env) (srcIp : UInt32)
    (body : List UInt8) : Step :=
  if body.length ≠ RelayHeartbeatPayload.codec.size then ⟨control, []⟩
  else
    let bye := RelayHeartbeatPayload.codec.decode body
    let read : List Effect :=
      [.access (.body body.length) 0 RelayHeartbeatPayload.codec.size]
    if control.state = .stationConnected then
      if control.joinActive ∧ bye.bssid = control.joinTargetBssid ∧
          bye.ipv4 = (control.networkInfo.ldn.nodes 0).ipv4Address then
        ⟨control.loseHost 3, read⟩
      else ⟨control, read⟩
    else if control.state = .accessPointCreated then
      if bye.bssid ≠ control.networkInfo.common.bssid then ⟨control, read⟩
      else
        match control.findStationByIp srcIp with
        | none => ⟨control, read⟩
        | some slot =>
            Step.after read
              ((control.withStation slot
                (control.stations slot).clear).updateNodes env)
    else ⟨control, []⟩

/-! ## Dispatch -/

/-- The handler of each frame type. -/
def handleFrame (control : LdnControl) (env : Env) (srcIp : UInt32)
    (type : LanPacketType) (body : List UInt8) (seq : UInt16) : Step :=
  match type with
  | .scan => control.handleScan env srcIp
  | .scanResp => control.handleScanResp srcIp body
  | .connect => control.handleConnect env srcIp body
  | .syncNetwork => control.handleSyncNetwork env body seq
  | .relayHeartbeat => control.handleRelayHeartbeat env srcIp body
  | .relayBye => control.handleRelayBye env srcIp body

/-- Bytes of the datagram and of the unpacking buffer touched on the way. -/
def openAccesses (payload : List UInt8) : List Effect :=
  if payload.length < LanPacketHeader.codec.size then []
  else
    .access (.payload payload.length) 0 LanPacketHeader.codec.size ::
      match readHeader payload with
      | none => []
      | some header =>
          .access (.payload payload.length) LanPacketHeader.codec.size
              header.length.toNat ::
            if header.compressed ≠ 0 then
              match
                decompress (wireBody header payload) NetworkInfo.codec.size
              with
              | none => []
              | some body => [.access .decompressed 0 body.length]
            else []

/-- `OnControlFrame`. -/
def onControlFrame (control : LdnControl) (env : Env) (srcIp : UInt32)
    (payload : List UInt8) : Step :=
  locked
    (Step.after (openAccesses payload)
      (match openFrame payload with
      | none => ⟨control, []⟩
      | some (header, body) =>
          match LanPacketType.ofByte header.type with
          | none => ⟨control, []⟩
          | some type =>
              control.handleFrame env srcIp type body header.seq))

/-- Type, body and counter of a datagram that reaches a handler. -/
def openedFrame (payload : List UInt8) :
    Option (LanPacketType × List UInt8 × UInt16) :=
  match openFrame payload with
  | none => none
  | some (header, body) =>
      (LanPacketType.ofByte header.type).map (·, body, header.seq)

/-- A datagram is dropped or dispatched by its type, body and counter. -/
theorem onControlFrame_eq (control : LdnControl) (env : Env)
    (srcIp : UInt32) (payload : List UInt8) :
    control.onControlFrame env srcIp payload =
      locked
        (Step.after (openAccesses payload)
          (match openedFrame payload with
          | none => ⟨control, []⟩
          | some (type, body, seq) =>
              control.handleFrame env srcIp type body seq)) := by
  unfold onControlFrame openedFrame
  cases openFrame payload with
  | none => rfl
  | some opened =>
      rcases opened with ⟨header, body⟩
      cases known : LanPacketType.ofByte header.type <;> simp [known]

/-- A built frame is opened as it was sent. -/
theorem openedFrame_frameBytes (type : LanPacketType) (seq : UInt16)
    (body : List UInt8) (fits : body.length ≤ NetworkInfo.codec.size) :
    openedFrame (frameBytes type seq body) = some (type, body, seq) := by
  rcases openFrame_frameBytes type seq body fits with
    ⟨header, opened, sameType, sameSeq⟩
  simp [openedFrame, opened, sameType, sameSeq]

/-! ## Periodic work -/

/-- A live station whose last sign of life is too old. -/
def silentStation (control : LdnControl) (now : Int) (slot : Fin 8) : Bool :=
  (control.stations slot).live &&
    decide
      (now - (control.stations slot).lastSeen ≥ relayPeerTimeoutTicks)

/-- The reaping loop of `Tick`. -/
def reapStations (control : LdnControl) (now : Int) : LdnControl :=
  { control with
    stations := fun slot =>
      if slot ∈ stationSlots ∧ control.silentStation now slot then
        (control.stations slot).clear
      else control.stations slot }

/-- Where a heartbeat goes: the host, once connected; zero means nowhere. -/
def heartbeatTarget (control : LdnControl) : UInt32 :=
  if control.state = .stationConnected ∧
      control.networkInfo.ldn.nodeCount > 0 then
    (control.networkInfo.ldn.nodes 0).ipv4Address
  else 0

/-- Heartbeat and goodbye body of this console for the network it joined. -/
def relayPayload (control : LdnControl) (bssid : MacAddress) :
    List UInt8 :=
  RelayHeartbeatPayload.codec.encode
    { bssid := bssid, pad := fun _ => 0, ipv4 := control.ipv4Address }

/-- The liveness heartbeat of a station. -/
def sendHeartbeat (control : LdnControl) (env : Env) : Step :=
  if control.joinActive ∧ control.heartbeatTarget ≠ 0 then
    control.sendFrame env control.heartbeatTarget .relayHeartbeat
      (control.relayPayload control.joinTargetBssid)
  else ⟨control, []⟩

/-- A connected station whose host is silent for too long gives up. -/
def dropSilentHost (control : LdnControl) (now : Int) : LdnControl :=
  if control.state = .stationConnected ∧
      now - control.hostLastSeen ≥ relayPeerTimeoutTicks then
    control.loseHost 6
  else control

/-- The cadence starts over. -/
def withBeacon (control : LdnControl) (now : Int) : LdnControl :=
  { control with lastBeacon := now }

def tick (control : LdnControl) (env : Env) : Step :=
  locked
    (if env.now - control.lastBeacon < relayBeaconIntervalTicks then
      ⟨control, []⟩
    else if control.state = .accessPointCreated then
      ((control.withBeacon env.now).reapStations env.now).updateNodes env
    else if control.state = .station ∨
        control.state = .stationConnected then
      ((control.withBeacon env.now).sendHeartbeat env).andThen fun sent =>
        ⟨sent.dropSilentHost env.now, []⟩
    else ⟨control.withBeacon env.now, []⟩)

end LdnControl

end SlpClient.Ldn
