import SlpClient.Ldn.Handlers
import SlpClient.Lib.Machine

/-!
# Commands and the two threads

The commands of `ICommunicationInterface` as the IPC thread runs them, and
the whole system: the IPC thread on one side, the relay's run loop with its
frames and ticks on the other, both working on one `LdnControl`.

Most commands are a single section under the lock.  `Scan` and `Connect`
release it while they wait; each of their sections and each of their unlocked
sends is a step of its own here, so that frames and ticks can come in between.
-/

namespace SlpClient.Ldn

open SlpClient.Lib
open SlpClient.Net

namespace LdnControl

/-! ## Initial state -/

/-- The constructed singleton, with nifm's profile as it stands at boot. -/
def constructed (mtu : UInt32) : LdnControl where
  state := .none
  disconnectReason := 0
  ipv4Address := 0x0A0D2502
  subnetMask := 0xFFFF0000
  networkInfo := .zero
  networkConfig := ⟨⟨0, fun _ => 0, 0, fun _ => 0⟩, 0, 0, 0⟩
  advertiseData _ := 0
  advertiseSize := 0
  stationAcceptPolicy := 0
  selfName _ := 0
  stations _ := ⟨false, false, 0, .zero, 0⟩
  scanFilterLcid := 0
  scanResults _ := .zero
  scanResultCount := 0
  joinActive := false
  joinTargetBssid := .zero
  hostLastSeen := 0
  lastBeacon := 0
  txSeq := 0
  relaySyncSeq := 0
  relaySyncSeqValid := false
  recentScanners _ := ⟨0, 0, false⟩
  prevNodeConnected _ := false
  nodeChanges _ := 0
  localNetworkMode := false
  savedMtu := 0
  nifm := ⟨mtu, 0⟩
  stateEvent := false

/-! ## Local network mode -/

/-- `EnterLocalNetworkMode`: whether it succeeded, and the new state. -/
def enterLocalNetworkMode (control : LdnControl) (env : Env) :
    Bool × LdnControl :=
  if control.localNetworkMode then (true, control)
  else if !env.nifm.getCurrentNetworkProfile then (false, control)
  else
    let saved := { control with savedMtu := control.nifm.mtu }
    if !env.nifm.setNetworkProfile then (false, saved)
    else
      let raised := { saved with nifm := { saved.nifm with mtu := 1500 } }
      if !env.nifm.createRequest then (false, raised)
      else
        let created :=
          { raised with
            nifm :=
              { raised.nifm with requests := raised.nifm.requests + 1 } }
        if !env.nifm.setLocalNetworkMode then (false, created)
        else if !env.nifm.requestSubmitAndWait then (false, created)
        else (true, { created with localNetworkMode := true })

/-- `ExitLocalNetworkMode`. -/
def exitLocalNetworkMode (control : LdnControl) (env : Env) : LdnControl :=
  let closed :=
    { control with
      nifm := { control.nifm with requests := control.nifm.requests - 1 } }
  let restored :=
    if env.nifm.getCurrentNetworkProfile && env.nifm.setNetworkProfile then
      { closed with nifm := { closed.nifm with mtu := closed.savedMtu } }
    else closed
  { restored with localNetworkMode := false }

/-- The mode is left if it was entered. -/
def leaveLocalNetworkMode (control : LdnControl) (env : Env) : LdnControl :=
  if control.localNetworkMode then control.exitLocalNetworkMode env
  else control

/-- Entering the mode touches nothing but the mode and nifm. -/
theorem enterLocalNetworkMode_shape (control : LdnControl) (env : Env) :
    ∃ nifm savedMtu mode,
      (control.enterLocalNetworkMode env).2 =
        { control with
          nifm := nifm
          savedMtu := savedMtu
          localNetworkMode := mode } := by
  unfold enterLocalNetworkMode
  dsimp only
  split_ifs <;> exact ⟨_, _, _, rfl⟩

/-- Nor does leaving it. -/
theorem leaveLocalNetworkMode_shape (control : LdnControl) (env : Env) :
    ∃ nifm mode,
      control.leaveLocalNetworkMode env =
        { control with nifm := nifm, localNetworkMode := mode } := by
  unfold leaveLocalNetworkMode exitLocalNetworkMode
  dsimp only
  split_ifs <;> exact ⟨_, _, rfl⟩

/-! ## Commands of one section -/

/-- A reply after the lock is released. -/
def answer (step : Step) (reply : Reply) : Step :=
  (locked step).followedBy [.reply reply]

/-- A command refused or done without touching anything else. -/
def answerOnly (control : LdnControl) (reply : Reply) : Step :=
  answer ⟨control, []⟩ reply

@[simp]
theorem answer_control (step : Step) (reply : Reply) :
    (answer step reply).control = step.control :=
  rfl

@[simp]
theorem answerOnly_control (control : LdnControl) (reply : Reply) :
    (control.answerOnly reply).control = control :=
  rfl

/-- `Initialize`. -/
def initializeLdn (control : LdnControl) (env : Env) : Step :=
  let parsed := parseIp (virtualIpText env.virtualOctets)
  let addressed :=
    { control with
      ipv4Address := if parsed = 0 then 0x0A0D2502 else parsed
      subnetMask := 0xFFFF0000
      disconnectReason := 0
      scanResultCount := 0
      scanFilterLcid := 0 }
  let reset := addressed.resetStations.initNodeStateChange
  let left := reset.leaveLocalNetworkMode env
  answer ⟨{ left with stateEvent := false }.setState .initialized, []⟩
    (.code .success)

def finalize (control : LdnControl) (env : Env) : Step :=
  let left := control.leaveLocalNetworkMode env
  let cleared :=
    { left with
      scanResultCount := 0
      scanFilterLcid := 0
      joinActive := false
      relaySyncSeqValid := false }
  answer ⟨cleared.resetStations.setState .none, []⟩ (.code .success)

/-- `OpenAccessPoint` and `OpenStation` differ in the state they enter. -/
def openRole (control : LdnControl) (env : Env) (role : CommState) :
    Step :=
  let cleared := { control with disconnectReason := 0 }
  if cleared.state = .none then answerOnly cleared (.code .badState)
  else
    let entered :=
      if cleared.localNetworkMode then cleared
      else (cleared.enterLocalNetworkMode env).2
    answer ⟨entered.resetStations.setState role, []⟩ (.code .success)

def openAccessPoint (control : LdnControl) (env : Env) : Step :=
  control.openRole env .accessPoint

def openStation (control : LdnControl) (env : Env) : Step :=
  control.openRole env .station

/-- `CloseAccessPoint` and `CloseStation` have the same body. -/
def closeRole (control : LdnControl) (env : Env) : Step :=
  if control.state = .none then answerOnly control (.code .badState)
  else
    let left := control.leaveLocalNetworkMode env
    answer ⟨left.resetStations.setState .initialized, []⟩ (.code .success)

def closeAccessPoint (control : LdnControl) (env : Env) : Step :=
  control.closeRole env

def closeStation (control : LdnControl) (env : Env) : Step :=
  control.closeRole env

/-- `FakeSsid` with its terminator. -/
def fakeSsid : Ssid where
  length := 32
  raw index := if index.val = 32 then 0 else UInt8.ofNat (49 + index.val % 8)

/-- The network information that `CreateNetwork` starts from. -/
def createdInfo (control : LdnControl) (env : Env)
    (data : CreateNetworkConfig) : NetworkInfo where
  networkId := ⟨data.networkConfig.intentId, env.randomSessionId⟩
  common :=
    { bssid := fakeMac control.ipv4Address
      ssid := fakeSsid
      channel :=
        if data.networkConfig.channel ≠ 0 then data.networkConfig.channel
        else 6
      linkLevel := 3
      networkType := 2
      unk := 0 }
  ldn :=
    { LdnNetworkInfo.zero with
      unkRandom := env.randomBytes
      securityMode := data.securityConfig.securityMode
      stationAcceptPolicy := 0
      nodeCountMax := data.networkConfig.nodeCountMax }

/-- The fields that `CreateNetwork` writes before it enters its state. -/
def created (control : LdnControl) (env : Env)
    (data : CreateNetworkConfig) : LdnControl :=
  { control with
    networkConfig := data.networkConfig
    stationAcceptPolicy := 0
    networkInfo := control.createdInfo env data
    selfName := copyName data.userConfig.userName
    advertiseSize := 0
    advertiseData := fun _ => 0 }

def createNetwork (control : LdnControl) (env : Env)
    (data : CreateNetworkConfig) : Step :=
  if control.state ≠ .accessPoint then
    answerOnly control (.code .badState)
  else
    answer
      (((control.created env
        data).resetStations.initNodeStateChange.setState
          .accessPointCreated).updateNodes env)
      (.code .success)

def destroyNetwork (control : LdnControl) (env : Env) : Step :=
  let goodbye :=
    if control.stationCount > 0 then
      control.sendFrame env control.subnetBroadcast .relayBye
        (control.relayPayload control.networkInfo.common.bssid)
    else ⟨control, []⟩
  answer
    (goodbye.andThen fun sent =>
      ⟨sent.resetStations.setState .accessPoint, []⟩)
    (.code .success)

/-- The fields that `SetAdvertiseData` writes. -/
def advertised (control : LdnControl) (data : List UInt8) : LdnControl :=
  { control with
    advertiseData := fun index =>
      if inside : index.val < data.length then data[index.val]
      else control.advertiseData index
    advertiseSize := UInt16.ofNat data.length
    networkInfo :=
      { control.networkInfo with
        ldn :=
          { control.networkInfo.ldn with
            advertiseDataSize := UInt16.ofNat data.length } } }

def setAdvertiseData (control : LdnControl) (env : Env)
    (data : List UInt8) : Step :=
  if data.length > advertiseDataSizeMax then
    answerOnly control (.code .advertiseTooLarge)
  else
    answer
      (Step.after [.access .advertiseData 0 data.length]
        ((control.advertised data).updateNodes env))
      (.code .success)

def disconnect (control : LdnControl) (env : Env) : Step :=
  let goodbye :=
    if control.joinActive ∧ control.networkInfo.ldn.nodeCount > 0 then
      control.sendFrame env (control.networkInfo.ldn.nodes 0).ipv4Address
        .relayBye (control.relayPayload control.joinTargetBssid)
    else ⟨control, []⟩
  answer
    (goodbye.andThen fun sent =>
      ⟨sent.leaveJoin.resetStations.setState .station, []⟩)
    (.code .success)

/-! ## Queries -/

/-- Answered only by a host with a network or a connected station. -/
def whenInNetwork (control : LdnControl) (reply : Reply) : Step :=
  if control.state ≠ .accessPointCreated ∧
      control.state ≠ .stationConnected then
    answerOnly control (.code .badState)
  else answerOnly control reply

/-- Such a query changes nothing. -/
theorem whenInNetwork_control (control : LdnControl) (reply : Reply) :
    (control.whenInNetwork reply).control = control := by
  unfold whenInNetwork
  split <;> rfl

def getNetworkInfoLatestUpdate (control : LdnControl) (capacity : Nat) :
    Step :=
  if capacity > nodeCountMax then
    answerOnly control (.code .tooManyUpdates)
  else if control.state ≠ .accessPointCreated ∧
      control.state ≠ .stationConnected then
    answerOnly control (.code .badState)
  else
    answer
      ⟨{ control with
          nodeChanges := fun index =>
            if index.val < capacity then 0 else control.nodeChanges index },
        [.access .nodeChanges 0 capacity,
          .access (.latestUpdates capacity) 0 capacity]⟩
      (.latestUpdate control.networkInfo
        ((List.finRange 8).take capacity |>.map control.nodeChanges))

def securityParameter (control : LdnControl) : SecurityParameter where
  unkRandom := control.networkInfo.ldn.unkRandom
  sessionId := control.networkInfo.networkId.sessionId

def reportedConfig (control : LdnControl) : NetworkConfig where
  intentId := control.networkInfo.networkId.intentId
  channel := control.networkInfo.common.channel
  nodeCountMax := control.networkInfo.ldn.nodeCountMax
  localCommunicationVersion :=
    (control.networkInfo.ldn.nodes 0).localCommunicationVersion

/-! ## Scan -/

/-- The first section of `Scan`. -/
def scanBegin (control : LdnControl) (filter : ScanFilter) : LdnControl :=
  { control with
    scanResultCount := 0
    scanFilterLcid :=
      if filter.flag &&& 1 ≠ 0 then
        filter.networkId.intentId.localCommunicationId
      else 0 }

/-- The filter conditions on one stored result. -/
def matchesFilter (filter : ScanFilter) (info : NetworkInfo) : Bool :=
  (filter.flag &&& 1 == 0 ||
    filter.networkId.intentId.localCommunicationId ==
      info.networkId.intentId.localCommunicationId) &&
  (filter.flag &&& 2 == 0 ||
    filter.networkId.sessionId == info.networkId.sessionId) &&
  (filter.flag &&& 4 == 0 ||
    filter.networkType == info.common.networkType.toUInt32) &&
  (filter.flag &&& 16 == 0 ||
    (filter.ssid.length == info.common.ssid.length &&
      (List.finRange 33).all fun index =>
        decide (filter.ssid.length.toNat ≤ index.val) ||
          filter.ssid.raw index == info.common.ssid.raw index)) &&
  (filter.flag &&& 32 == 0 ||
    filter.networkId.intentId.sceneId == info.networkId.intentId.sceneId)

/-- The bytes compared by the SSID condition. -/
def ssidAccesses (filter : ScanFilter) (info : NetworkInfo) : List Effect :=
  if filter.flag &&& 16 ≠ 0 ∧
      filter.ssid.length = info.common.ssid.length then
    [.access .ssidRaw 0 filter.ssid.length.toNat]
  else []

/-- The collecting loop of `Scan` over the stored results. -/
def collectScan (control : LdnControl) (filter : ScanFilter)
    (capacity : Nat) :
    List (Fin 8) → Nat → List NetworkInfo × List Effect
  | [], _ => ([], [])
  | index :: rest, count =>
      if index.val < control.scanResultCount.toNat ∧ count < capacity then
        let info := control.scanResults index
        let looked : List Effect :=
          .access .scanResults index.val 1 :: ssidAccesses filter info
        if matchesFilter filter info then
          let tail := control.collectScan filter capacity rest (count + 1)
          (info :: tail.1,
            looked ++ .access (.scanOut capacity) count 1 :: tail.2)
        else
          let tail := control.collectScan filter capacity rest count
          (tail.1, looked ++ tail.2)
      else ([], [])

/-- The last section of `Scan`. -/
def scanCollect (control : LdnControl) (filter : ScanFilter)
    (capacity : Nat) : Step :=
  let collected :=
    control.collectScan filter capacity (List.finRange 8) 0
  answer ⟨control, collected.2⟩ (.scan collected.1)

/-! ## Connect -/

/-- The node entry announced in a Connect frame. -/
def joiningNode (control : LdnControl) (dat : ConnectNetworkData) :
    NodeInfo :=
  { NodeInfo.zero with
    ipv4Address := control.ipv4Address
    macAddress := fakeMac control.ipv4Address
    nodeId := 0
    isConnected := 1
    userName := copyName dat.userConfig.userName
    localCommunicationVersion := dat.localCommunicationVersion.toUInt16 }

/-- The first section of `Connect`, once the arguments are accepted. -/
def connectBegin (control : LdnControl) (data : NetworkInfo) : LdnControl :=
  { control with
    scanResultCount := 0
    scanFilterLcid := 0
    joinActive := true
    joinTargetBssid := data.common.bssid }

end LdnControl

/-! ## The two threads -/

/-- Where the IPC thread stands inside `Scan` or `Connect`. -/
inductive IpcPhase where
  | idle
  | scanBroadcast (filter : ScanFilter) (capacity : Nat)
  | scanWait (filter : ScanFilter) (capacity : Nat)
      (iteration : Nat) (lastCount : UInt16) (stable : Nat)
  | scanPoll (filter : ScanFilter) (capacity : Nat)
      (iteration : Nat) (lastCount : UInt16) (stable : Nat)
  | scanCollect (filter : ScanFilter) (capacity : Nat)
  | connectSend (hostIp : UInt32) (my : NodeInfo)
  | connectPoll (hostIp : UInt32) (my : NodeInfo) (iteration : Nat)
  | connectWait (hostIp : UInt32) (my : NodeInfo) (iteration : Nat)
  | connectTimeout
deriving DecidableEq

/-- Commands of `ICommunicationInterface`. -/
inductive Command where
  | getState
  | getNetworkInfo
  | getIpv4Address
  | getDisconnectReason
  | getSecurityParameter
  | getNetworkConfig
  | attachStateChangeEvent
  | getNetworkInfoLatestUpdate (capacity : Nat)
  | scan (filter : ScanFilter) (capacity : Nat)
  | openAccessPoint
  | closeAccessPoint
  | createNetwork (data : CreateNetworkConfig)
  | destroyNetwork
  | setAdvertiseData (data : List UInt8)
  | openStation
  | closeStation
  | connect (dat : ConnectNetworkData) (data : NetworkInfo)
  | disconnect
  | initializeLdn
  | finalize
deriving DecidableEq

/-- What happens next, on either thread. -/
inductive Event where
  | command (command : Command)
  | ipc
  | frame (srcIp : UInt32) (payload : List UInt8)
  | tick
  | knownPeer (ip : UInt32)
  | enterLocalNetworkModePublic
  | exitLocalNetworkModePublic
deriving DecidableEq

/-- The shared object and the position of the IPC thread. -/
structure System where
  control : LdnControl
  phase : IpcPhase
deriving DecidableEq

namespace System

/-- A step of the IPC thread that leaves `phase` as its position. -/
def enter (step : Step) (phase : IpcPhase) : System × List Effect :=
  (⟨step.control, phase⟩, step.effects)

/-- The next thing after the wait of one `Connect` iteration. -/
def afterConnectWait (hostIp : UInt32) (my : NodeInfo)
    (iteration : Nat) : IpcPhase :=
  if iteration + 1 < 300 then .connectPoll hostIp my (iteration + 1)
  else .connectTimeout

/-- One poll of `Scan`: stop when the count is stable, or out of polls. -/
def afterScanPoll (filter : ScanFilter) (capacity iteration : Nat)
    (lastCount current : UInt16) (stable : Nat) : IpcPhase :=
  let settled := current > 0 ∧ current = lastCount
  if settled ∧ stable + 1 ≥ 2 then .scanCollect filter capacity
  else if iteration + 1 < 10 then
    .scanWait filter capacity (iteration + 1) current
      (if settled then stable + 1 else 0)
  else .scanCollect filter capacity

/-- The IPC thread goes on with `Scan` or `Connect`. -/
def ipcStep (system : System) (env : Env) : System × List Effect :=
  let control := system.control
  match system.phase with
  | .idle => (system, [])
  | .scanBroadcast filter capacity =>
      enter (control.sendFrame env control.subnetBroadcast .scan [])
        (.scanWait filter capacity 0 0 0)
  | .scanWait filter capacity iteration lastCount stable =>
      enter
        (if iteration ≠ 0 ∧ iteration % 3 = 0 then
          control.sendFrame env control.subnetBroadcast .scan []
        else ⟨control, []⟩)
        (.scanPoll filter capacity iteration lastCount stable)
  | .scanPoll filter capacity iteration lastCount stable =>
      enter (locked ⟨control, []⟩)
        (afterScanPoll filter capacity iteration lastCount
          control.scanResultCount stable)
  | .scanCollect filter capacity =>
      enter (control.scanCollect filter capacity) .idle
  | .connectSend hostIp my =>
      enter
        (control.sendFrame env hostIp .connect (NodeInfo.codec.encode my))
        (.connectPoll hostIp my 0)
  | .connectPoll hostIp my iteration =>
      if control.state = .stationConnected then
        enter (control.answerOnly (.code .success)) .idle
      else
        enter (locked ⟨control, []⟩) (.connectWait hostIp my iteration)
  | .connectWait hostIp my iteration =>
      enter
        (if iteration % 50 = 49 then
          control.sendFrame env hostIp .connect (NodeInfo.codec.encode my)
        else ⟨control, []⟩)
        (afterConnectWait hostIp my iteration)
  | .connectTimeout =>
      enter
        (LdnControl.answer ⟨control.leaveJoin, []⟩
          (.code .connectFailed))
        .idle

/-- The first section of a command, taken when the IPC thread is idle. -/
def commandStep (control : LdnControl) (env : Env) (command : Command) :
    System × List Effect :=
  match command with
  | .getState => enter (control.answerOnly (.state control.state)) .idle
  | .getNetworkInfo =>
      enter (control.whenInNetwork (.networkInfo control.networkInfo))
        .idle
  | .getIpv4Address =>
      enter
        ((locked ⟨control, []⟩).andThen fun unchanged =>
          unchanged.answerOnly
            (.address control.ipv4Address control.subnetMask))
        .idle
  | .getDisconnectReason =>
      enter
        (control.answerOnly (.disconnectReason control.disconnectReason))
        .idle
  | .getSecurityParameter =>
      enter
        (control.whenInNetwork
          (.securityParameter control.securityParameter)) .idle
  | .getNetworkConfig =>
      enter (control.whenInNetwork (.networkConfig control.reportedConfig))
        .idle
  | .attachStateChangeEvent =>
      enter ⟨control, [.reply .stateChangeEvent]⟩ .idle
  | .getNetworkInfoLatestUpdate capacity =>
      enter (control.getNetworkInfoLatestUpdate capacity) .idle
  | .scan filter capacity =>
      if control.state = .none ∨ control.state = .error then
        enter (control.answerOnly (.code .badState)) .idle
      else
        enter (locked ⟨control.scanBegin filter, []⟩)
          (.scanBroadcast filter (min capacity 65535))
  | .openAccessPoint => enter (control.openAccessPoint env) .idle
  | .closeAccessPoint => enter (control.closeAccessPoint env) .idle
  | .createNetwork data => enter (control.createNetwork env data) .idle
  | .destroyNetwork => enter (control.destroyNetwork env) .idle
  | .setAdvertiseData data =>
      enter (control.setAdvertiseData env data) .idle
  | .openStation => enter (control.openStation env) .idle
  | .closeStation => enter (control.closeStation env) .idle
  | .connect dat data =>
      if control.state = .none then
        enter (control.answerOnly (.code .badState)) .idle
      else if data.ldn.nodeCount = 0 then
        enter (control.answerOnly (.code .noNodes)) .idle
      else
        enter (locked ⟨control.connectBegin data, []⟩)
          (.connectSend (data.ldn.nodes 0).ipv4Address
            (control.joiningNode dat))
  | .disconnect => enter (control.disconnect env) .idle
  | .initializeLdn => enter (control.initializeLdn env) .idle
  | .finalize => enter (control.finalize env) .idle

/-- One step of either thread; a busy IPC thread takes no command. -/
def step (system : System) (input : Env × Event) :
    System × List Effect :=
  let control := system.control
  let env := input.1
  match input.2 with
  | .command command =>
      match system.phase with
      | .idle => commandStep control env command
      | _ => (system, [])
  | .ipc => system.ipcStep env
  | .frame srcIp payload =>
      enter (control.onControlFrame env srcIp payload) system.phase
  | .tick => enter (control.tick env) system.phase
  | .knownPeer ip =>
      (system, (control.isKnownSessionPeerPublic env ip).2)
  | .enterLocalNetworkModePublic =>
      enter (locked ⟨(control.enterLocalNetworkMode env).2, []⟩)
        system.phase
  | .exitLocalNetworkModePublic =>
      enter (locked ⟨control.leaveLocalNetworkMode env, []⟩) system.phase

/-- The system as a machine over environments and events. -/
def machine : Machine System (Env × Event) (List Effect) :=
  ⟨step⟩

/-- The system before anything happened. -/
def initial (mtu : UInt32) : System :=
  ⟨LdnControl.constructed mtu, .idle⟩

end System

end SlpClient.Ldn
