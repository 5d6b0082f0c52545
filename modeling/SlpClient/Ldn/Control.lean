import SlpClient.Ldn.Frames
import SlpClient.Net.Address

/-!
# The LDN control plane

`LdnControl` of `ldn_control.cpp`: its state, the helpers shared by the frame
handlers and the commands, and the transport.  Every operation returns the
new state together with the effects that matter outside of it: acquiring and
releasing `m_mutex`, the frames sent, the array elements touched at an index
that depends on data, and the reply of a command.

Arrays indexed by constants are functions on `Fin`, so an access to them
cannot be out of bounds; only data-dependent accesses are recorded.  Reading
`nodes` beyond its last entry yields whatever lies in memory there, which is
part of the environment.
-/

namespace SlpClient.Ldn

open SlpClient.Lib
open SlpClient.Net

/-! ## State -/

/-- A slot of the host's station table. -/
structure Station where
  active : Bool
  connected : Bool
  srcIp : UInt32
  node : NodeInfo
  lastSeen : Int
deriving DecidableEq

/-- Both flags set: the slot counts as a member of the room. -/
def Station.live (station : Station) : Bool :=
  station.active && station.connected

/-- The slot after `ResetStations`, a goodbye or a reap. -/
def Station.clear (station : Station) : Station :=
  { station with active := false, connected := false, node := .zero }

/-- An entry of the recent-scanner allowlist. -/
structure ScannerEntry where
  ip : UInt32
  lastTick : Int
  used : Bool
deriving DecidableEq

/-- What the control plane drives of the nifm service. -/
structure Nifm where
  mtu : UInt32
  /-- Requests created and not closed. -/
  requests : Nat
deriving DecidableEq

structure LdnControl where
  state : CommState
  disconnectReason : UInt32
  ipv4Address : UInt32
  subnetMask : UInt32
  networkInfo : NetworkInfo
  networkConfig : NetworkConfig
  advertiseData : Fin 384 → UInt8
  advertiseSize : UInt16
  stationAcceptPolicy : UInt8
  selfName : Fin 33 → UInt8
  stations : Fin 8 → Station
  scanFilterLcid : UInt64
  scanResults : Fin 8 → NetworkInfo
  scanResultCount : UInt16
  joinActive : Bool
  joinTargetBssid : MacAddress
  hostLastSeen : Int
  lastBeacon : Int
  txSeq : UInt16
  relaySyncSeq : UInt16
  relaySyncSeqValid : Bool
  recentScanners : Fin 16 → ScannerEntry
  prevNodeConnected : Fin 8 → Bool
  nodeChanges : Fin 8 → UInt8
  localNetworkMode : Bool
  savedMtu : UInt32
  nifm : Nifm
  /-- The state change event is signalled. -/
  stateEvent : Bool
deriving DecidableEq

/-- Answers of the nifm service to the calls of one operation. -/
structure NifmReplies where
  getCurrentNetworkProfile : Bool
  setNetworkProfile : Bool
  createRequest : Bool
  setLocalNetworkMode : Bool
  requestSubmitAndWait : Bool
deriving DecidableEq

/-- Everything an operation reads from outside of `LdnControl`. -/
structure Env where
  /-- System tick, 19.2 MHz. -/
  now : Int
  /-- The runtime state is `SLPCFG_STATE_RUNNING`. -/
  running : Bool
  /-- The relay client has an open socket. -/
  clientOpen : Bool
  /-- Low octets of the virtual address that `GetVirtualIp` reports. -/
  virtualOctets : UInt8 × UInt8
  /-- Random bytes drawn by `CreateNetwork`. -/
  randomSessionId : SessionId
  randomBytes : Fin 16 → UInt8
  nifm : NifmReplies
  /-- Memory behind the node table, read as node entries. -/
  beyondNodes : Nat → NodeInfo

/-- A running console on which every nifm call succeeds, at a given tick. -/
def Env.at (now : Int) : Env where
  now := now
  running := true
  clientOpen := true
  virtualOctets := (37, 2)
  randomSessionId := ⟨1, 2⟩
  randomBytes _ := 0
  nifm := ⟨true, true, true, true, true⟩
  beyondNodes _ := .zero

/-! ## Effects -/

/-- The arrays that are accessed at an index or up to a length from data. -/
inductive ArrayRef where
  | payload (length : Nat)
  | body (length : Nat)
  | decompressed
  | sendBuffer
  | nodes
  | ssidRaw
  | advertiseData
  | scanResults
  | scanOut (capacity : Nat)
  | nodeChanges
  | latestUpdates (capacity : Nat)
deriving DecidableEq

/-- Number of elements of each array. -/
def ArrayRef.size : ArrayRef → Nat
  | payload length => length
  | body length => length
  | decompressed => NetworkInfo.codec.size
  | sendBuffer => LanPacketHeader.codec.size + NetworkInfo.codec.size
  | nodes => nodeCountMax
  | ssidRaw => ssidLengthMax + 1
  | advertiseData => advertiseDataSizeMax
  | scanResults => maxScanResults
  | scanOut capacity => capacity
  | nodeChanges => nodeCountMax
  | latestUpdates capacity => capacity

/-- An Atmosphère result code. -/
structure Result where
  module : Nat
  description : Nat
deriving DecidableEq, Repr

namespace Result

def success : Result := ⟨0, 0⟩

/-- `BadState`: 2203-0032. -/
def badState : Result := ⟨0xCB, 32⟩

/-- `ConnectFailed`: 2203-0064. -/
def connectFailed : Result := ⟨0xCB, 64⟩

def advertiseTooLarge : Result := ⟨0xFD, 10⟩

def noNodes : Result := ⟨0xFD, 30⟩

def tooManyUpdates : Result := ⟨0xFD, 50⟩

end Result

/-- What a command answers to the game. -/
inductive Reply where
  | code (result : Result)
  | state (state : CommState)
  | address (ip mask : UInt32)
  | disconnectReason (reason : UInt32)
  | networkInfo (info : NetworkInfo)
  | latestUpdate (info : NetworkInfo) (changes : List UInt8)
  | securityParameter (parameter : SecurityParameter)
  | networkConfig (config : NetworkConfig)
  | stateChangeEvent
  | scan (networks : List NetworkInfo)
deriving DecidableEq

/-- One frame handed to the tunnel. -/
structure Frame where
  dst : UInt32
  type : LanPacketType
  seq : UInt16
  body : List UInt8
deriving DecidableEq

/-- The datagram of a frame. -/
def Frame.bytes (frame : Frame) : List UInt8 :=
  frameBytes frame.type frame.seq frame.body

inductive Effect where
  | lock
  | unlock
  | access (array : ArrayRef) (first count : Nat)
  | send (frame : Frame)
  | reply (reply : Reply)
deriving DecidableEq

/-- The outcome of an operation. -/
structure Step where
  control : LdnControl
  effects : List Effect

namespace Step

/-- Continue with an operation on the new state. -/
def andThen (step : Step) (next : LdnControl → Step) : Step where
  control := (next step.control).control
  effects := step.effects ++ (next step.control).effects

/-- Effects that come before an outcome. -/
def after (effects : List Effect) (step : Step) : Step :=
  { step with effects := effects ++ step.effects }

/-- Effects that come after an outcome. -/
def followedBy (step : Step) (effects : List Effect) : Step :=
  { step with effects := step.effects ++ effects }

@[simp]
theorem andThen_control (step : Step) (next : LdnControl → Step) :
    (step.andThen next).control = (next step.control).control :=
  rfl

@[simp]
theorem andThen_effects (step : Step) (next : LdnControl → Step) :
    (step.andThen next).effects =
      step.effects ++ (next step.control).effects :=
  rfl

@[simp]
theorem after_control (effects : List Effect) (step : Step) :
    (after effects step).control = step.control :=
  rfl

@[simp]
theorem after_effects (effects : List Effect) (step : Step) :
    (after effects step).effects = effects ++ step.effects :=
  rfl

theorem after_after (first second : List Effect) (step : Step) :
    after first (after second step) = after (first ++ second) step := by
  simp [after]

@[simp]
theorem followedBy_effects (step : Step) (effects : List Effect) :
    (step.followedBy effects).effects = step.effects ++ effects :=
  rfl

end Step

/-- A section of code under `std::scoped_lock lk(m_mutex)`. -/
def locked (step : Step) : Step where
  control := step.control
  effects := .lock :: step.effects ++ [.unlock]

@[simp]
theorem locked_control (step : Step) :
    (locked step).control = step.control :=
  rfl

@[simp]
theorem locked_effects (step : Step) :
    (locked step).effects = .lock :: step.effects ++ [.unlock] :=
  rfl

/-! ## Node table -/

/-- `nodes[index]` as the machine reads it, in bounds or not. -/
def nodeAt (env : Env) (info : NetworkInfo) (index : Nat) : NodeInfo :=
  if inside : index < 8 then info.ldn.nodes ⟨index, inside⟩
  else env.beyondNodes index

/--
The loop `for (i = first; i < first + count; i++)` over the node table that
stops at the first entry which `wanted` accepts.
-/
def searchNodes
    (env : Env) (info : NetworkInfo) (wanted : NodeInfo → Bool) :
    Nat → Nat → Bool × List Effect
  | _, 0 => (false, [])
  | first, count + 1 =>
      if wanted (nodeAt env info first) then
        (true, [.access .nodes first 1])
      else
        ((searchNodes env info wanted (first + 1) count).1,
          .access .nodes first 1 ::
            (searchNodes env info wanted (first + 1) count).2)

/-- Searching the node table only reads it. -/
theorem access_of_mem_searchNodes
    {env : Env} {info : NetworkInfo} {wanted : NodeInfo → Bool}
    {first count : Nat} {effect : Effect}
    (member : effect ∈ (searchNodes env info wanted first count).2) :
    ∃ entry, effect = .access .nodes entry 1 := by
  induction count generalizing first with
  | zero => nomatch member
  | succ count induction =>
      unfold searchNodes at member
      split at member
      · exact ⟨first, List.mem_singleton.mp member⟩
      · rcases List.mem_cons.mp member with here | later
        · exact ⟨first, here⟩
        · exact induction later

/-- A connected entry with the given address. -/
def NodeInfo.connectedAs (ip : UInt32) (node : NodeInfo) : Bool :=
  node.isConnected != 0 && node.ipv4Address == ip

namespace LdnControl

/-- `IsKnownSessionPeer`. -/
def isKnownSessionPeer (control : LdnControl) (env : Env) (ip : UInt32) :
    Bool × List Effect :=
  if control.state ≠ .accessPointCreated ∧ control.state ≠ .station ∧
      control.state ≠ .stationConnected then
    (true, [])
  else if ip = control.ipv4Address then (true, [])
  else
    searchNodes env control.networkInfo (NodeInfo.connectedAs ip) 0
      control.networkInfo.ldn.nodeCount.toNat

theorem access_of_mem_isKnownSessionPeer
    {control : LdnControl} {env : Env} {ip : UInt32} {effect : Effect}
    (member : effect ∈ (control.isKnownSessionPeer env ip).2) :
    ∃ entry, effect = .access .nodes entry 1 := by
  unfold isKnownSessionPeer at member
  split_ifs at member
  · nomatch member
  · nomatch member
  · exact access_of_mem_searchNodes member

/-- `IsKnownSessionPeerPublic`, which takes the lock itself. -/
def isKnownSessionPeerPublic
    (control : LdnControl) (env : Env) (ip : UInt32) :
    Bool × List Effect :=
  ((control.isKnownSessionPeer env ip).1,
    .lock :: (control.isKnownSessionPeer env ip).2 ++ [.unlock])

/-! ## Transport -/

/--
What `slp::tun::Send` of a control datagram does to this object.  Only the
loopback branch comes back: `RouteIncomingData` asks for session membership
unless the port is exempt from the filter.
-/
def tunnelSend (control : LdnControl) (env : Env) (dst : UInt32)
    (datagram : List UInt8) : List Effect :=
  if datagram.length > 2000 then []
  else if !env.running then []
  else if !env.clientOpen then []
  else if isLoopback dst then
    if isLanModePort controlPort then []
    else (control.isKnownSessionPeerPublic env dst).2
  else []

/-- Nothing comes back but the query of a loopback datagram. -/
theorem tunnelSend_eq (control : LdnControl) (env : Env) (dst : UInt32)
    (datagram : List UInt8) :
    control.tunnelSend env dst datagram = [] ∨
      control.tunnelSend env dst datagram =
        (control.isKnownSessionPeerPublic env dst).2 := by
  unfold tunnelSend
  split_ifs <;> first | exact .inl rfl | exact .inr rfl

/-- `SendFrame`. -/
def sendFrame (control : LdnControl) (env : Env) (dst : UInt32)
    (type : LanPacketType) (body : List UInt8) : Step :=
  if env.running then
    let stamped := { control with txSeq := nextSeq control.txSeq }
    let frame : Frame := ⟨dst, type, stamped.txSeq, body⟩
    { control := stamped
      effects :=
        .access .sendBuffer 0 frame.bytes.length :: .send frame ::
          stamped.tunnelSend env dst frame.bytes }
  else ⟨control, []⟩

/-- Sending touches nothing but the send counter. -/
theorem sendFrame_control (control : LdnControl) (env : Env) (dst : UInt32)
    (type : LanPacketType) (body : List UInt8) :
    (control.sendFrame env dst type body).control =
      { control with
        txSeq :=
          if env.running then nextSeq control.txSeq else control.txSeq } := by
  unfold sendFrame
  by_cases running : env.running <;> simp [running]

/-! ## Shared helpers -/

/-- `SetState`: signals the event only on a change. -/
def setState (control : LdnControl) (state : CommState) : LdnControl :=
  if control.state ≠ state then
    { control with state := state, stateEvent := true }
  else control

/-- Station slots by node id 1 to 7. -/
def stationSlots : List (Fin 8) := [0, 1, 2, 3, 4, 5, 6]

instance decidableMemStationSlots (slot : Fin 8) :
    Decidable (slot ∈ stationSlots) :=
  inferInstance

/-- The node id of a station slot. -/
def slotNodeId (slot : Fin 8) : UInt8 :=
  UInt8.ofNat (slot.val + 1)

def resetStations (control : LdnControl) : LdnControl :=
  { control with
    stations := fun slot =>
      if slot ∈ stationSlots then (control.stations slot).clear
      else control.stations slot }

def stationCount (control : LdnControl) : Nat :=
  (stationSlots.filter fun slot => (control.stations slot).live).length

def findFreeNodeId (control : LdnControl) : Option (Fin 8) :=
  stationSlots.find? fun slot => !(control.stations slot).active

def findStationByIp (control : LdnControl) (srcIp : UInt32) :
    Option (Fin 8) :=
  stationSlots.find? fun slot =>
    (control.stations slot).active && (control.stations slot).srcIp == srcIp

def subnetBroadcast (control : LdnControl) : UInt32 :=
  control.ipv4Address ||| ~~~control.subnetMask

def initNodeStateChange (control : LdnControl) : LdnControl :=
  { control with
    nodeChanges := fun _ => 0
    prevNodeConnected := fun _ => false }

/-- Change bits of `NodeLatestUpdate`. -/
def nodeStateChangeConnect : UInt8 := 1

def nodeStateChangeDisconnect : UInt8 := 2

/-- Whether entry `index` of the node table is connected now. -/
def nodeConnected (control : LdnControl) (index : Fin 8) : Bool :=
  (control.networkInfo.ldn.nodes index).isConnected != 0

/-- `OnNetworkInfoChanged`: the eight entries are independent. -/
def onNetworkInfoChanged (control : LdnControl) : LdnControl :=
  { control with
    nodeChanges := fun index =>
      if control.nodeConnected index ≠ control.prevNodeConnected index then
        if control.nodeConnected index then
          control.nodeChanges index ||| nodeStateChangeConnect
        else control.nodeChanges index ||| nodeStateChangeDisconnect
      else control.nodeChanges index
    prevNodeConnected := control.nodeConnected
    stateEvent :=
      control.stateEvent ||
        decide (control.nodeConnected ≠ control.prevNodeConnected) }

/-- `strncpy` of a user name into a buffer whose last byte is a terminator. -/
def copyName (source : Fin 33 → UInt8) : Fin 33 → UInt8 := fun index =>
  if index.val < 32 ∧ ∀ before ≤ index, source before ≠ 0 then
    source index
  else 0

/-- The host's own entry. -/
def hostNode (control : LdnControl) : NodeInfo :=
  { NodeInfo.zero with
    ipv4Address := control.ipv4Address
    macAddress := fakeMac control.ipv4Address
    nodeId := 0
    isConnected := 1
    userName := copyName control.selfName
    localCommunicationVersion :=
      control.networkConfig.localCommunicationVersion }

/-- The entry written for a live station slot. -/
def stationNode (control : LdnControl) (slot : Fin 8) : NodeInfo :=
  { (control.stations slot).node with
    nodeId := slotNodeId slot
    isConnected := 1 }

/-- The station loop of `BuildNetwork`: table, next index, accesses. -/
def placeStations (control : LdnControl) :
    List (Fin 8) → (Fin 8 → NodeInfo) → Nat →
      (Fin 8 → NodeInfo) × Nat × List Effect
  | [], nodes, count => (nodes, count, [])
  | slot :: rest, nodes, count =>
      if (control.stations slot).live then
        let placed := fun index : Fin 8 =>
          if index.val = count then control.stationNode slot
          else nodes index
        let tail := control.placeStations rest placed (count + 1)
        (tail.1, tail.2.1, .access .nodes count 1 :: tail.2.2)
      else control.placeStations rest nodes count

/-- Advertised bytes: replaced up to the size, cleared when there are none. -/
def builtAdvertiseData (control : LdnControl) : Fin 384 → UInt8 :=
  fun index =>
    if control.advertiseSize.toNat = 0 then 0
    else if index.val < control.advertiseSize.toNat then
      control.advertiseData index
    else control.networkInfo.ldn.advertiseData index

/-- `BuildNetwork`. -/
def buildNetwork (control : LdnControl) : NetworkInfo × List Effect :=
  let start := fun index : Fin 8 =>
    if index.val = 0 then control.hostNode else NodeInfo.zero
  let placed := control.placeStations stationSlots start 1
  ({ control.networkInfo with
      ldn :=
        { control.networkInfo.ldn with
          nodes := placed.1
          nodeCount := UInt8.ofNat placed.2.1
          advertiseDataSize := control.advertiseSize
          advertiseData := control.builtAdvertiseData } },
    placed.2.2 ++
      [.access .advertiseData 0 control.advertiseSize.toNat])

/-- The send loop of `UpdateNodes`. -/
def syncStations (control : LdnControl) (env : Env) :
    List (Fin 8) → Step
  | [] => ⟨control, []⟩
  | slot :: rest =>
      if (control.stations slot).live then
        (control.sendFrame env (control.stations slot).srcIp .syncNetwork
          (NetworkInfo.codec.encode control.networkInfo)).andThen
          fun sent => sent.syncStations env rest
      else control.syncStations env rest

/-- Syncing the stations touches nothing but the send counter. -/
theorem syncStations_control (control : LdnControl) (env : Env)
    (slots : List (Fin 8)) :
    (control.syncStations env slots).control =
      { control with
        txSeq := (control.syncStations env slots).control.txSeq } := by
  induction slots generalizing control with
  | nil => rfl
  | cons slot rest induction =>
      unfold syncStations
      by_cases live : (control.stations slot).live = true
      · simp only [live, if_true, Step.andThen_control]
        rw [induction, sendFrame_control]
      · simp only [live]
        exact induction control

/-- `UpdateNodes`: rebuild the node list and sync every live station. -/
def updateNodes (control : LdnControl) (env : Env) : Step :=
  let built := { control with networkInfo := control.buildNetwork.1 }
  Step.after control.buildNetwork.2
    ((built.syncStations env stationSlots).andThen fun sent =>
      ⟨sent.onNetworkInfoChanged, []⟩)

/-- What `UpdateNodes` leaves behind, up to the send counter. -/
theorem updateNodes_control (control : LdnControl) (env : Env) :
    (control.updateNodes env).control =
      { { control with
          networkInfo := control.buildNetwork.1 }.onNetworkInfoChanged with
        txSeq := (control.updateNodes env).control.txSeq } := by
  simp only [updateNodes, Step.after_control, Step.andThen_control]
  rw [syncStations_control]
  rfl

end LdnControl

end SlpClient.Ldn
