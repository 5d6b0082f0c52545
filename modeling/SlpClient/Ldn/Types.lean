import SlpClient.Lib.ByteCodec
import Mathlib.Algebra.GroupWithZero.Nat
import Mathlib.Data.Fin.VecNotation

/-!
# LDN wire types

The structures of `ldn_interfaces.hpp` and of the relay liveness frames, with
the byte layout that the console and every peer share.  A structure received
in a frame is read by the `decode` of its codec and sent by the `encode`; no
structure here has padding, so the two are inverse.

Signed fields (`nodeId`, `isConnected`, `channel`, `linkLevel`,
`localCommunicationVersion`) are kept as their bit patterns: the program only
stores them and compares `isConnected` with zero.
-/

namespace SlpClient.Ldn

open SlpClient.Lib

/-! ## Constants -/

def ssidLengthMax : Nat := 32

def advertiseDataSizeMax : Nat := 384

/-- Entries of the node table, and of the host's station table. -/
abbrev nodeCountMax : Nat := 8

/-- Both tables have a first entry. -/
scoped instance nodeCountMax_neZero : NeZero nodeCountMax :=
  ⟨by decide⟩

/-- A room has this many stations next to its host. -/
def stationCountMax : Nat := nodeCountMax - 1

def maxScanResults : Nat := 8

/-- Port of the control datagrams inside the tunnel. -/
def controlPort : UInt16 := 11452

/-! ## Structures -/

/-- State of the LDN user service as the game observes it. -/
inductive CommState where
  | none
  | initialized
  | accessPoint
  | accessPointCreated
  | station
  | stationConnected
  | error
deriving DecidableEq, Repr

structure MacAddress where
  raw : Fin 6 → UInt8
deriving DecidableEq

structure Ssid where
  length : UInt8
  raw : Fin 33 → UInt8
deriving DecidableEq

structure CommonNetworkInfo where
  bssid : MacAddress
  ssid : Ssid
  channel : UInt16
  linkLevel : UInt8
  networkType : UInt8
  unk : UInt32
deriving DecidableEq

structure NodeInfo where
  ipv4Address : UInt32
  macAddress : MacAddress
  nodeId : UInt8
  isConnected : UInt8
  userName : Fin 33 → UInt8
  unk1 : UInt8
  localCommunicationVersion : UInt16
  unk2 : Fin 16 → UInt8
deriving DecidableEq

structure LdnNetworkInfo where
  unkRandom : Fin 16 → UInt8
  securityMode : UInt16
  stationAcceptPolicy : UInt8
  unk1 : Fin 3 → UInt8
  nodeCountMax : UInt8
  nodeCount : UInt8
  nodes : Fin 8 → NodeInfo
  unk2 : UInt16
  advertiseDataSize : UInt16
  advertiseData : Fin 384 → UInt8
  unk3 : Fin 148 → UInt8
deriving DecidableEq

structure IntentId where
  localCommunicationId : UInt64
  unk1 : Fin 2 → UInt8
  sceneId : UInt16
  unk2 : Fin 4 → UInt8
deriving DecidableEq

structure SessionId where
  high : UInt64
  low : UInt64
deriving DecidableEq

structure NetworkId where
  intentId : IntentId
  sessionId : SessionId
deriving DecidableEq

structure NetworkInfo where
  networkId : NetworkId
  common : CommonNetworkInfo
  ldn : LdnNetworkInfo
deriving DecidableEq

/-- The part of `SecurityConfig` that the control plane reads. -/
structure SecurityConfig where
  securityMode : UInt16
deriving DecidableEq

structure UserConfig where
  userName : Fin 33 → UInt8
deriving DecidableEq

structure NetworkConfig where
  intentId : IntentId
  channel : UInt16
  nodeCountMax : UInt8
  localCommunicationVersion : UInt16
deriving DecidableEq

structure CreateNetworkConfig where
  securityConfig : SecurityConfig
  userConfig : UserConfig
  networkConfig : NetworkConfig
deriving DecidableEq

structure ConnectNetworkData where
  userConfig : UserConfig
  localCommunicationVersion : UInt32
deriving DecidableEq

structure SecurityParameter where
  unkRandom : Fin 16 → UInt8
  sessionId : SessionId
deriving DecidableEq

structure ScanFilter where
  networkId : NetworkId
  networkType : UInt32
  ssid : Ssid
  flag : UInt32
deriving DecidableEq

/-- Body of a heartbeat or goodbye frame; the two padding bytes are sent. -/
structure RelayHeartbeatPayload where
  bssid : MacAddress
  pad : Fin 2 → UInt8
  ipv4 : UInt32
deriving DecidableEq

/-! ## Byte layout -/

namespace MacAddress

def codec : ByteCodec MacAddress :=
  (ByteCodec.u8.array 6).ofEquiv
    { toFun := raw, invFun := mk, left_inv _ := rfl, right_inv _ := rfl }

/-- The all-zero address that `memset` leaves. -/
def zero : MacAddress := ⟨fun _ => 0⟩

end MacAddress

def Ssid.codec : ByteCodec Ssid :=
  (ByteCodec.u8.prod (ByteCodec.u8.array 33)).ofEquiv
    { toFun ssid := (ssid.length, ssid.raw)
      invFun fields := ⟨fields.1, fields.2⟩
      left_inv _ := rfl
      right_inv _ := rfl }

def CommonNetworkInfo.codec : ByteCodec CommonNetworkInfo :=
  (MacAddress.codec.prod <| Ssid.codec.prod <| ByteCodec.u16le.prod <|
    ByteCodec.u8.prod <| ByteCodec.u8.prod ByteCodec.u32le).ofEquiv
    { toFun common :=
        (common.bssid, common.ssid, common.channel, common.linkLevel,
          common.networkType, common.unk)
      invFun fields :=
        ⟨fields.1, fields.2.1, fields.2.2.1, fields.2.2.2.1,
          fields.2.2.2.2.1, fields.2.2.2.2.2⟩
      left_inv _ := rfl
      right_inv _ := rfl }

namespace NodeInfo

def codec : ByteCodec NodeInfo :=
  (ByteCodec.u32le.prod <| MacAddress.codec.prod <| ByteCodec.u8.prod <|
    ByteCodec.u8.prod <| (ByteCodec.u8.array 33).prod <|
    ByteCodec.u8.prod <| ByteCodec.u16le.prod
      (ByteCodec.u8.array 16)).ofEquiv
    { toFun node :=
        (node.ipv4Address, node.macAddress, node.nodeId, node.isConnected,
          node.userName, node.unk1, node.localCommunicationVersion,
          node.unk2)
      invFun fields :=
        ⟨fields.1, fields.2.1, fields.2.2.1, fields.2.2.2.1,
          fields.2.2.2.2.1, fields.2.2.2.2.2.1, fields.2.2.2.2.2.2.1,
          fields.2.2.2.2.2.2.2⟩
      left_inv _ := rfl
      right_inv _ := rfl }

/-- The entry that `memset` leaves. -/
def zero : NodeInfo where
  ipv4Address := 0
  macAddress := .zero
  nodeId := 0
  isConnected := 0
  userName _ := 0
  unk1 := 0
  localCommunicationVersion := 0
  unk2 _ := 0

end NodeInfo

namespace LdnNetworkInfo

def codec : ByteCodec LdnNetworkInfo :=
  ((ByteCodec.u8.array 16).prod <| ByteCodec.u16le.prod <|
    ByteCodec.u8.prod <| (ByteCodec.u8.array 3).prod <|
    ByteCodec.u8.prod <| ByteCodec.u8.prod <|
    (NodeInfo.codec.array 8).prod <| ByteCodec.u16le.prod <|
    ByteCodec.u16le.prod <| (ByteCodec.u8.array 384).prod
      (ByteCodec.u8.array 148)).ofEquiv
    { toFun ldn :=
        (ldn.unkRandom, ldn.securityMode, ldn.stationAcceptPolicy,
          ldn.unk1, ldn.nodeCountMax, ldn.nodeCount, ldn.nodes, ldn.unk2,
          ldn.advertiseDataSize, ldn.advertiseData, ldn.unk3)
      invFun fields :=
        ⟨fields.1, fields.2.1, fields.2.2.1, fields.2.2.2.1,
          fields.2.2.2.2.1, fields.2.2.2.2.2.1, fields.2.2.2.2.2.2.1,
          fields.2.2.2.2.2.2.2.1, fields.2.2.2.2.2.2.2.2.1,
          fields.2.2.2.2.2.2.2.2.2.1, fields.2.2.2.2.2.2.2.2.2.2⟩
      left_inv _ := rfl
      right_inv _ := rfl }

def zero : LdnNetworkInfo where
  unkRandom _ := 0
  securityMode := 0
  stationAcceptPolicy := 0
  unk1 _ := 0
  nodeCountMax := 0
  nodeCount := 0
  nodes _ := .zero
  unk2 := 0
  advertiseDataSize := 0
  advertiseData _ := 0
  unk3 _ := 0

end LdnNetworkInfo

namespace NetworkId

def codec : ByteCodec NetworkId :=
  (ByteCodec.u64le.prod <| (ByteCodec.u8.array 2).prod <|
    ByteCodec.u16le.prod <| (ByteCodec.u8.array 4).prod <|
    ByteCodec.u64le.prod ByteCodec.u64le).ofEquiv
    { toFun networkId :=
        (networkId.intentId.localCommunicationId, networkId.intentId.unk1,
          networkId.intentId.sceneId, networkId.intentId.unk2,
          networkId.sessionId.high, networkId.sessionId.low)
      invFun fields :=
        ⟨⟨fields.1, fields.2.1, fields.2.2.1, fields.2.2.2.1⟩,
          ⟨fields.2.2.2.2.1, fields.2.2.2.2.2⟩⟩
      left_inv _ := rfl
      right_inv _ := rfl }

def zero : NetworkId where
  intentId := ⟨0, fun _ => 0, 0, fun _ => 0⟩
  sessionId := ⟨0, 0⟩

end NetworkId

namespace NetworkInfo

def codec : ByteCodec NetworkInfo :=
  (NetworkId.codec.prod <| CommonNetworkInfo.codec.prod
    LdnNetworkInfo.codec).ofEquiv
    { toFun info := (info.networkId, info.common, info.ldn)
      invFun fields := ⟨fields.1, fields.2.1, fields.2.2⟩
      left_inv _ := rfl
      right_inv _ := rfl }

def zero : NetworkInfo where
  networkId := .zero
  common := ⟨.zero, ⟨0, fun _ => 0⟩, 0, 0, 0, 0⟩
  ldn := .zero

end NetworkInfo

def RelayHeartbeatPayload.codec : ByteCodec RelayHeartbeatPayload :=
  (MacAddress.codec.prod <| (ByteCodec.u8.array 2).prod
    ByteCodec.u32le).ofEquiv
    { toFun payload := (payload.bssid, payload.pad, payload.ipv4)
      invFun fields := ⟨fields.1, fields.2.1, fields.2.2⟩
      left_inv _ := rfl
      right_inv _ := rfl }

/-- `sizeof(NodeInfo)`. -/
@[simp]
theorem nodeInfo_size : NodeInfo.codec.size = 64 := by
  simp [NodeInfo.codec, MacAddress.codec]

/-- `sizeof(NetworkInfo)`, the largest body of a control frame. -/
@[simp]
theorem networkInfo_size : NetworkInfo.codec.size = 1152 := by
  simp [NetworkInfo.codec, NetworkId.codec, CommonNetworkInfo.codec,
    Ssid.codec, LdnNetworkInfo.codec, MacAddress.codec]

/-- `sizeof(RelayHeartbeatPayload)`. -/
@[simp]
theorem relayHeartbeatPayload_size :
    RelayHeartbeatPayload.codec.size = 12 := by
  simp [RelayHeartbeatPayload.codec, MacAddress.codec]

/-- `FakeMac`: `02:00` followed by the address as it lies in memory. -/
def fakeMac (ip : UInt32) : MacAddress where
  raw := ![0x02, 0x00, ip.toUInt8, (ip >>> 8).toUInt8,
    (ip >>> 16).toUInt8, (ip >>> 24).toUInt8]

end SlpClient.Ldn
