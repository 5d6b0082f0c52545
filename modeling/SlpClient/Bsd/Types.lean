import Mathlib.Data.Int.Notation
import SlpClient.Lib.ByteCodec
import SlpClient.Net.Address

/-!
# Socket types

The enumerations and addresses of the socket service.  A game passes the
enumerations as plain 32-bit numbers, so each has a constructor for the
numbers the header file does not name.
-/

namespace SlpClient.Bsd

open SlpClient.Lib
open SlpClient.Net

/-- `SocketType`. -/
inductive SocketType
  | stream
  | dgram
  | raw
  | seqpacket
  | other (number : Int)
  deriving DecidableEq, Repr

/-- The socket type that a number is cast to. -/
def SocketType.ofNumber (number : Int) : SocketType :=
  if number = 1 then .stream
  else if number = 2 then .dgram
  else if number = 3 then .raw
  else if number = 5 then .seqpacket
  else .other number

/-- `ProtocolType`. -/
inductive ProtocolType
  | unspecified
  | icmp
  | tcp
  | udp
  | other (number : Int)
  deriving DecidableEq, Repr

/-- The protocol that a number is cast to. -/
def ProtocolType.ofNumber (number : Int) : ProtocolType :=
  if number = 0 then .unspecified
  else if number = 1 then .icmp
  else if number = 6 then .tcp
  else if number = 17 then .udp
  else .other number

/-- The members of `BsdErrno` that the proxy sockets answer with. -/
inductive BsdErrno
  | success
  | again
  | noMem
  | inval
  | destAddrReq
  | msgSize
  | afNoSupport
  | addrInUse
  | netUnreach
  | notConn
  deriving DecidableEq, Repr

def BsdErrno.code : BsdErrno → Int
  | .success => 0
  | .again => 11
  | .noMem => 12
  | .inval => 22
  | .afNoSupport => 106
  | .addrInUse => 112
  | .netUnreach => 114
  | .destAddrReq => 121
  | .msgSize => 122
  | .notConn => 128

/-- `AddressFamily::Inet`. -/
def familyInet : UInt8 := 2

/-- `SockAddrIn`, with port and address in host byte order. -/
structure SockAddrIn where
  len : UInt8
  family : UInt8
  port : UInt16
  addr : UInt32
  deriving DecidableEq, Repr

namespace SockAddrIn

/-- `sizeof(SockAddrIn)`. -/
def size : Nat := 16

/-- An address buffer of a game; one that is too short is ignored. -/
def read (buffer : List UInt8) : Option SockAddrIn :=
  if size ≤ buffer.length then
    some
      { len := buffer.getD 0 0
        family := buffer.getD 1 0
        port := UInt16.ofNat (beValue ((buffer.drop 2).take 2))
        addr := UInt32.ofNat (beValue ((buffer.drop 4).take 4)) }
  else none

/-- An address of family `Inet`. -/
def inet (addr : UInt32) (port : UInt16) : SockAddrIn where
  len := 16
  family := familyInet
  port := port
  addr := addr

def isLan (address : SockAddrIn) : Bool :=
  isLanAddress address.addr

/-- `INADDR_ANY`. -/
def isAny (address : SockAddrIn) : Bool :=
  address.addr == 0

end SockAddrIn

end SlpClient.Bsd
