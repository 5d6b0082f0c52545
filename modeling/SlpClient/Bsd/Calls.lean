import SlpClient.Bsd.Receive
import SlpClient.Bsd.Shapes

/-!
# Replies of the socket commands

A game reads the first two `s32` words of a reply by position, as the result
of its call and as the errno.  This module follows the two words of every
command that has two of them: the branch that the proxy answers, the branch
that forwards the words of the real service, and the branch of `Select` and
`Poll` that adds proxy sockets to the count of the real service.

The buffers that `Select` and `Poll` fill for the game are followed in
`Readiness`; the third word of `RecvFrom` is left out.
-/

namespace SlpClient.Bsd

open SlpClient.Lib
open SlpClient.Net

/-! ## Words -/

/-- The first two `s32` words of a reply. -/
structure Words where
  first : Int
  second : Int
deriving DecidableEq

/--
What the real service replies to a forwarded command: whether the dispatch
succeeded, its two words, the array that a `Poll` gets back, and the sockets
that have data by then.
-/
structure RealReply where
  ok : Bool
  words : Words
  pollFds : List UInt8
  pending : Int → Bool

/-- `out`, which stays zero when the dispatch fails. -/
def RealReply.out (real : RealReply) : Words :=
  if real.ok then real.words else ⟨0, 0⟩

/-- Who has answered a command. -/
inductive Source
  | proxy
  | real
  | merged
deriving DecidableEq

/-- The answer of a command to the game. -/
structure Response where
  source : Source
  ok : Bool
  words : Words
deriving DecidableEq

namespace Response

/-- The words of the real service, in their order. -/
def forward (real : RealReply) : Response where
  source := .real
  ok := real.ok
  words := real.out

/-- The words of the real service, each in the place of the other. -/
def crossed (real : RealReply) : Response where
  source := .real
  ok := real.ok
  words := ⟨real.out.second, real.out.first⟩

/-- Words of the proxy. -/
def proxied (first second : Int) : Response where
  source := .proxy
  ok := true
  words := ⟨first, second⟩

/-- A result of a proxy socket, which is an errno when it is negative. -/
def ofResult (result : Int) : Response :=
  if result < 0 then proxied (-1) (-result) else proxied result 0

/-- What `BsdMitmService` answers; a failed command has no words. -/
def ofAnswer (real : RealReply) : Answer → Response
  | .forwarded => forward real
  | .words first second => proxied first second
  | .failed _ => { source := .proxy, ok := false, words := ⟨0, 0⟩ }

end Response

/-- The result of a receive on a proxy socket. -/
def Received.result : Received → Option Int
  | .forwarded => none
  | .failed errno => some (-errno.code)
  | .packet _ data => some data.length

/-- The words of `Recv`, `RecvFrom` and `Read`. -/
def Received.respond (received : Received) (real : RealReply) : Response :=
  match received.result with
  | some result => .ofResult result
  | none => .forward real

/-- `ProxySocket::Send`. -/
def ProxySocket.send (socket : ProxySocket) (length : Nat)
    (delivered : Bool) : Int :=
  if socket.state ≠ .connected then -BsdErrno.notConn.code
  else socket.sendTo length delivered

/-! ## `Select` and `Poll` -/

/-- What the loop of `Select` or `Poll` has seen. -/
structure Scan where
  hasProxySockets : Bool
  hasRealSockets : Bool
  readyCount : Nat

namespace Scan

def start : Scan where
  hasProxySockets := false
  hasRealSockets := false
  readyCount := 0

/-- A proxy socket that is ready `ready` times. -/
def proxy (scan : Scan) (ready : Nat) : Scan :=
  { scan with
    hasProxySockets := true
    readyCount := scan.readyCount + ready }

/-- A socket of the real service. -/
def real (scan : Scan) : Scan :=
  { scan with hasRealSockets := true }

/-- One round of the loop, on an element that the caller may have named. -/
def round {Entry : Type*} (names hasProxy : Entry → Bool)
    (ready : Entry → Nat) (scan : Scan) (entry : Entry) : Scan :=
  if !names entry then scan
  else if hasProxy entry then scan.proxy (ready entry)
  else scan.real

/--
The end of `Select` and `Poll`; `merged` is what the proxy sockets add to the
count of the real service.
-/
def respond (scan : Scan) (real : RealReply) (merged : Nat) : Response :=
  if scan.hasProxySockets && !scan.hasRealSockets then
    .proxied 0 scan.readyCount
  else if scan.hasProxySockets && decide (0 < scan.readyCount) then
    .proxied 0 scan.readyCount
  else if scan.hasProxySockets && real.ok && decide (0 < merged) then
    { source := .merged
      ok := real.ok
      words := ⟨real.out.first, real.out.second + merged⟩ }
  else .forward real

end Scan

/-- `fd_isset`. -/
def fdIsSet (fds : List UInt8) (fd : Nat) : Bool :=
  (fds.getD (fd / 8) 0).toNat.testBit (fd % 8)

/-- The three sets of a `Select`. -/
structure FdSets where
  readFds : List UInt8
  writeFds : List UInt8
  errorFds : List UInt8

namespace FdSets

/-- A descriptor that is in one of the sets. -/
def names (sets : FdSets) (fd : Nat) : Bool :=
  fdIsSet sets.readFds fd || fdIsSet sets.writeFds fd ||
    fdIsSet sets.errorFds fd

/--
How often a proxy socket counts as ready.  It is never in the error set,
because a closed one is not registered.
-/
def ready (sets : FdSets) (pending : Int → Bool) (fd : Nat) : Nat :=
  (if fdIsSet sets.readFds fd && pending fd then 1 else 0) +
    (if fdIsSet sets.writeFds fd then 1 else 0)

end FdSets

/-- `PollFd`, without the events that the service fills in. -/
structure PollFd where
  fd : Int
  events : UInt16
deriving DecidableEq

namespace PollFd

/-- `sizeof(PollFd)`. -/
def size : Nat := 8

/-- One element of the array. -/
def read (bytes : List UInt8) : PollFd where
  fd := Int.bmod (leValue (bytes.take 4)) (2 ^ 32)
  events := UInt16.ofNat (leValue ((bytes.drop 4).take 2))

/-- The first elements of the array. -/
def readAll (bytes : List UInt8) (count : Nat) : List PollFd :=
  (List.range count).map fun index => read (bytes.drop (size * index))

/-- `POLLIN`. -/
def wantsIn (entry : PollFd) : Bool :=
  entry.events &&& 0x0001 != 0

/-- `POLLOUT`. -/
def wantsOut (entry : PollFd) : Bool :=
  entry.events &&& 0x0004 != 0

/-- A proxy socket with events that is counted once. -/
def ready (entry : PollFd) (pending : Int → Bool) : Nat :=
  if entry.wantsIn && pending entry.fd || entry.wantsOut then 1 else 0

/-- A proxy socket whose events are counted one by one. -/
def merged (entry : PollFd) (pending : Int → Bool) : Nat :=
  (if entry.wantsIn && pending entry.fd then 1 else 0) +
    (if entry.wantsOut then 1 else 0)

/-- The number of elements that `Poll` looks at. -/
def numFds (nfds : Int) (buffer : List UInt8) : Nat :=
  min (nfds % 2 ^ 64).toNat (buffer.length / size)

end PollFd

namespace Plane

/-- `HasPendingData`. -/
def hasPendingData (plane : Plane) (fd : Int) : Bool :=
  (plane.inboxes fd).hasPendingData

/-- One round of the loop of `Select`. -/
def selectRound (plane : Plane) (sets : FdSets) : Scan → Nat → Scan :=
  Scan.round sets.names (fun fd => plane.service.registered fd)
    (sets.ready plane.hasPendingData)

/-- `Select`. -/
def select (plane : Plane) (nfds : Int) (sets : FdSets)
    (real : RealReply) : Response :=
  let fds := List.range nfds.toNat
  (fds.foldl (plane.selectRound sets) .start).respond real
    ((fds.filter fun fd : Nat => plane.service.registered fd).map
      (sets.ready real.pending)).sum

/-- One round of the loop of `Poll`, which names every element. -/
def pollRound (plane : Plane) : Scan → PollFd → Scan :=
  Scan.round (fun _ => true) (fun entry => plane.service.registered entry.fd)
    (fun entry => entry.ready plane.hasPendingData)

/-- The array that `Poll` looks at: the input, where it fits. -/
def pollBuffer (fdsIn fdsOut : List UInt8) : List UInt8 :=
  if fdsIn.length ≤ fdsOut.length then fdsIn ++ fdsOut.drop fdsIn.length
  else fdsOut

/-- `Poll`; `fdsOut` is what the output buffer holds at first. -/
def poll (plane : Plane) (fdsIn fdsOut : List UInt8) (nfds : Int)
    (real : RealReply) : Response :=
  let count := PollFd.numFds nfds fdsOut
  let entries := PollFd.readAll (pollBuffer fdsIn fdsOut) count
  let merged :=
    (PollFd.readAll real.pollFds count).filter fun entry =>
      plane.service.registered entry.fd
  (entries.foldl plane.pollRound .start).respond real
    (merged.map fun entry => entry.merged real.pending).sum

/-! ## The other commands -/

/-- `Send`. -/
def send (plane : Plane) (fd : Int) (length : Nat) (delivered : Bool)
    (real : RealReply) : Response :=
  match plane.service.receiver fd with
  | some socket => .ofResult (socket.send length delivered)
  | none => .forward real

/-- `Write`, which has the words the other way round. -/
def write (plane : Plane) (fd : Int) (length : Nat) (delivered : Bool)
    (real : RealReply) : Response :=
  match plane.service.receiver fd with
  | some socket =>
      let result := socket.send length delivered
      if result < 0 then .proxied (-result) 0 else .proxied 0 result
  | none => .forward real

/-- `FIONREAD`. -/
def fionread : UInt32 := 0x4004667F

/-- `Ioctl`. -/
def ioctl (plane : Plane) (fd : Int) (request : UInt32)
    (real : RealReply) : Response :=
  if plane.service.registered fd then
    if request = fionread then .proxied 0 0
    else .proxied BsdErrno.inval.code (-1)
  else .forward real

/-- `EOPNOTSUPP`. -/
def eopnotsupp : Int := 95

/-- `RecvMMsg` and `SendMMsg`. -/
def multiMessage (plane : Plane) (fd : Int) (real : RealReply) : Response :=
  if plane.service.flagged fd then .proxied eopnotsupp (-1) else .forward real

end Plane

/-! ## Calls -/

/-- The commands with two words, and the others that write a table. -/
inductive Call
  | socket (type protocol : Int)
  | socketExempt (type protocol : Int)
  | accept (fd : Int)
  | duplicateSocket (fd : Int)
  | send (fd : Int) (length : Nat) (delivered : Bool)
  | sendTo (fd : Int) (addr : List UInt8) (length : Nat) (delivered : Bool)
  | recv (fd : Int) (flags : UInt32) (capacity : Nat)
  | recvFrom (fd : Int) (flags : UInt32) (capacity : Nat)
  | read (fd : Int) (capacity : Nat)
  | write (fd : Int) (length : Nat) (delivered : Bool)
  | select (nfds : Int) (sets : FdSets)
  | poll (fdsIn fdsOut : List UInt8) (nfds : Int)
  | ioctl (fd : Int) (request : UInt32)
  | fcntl (fd command argument : Int)
  | recvMMsg (fd : Int)
  | sendMMsg (fd : Int)
  | bind (fd : Int) (addr : List UInt8)
  | connect (fd : Int) (addr : List UInt8)
  | setSockOpt (fd level option : Int) (value : Option Int)
  | close (fd : Int)

namespace Call

/-- A reply with a descriptor in its first word. -/
def descriptorFirst (real : RealReply) : Reply where
  ok := real.ok
  fd := real.out.first
  errno := real.out.second

/-- A reply as `Fcntl` reads it, with the errno in its first word. -/
def errnoFirst (real : RealReply) : Reply where
  ok := real.ok
  fd := real.out.second
  errno := real.out.first

/-- What a call of a session does to the tables and the queues. -/
def request (session : Nat) (real : RealReply) : Call → Option Request
  | .socket type protocol =>
      some (.command (.socket session type protocol (descriptorFirst real)))
  | .socketExempt type protocol =>
      some
        (.command
          (.socketExempt session type protocol (descriptorFirst real)))
  | .accept fd => some (.command (.accept fd (descriptorFirst real)))
  | .duplicateSocket fd =>
      some (.command (.duplicateSocket fd (descriptorFirst real)))
  | .sendTo fd addr length delivered =>
      some (.command (.sendTo fd addr length delivered))
  | .recv fd flags capacity => some (.recv fd flags capacity)
  | .recvFrom fd flags capacity => some (.recvFrom fd flags capacity)
  | .read fd capacity => some (.recv fd 0 capacity)
  | .fcntl fd command argument =>
      some (.command (.fcntl fd command argument (errnoFirst real)))
  | .bind fd addr => some (.command (.bind fd addr))
  | .connect fd addr => some (.command (.connect fd addr))
  | .setSockOpt fd level option value =>
      some (.command (.setSockOpt fd level option value))
  | .close fd => some (.command (.close fd))
  | .send .. => none
  | .write .. => none
  | .select .. => none
  | .poll .. => none
  | .ioctl .. => none
  | .recvMMsg .. => none
  | .sendMMsg .. => none

/-- The plane after a call of a session. -/
def next (plane : Plane) (session : Nat) (call : Call) (real : RealReply) :
    Plane :=
  match call.request session real with
  | none => plane
  | some request => Plane.machine.next plane (.request request)

/-- What a call answers; where there is one word only, it is the first. -/
def response (plane : Plane) (call : Call) (real : RealReply) : Response :=
  match call with
  | .socket .. => .forward real
  | .socketExempt .. => .forward real
  | .accept .. => .crossed real
  | .duplicateSocket .. => .crossed real
  | .send fd length delivered => plane.send fd length delivered real
  | .sendTo fd addr length delivered =>
      .ofAnswer real (plane.service.sendTo fd addr length delivered).2
  | .recv fd flags capacity => (plane.recv fd flags capacity).2.respond real
  | .recvFrom fd flags capacity =>
      (plane.recvFrom fd flags capacity).2.respond real
  | .read fd capacity => (plane.recv fd 0 capacity).2.respond real
  | .write fd length delivered => plane.write fd length delivered real
  | .select nfds sets => plane.select nfds sets real
  | .poll fdsIn fdsOut nfds => plane.poll fdsIn fdsOut nfds real
  | .ioctl fd request => plane.ioctl fd request real
  | .fcntl fd command argument =>
      .ofAnswer real
        (plane.service.fcntl fd command argument (errnoFirst real)).2
  | .recvMMsg fd => plane.multiMessage fd real
  | .sendMMsg fd => plane.multiMessage fd real
  | .bind fd addr => .ofAnswer real (plane.service.bind fd addr).2
  | .connect fd addr => .ofAnswer real (plane.service.connect fd addr).2
  | .setSockOpt fd level option value =>
      .ofAnswer real (plane.service.setSockOpt fd level option value).2
  | .close fd => .ofAnswer real (plane.service.close fd).2

/-- The commands with two words. -/
def twoWords : Call → Bool
  | .bind .. => false
  | .connect .. => false
  | .setSockOpt .. => false
  | .close .. => false
  | _ => true

end Call

end SlpClient.Bsd
