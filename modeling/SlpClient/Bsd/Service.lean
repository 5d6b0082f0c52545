import Mathlib.Data.List.AList
import SlpClient.Bsd.PortPool
import SlpClient.Lib.Machine

/-!
# The intercepted socket service

`BsdMitmService` answers the socket commands of a game.  It keeps a table of
the sockets it has seen, and the manager keeps a registry of proxy sockets
that stand in for some of them.  Every command that writes one of the two is
modelled here, with arbitrary replies of the real service.

Local network mode, pending packets and the data that proxy sockets queue
are left out: no command below reads them to decide what it does to the two
tables or to the port pool.
-/

namespace SlpClient.Bsd

open SlpClient.Lib
open SlpClient.Net

/-! ## Proxy sockets -/

/-- The members of `ProxySocketState` a registered socket can be in. -/
inductive ProxySocketState
  | created
  | bound
  | connected
  deriving DecidableEq, Repr

/-- `ProxySocket`.  A socket that was never bound has no local port. -/
structure ProxySocket where
  type : SocketType
  protocol : ProtocolType
  state : ProxySocketState
  nonBlocking : Bool
  localAddr : SockAddrIn
  remoteAddr : SockAddrIn
  broadcast : Bool
  created_port : state = .created → localAddr.port = 0

namespace ProxySocket

/-- The constructor. -/
def create (type : SocketType) (protocol : ProtocolType) : ProxySocket where
  type := type
  protocol := protocol
  state := .created
  nonBlocking := false
  localAddr := .inet 0 0
  remoteAddr := .inet 0 0
  broadcast := false
  created_port := fun _ => rfl

/-- The socket with a local address. -/
def boundTo (socket : ProxySocket) (addr : SockAddrIn) : ProxySocket :=
  { socket with
    localAddr := addr
    state := .bound
    created_port := nofun }

/-- The socket after a connection that was refused. -/
def refusedBy (socket : ProxySocket) (addr : SockAddrIn) : ProxySocket :=
  { socket with
    remoteAddr := addr
    state := .bound
    created_port := nofun }

/-- The socket after a connection. -/
def connectedTo (socket : ProxySocket) (addr : SockAddrIn) : ProxySocket :=
  { socket with
    remoteAddr := addr
    state := .connected
    created_port := nofun }

/-- The socket after `SetBroadcastEnabled(true)`, if `enabled`. -/
def allowBroadcast (socket : ProxySocket) (enabled : Bool) : ProxySocket :=
  if enabled then { socket with broadcast := true } else socket

/-- `ProxySocket::Bind`. -/
def bind (socket : ProxySocket) (addr : SockAddrIn) :
    Except BsdErrno ProxySocket :=
  if socket.state ≠ .created then .error .inval
  else if addr.family ≠ familyInet then .error .afNoSupport
  else .ok (socket.boundTo addr)

/--
`ProxySocket::Connect`: the socket afterwards and the errno.  The callback
that `main` registers refuses every stream connection.
-/
def connect (socket : ProxySocket) (addr : SockAddrIn) :
    ProxySocket × BsdErrno :=
  if addr.family ≠ familyInet then (socket, .afNoSupport)
  else if socket.type = .stream then
    (socket.refusedBy addr, .netUnreach)
  else (socket.connectedTo addr, .success)

/-- `PROXY_SOCKET_MAX_PAYLOAD`. -/
def maxPayload : Nat := 2000

/--
`ProxySocket::SendTo`; `delivered` is what the tunnel answers.  No command
shuts a proxy socket down, and a closed one is not registered.
-/
def sendTo (socket : ProxySocket) (length : Nat) (delivered : Bool) : Int :=
  if socket.state = .created then -BsdErrno.destAddrReq.code
  else if length > maxPayload then -BsdErrno.msgSize.code
  else if !delivered then -BsdErrno.netUnreach.code
  else length

/-- `SOL_SOCKET` and `SO_BROADCAST`. -/
def isBroadcastOption (level option : Int) : Bool :=
  level == 0xFFFF && option == 0x0020

/-- `ProxySocket::SetSockOpt`; `value` is missing when it is too short. -/
def setSockOpt (socket : ProxySocket) (level option : Int)
    (value : Option Int) : ProxySocket × BsdErrno :=
  if isBroadcastOption level option then
    match value with
    | some value => ({ socket with broadcast := value != 0 }, .success)
    | none => (socket, .inval)
  else (socket, .success)

end ProxySocket

/-! ## State -/

/-- `SocketInfo`. -/
structure SocketInfo where
  type : SocketType
  protocol : ProtocolType
  isProxy : Bool
  broadcast : Bool
  sessionId : Nat

/-- `g_socket_info` and the parts of `ProxySocketManager`. -/
structure Service where
  info : AList (fun _ : Int => SocketInfo)
  sockets : AList (fun _ : Int => ProxySocket)
  ports : EphemeralPortPool
  localIp : UInt32

/-- What a command answers: the real service's words, its own, or failure. -/
inductive Answer
  | forwarded
  | words (first second : Int)
  | failed (errno : BsdErrno)
  deriving DecidableEq

/-- A reply of the real service that carries a file descriptor. -/
structure Reply where
  ok : Bool
  fd : Int
  errno : Int

namespace Service

/-- Nothing tracked, nothing registered, no port taken. -/
def initial (localIp : UInt32) : Service where
  info := ∅
  sockets := ∅
  ports := .empty
  localIp := localIp

/-- `g_socket_info[fd] = entry`. -/
def putInfo (service : Service) (fd : Int) (entry : SocketInfo) : Service :=
  { service with info := service.info.insert fd entry }

/-- The socket of `fd` is registered, or replaced after a change to it. -/
def putSocket (service : Service) (fd : Int) (socket : ProxySocket) :
    Service :=
  { service with sockets := service.sockets.insert fd socket }

def withPorts (service : Service) (ports : EphemeralPortPool) : Service :=
  { service with ports := ports }

/-! ## The manager -/

/-- `MAX_PROXY_SOCKETS`. -/
def maxProxySockets : Nat := 64

/-- The registry has no room for another socket. -/
def full (service : Service) : Bool :=
  maxProxySockets ≤ service.sockets.keys.length

/-- `CreateProxySocket`. -/
def createProxySocket (service : Service) (fd : Int) (type : SocketType)
    (protocol : ProtocolType) : Service × Option ProxySocket :=
  match service.sockets.lookup fd with
  | some socket => (service, some socket)
  | none =>
      if service.full then (service, none)
      else
        (service.putSocket fd (.create type protocol),
          some (.create type protocol))

/-- `CloseProxySocket`. -/
def closeProxySocket (service : Service) (fd : Int) : Service :=
  match service.sockets.lookup fd with
  | none => service
  | some socket =>
      { service with
        ports :=
          if socket.localAddr.port = 0 then service.ports
          else
            service.ports.releasePort socket.localAddr.port socket.protocol
        sockets := service.sockets.erase fd }

/-! ## Commands -/

/-- The protocol of a socket that was asked for with a type and protocol. -/
def defaultProtocol (type protocol : Int) : ProtocolType :=
  if protocol = 0 then
    if SocketType.ofNumber type = .stream then .tcp
    else if SocketType.ofNumber type = .dgram then .udp
    else .unspecified
  else .ofNumber protocol

/-- Tracks a socket that the real service has created. -/
def track (service : Service) (session : Nat) (type protocol : Int)
    (reply : Reply) : Service :=
  if reply.ok ∧ 0 ≤ reply.fd then
    service.putInfo reply.fd
      { type := .ofNumber type
        protocol := defaultProtocol type protocol
        isProxy := false
        broadcast := false
        sessionId := session }
  else service

/-- `Socket`. -/
def socket (service : Service) (session : Nat) (type protocol : Int)
    (reply : Reply) : Service × Answer :=
  (service.track session type protocol reply, .forwarded)

/-- `SocketExempt`. -/
def socketExempt (service : Service) (session : Nat) (type protocol : Int)
    (reply : Reply) : Service × Answer :=
  (service.track session type protocol reply, .forwarded)

/-- Marks the tracked socket as one that has a proxy. -/
def markProxy (service : Service) (fd : Int) : Service :=
  match service.info.lookup fd with
  | none => service
  | some entry => service.putInfo fd { entry with isProxy := true }

/-- Local ports that mark a socket bound to any address as a LAN socket. -/
def lanSignaturePort (port : UInt16) : Bool :=
  port == 30000 || port == 35000 || port == 11452 ||
    (49152 ≤ port && port ≤ 49155)

/--
The head of `Bind`, `Connect` and `SendTo`: the buffer is an IPv4 address,
the socket is tracked and the command accepts the two.
-/
def intercepted (service : Service) (fd : Int) (buffer : List UInt8)
    (accepts : SockAddrIn → SocketInfo → Bool) :
    Option (SockAddrIn × SocketInfo) :=
  match SockAddrIn.read buffer, service.info.lookup fd with
  | some addr, some entry =>
      if addr.family = familyInet ∧ accepts addr entry then
        some (addr, entry)
      else none
  | _, _ => none

/-- A bind that is taken over instead of forwarded. -/
def promotes (addr : SockAddrIn) (entry : SocketInfo) : Bool :=
  addr.isLan ||
    (addr.isAny && (entry.broadcast || lanSignaturePort addr.port))

/-- The address a proxy socket is bound to, before a port is chosen. -/
def bindAddress (service : Service) (addr : SockAddrIn) : SockAddrIn :=
  if addr.isAny && addr.isLan && service.localIp != 0 then
    { addr with addr := service.localIp }
  else addr

/-- The proxy branch of `Bind`, from the proxy socket on. -/
def bindSocket (service : Service) (fd : Int) (socket : ProxySocket)
    (addr : SockAddrIn) (protocol : ProtocolType) : Service × Answer :=
  match service.ports.claimPort addr.port protocol with
  | none => (service, .words BsdErrno.addrInUse.code 0)
  | some (ports, port) =>
      match socket.bind { addr with port := port } with
      | .error errno => (service.withPorts ports, .words errno.code 0)
      | .ok bound =>
          (((service.withPorts ports).putSocket fd bound).markProxy fd,
            .words 0 0)

/-- The proxy branch of `Bind`. -/
def bindProxy (service : Service) (fd : Int) (entry : SocketInfo)
    (addr : SockAddrIn) : Service × Answer :=
  match service.createProxySocket fd entry.type entry.protocol with
  | (created, none) => (created, .words BsdErrno.noMem.code 0)
  | (created, some socket) =>
      let optioned := socket.allowBroadcast entry.broadcast
      (created.putSocket fd optioned).bindSocket fd optioned
        (created.bindAddress addr) entry.protocol

/-- `Bind`. -/
def bind (service : Service) (fd : Int) (buffer : List UInt8) :
    Service × Answer :=
  match service.intercepted fd buffer promotes with
  | some (addr, entry) => service.bindProxy fd entry addr
  | none => (service, .forwarded)

/-- The end of the proxy branch of `Connect`. -/
def connectSocket (service : Service) (fd : Int) (socket : ProxySocket)
    (addr : SockAddrIn) : Service × Answer :=
  match socket.connect addr with
  | (connected, .success) =>
      ((service.putSocket fd connected).markProxy fd, .words 0 0)
  | (connected, errno) =>
      (service.putSocket fd connected, .words errno.code 0)

/-- The auto-bind of `Connect`, then the connection. -/
def connectNew (service : Service) (fd : Int) (entry : SocketInfo)
    (addr : SockAddrIn) : Service × Answer :=
  match service.createProxySocket fd entry.type entry.protocol with
  | (created, none) => (created, .words BsdErrno.noMem.code 0)
  | (created, some socket) =>
      match created.ports.allocatePort entry.protocol with
      | none => (created, .words BsdErrno.addrInUse.code 0)
      | some (ports, port) =>
          match socket.bind (.inet created.localIp port) with
          | .error errno =>
              (created.withPorts (ports.releasePort port entry.protocol),
                .words errno.code 0)
          | .ok bound =>
              ((created.withPorts ports).putSocket fd bound).connectSocket
                fd bound addr

/-- A connection that stays on the virtual LAN. -/
def connects (addr : SockAddrIn) (_ : SocketInfo) : Bool :=
  addr.isLan

/-- `Connect`. -/
def connect (service : Service) (fd : Int) (buffer : List UInt8) :
    Service × Answer :=
  match service.intercepted fd buffer connects with
  | some (addr, entry) =>
      match service.sockets.lookup fd with
      | some socket => service.connectSocket fd socket addr
      | none => service.connectNew fd entry addr
  | none => (service, .words BsdErrno.netUnreach.code 0)

/-- The auto-bind of `SendTo`, with the error that ends the command. -/
def autoBind (service : Service) (fd : Int) (entry : SocketInfo) :
    Service × Option BsdErrno :=
  match service.sockets.lookup fd with
  | some _ => (service, none)
  | none =>
      match service.createProxySocket fd entry.type entry.protocol with
      | (created, none) => (created, none)
      | (created, some socket) =>
          match created.ports.allocatePort entry.protocol with
          | none => (created, none)
          | some (ports, port) =>
              match socket.bind (.inet created.localIp port) with
              | .error errno => (created.withPorts ports, some errno)
              | .ok bound =>
                  ((created.withPorts ports).putSocket fd bound, none)

/-- The destination of `SendTo` is on the virtual LAN. -/
def toLan (buffer : List UInt8) : Bool :=
  match SockAddrIn.read buffer with
  | none => false
  | some addr => addr.family == familyInet && addr.isLan

/-- A destination on the virtual LAN for a socket that is no proxy yet. -/
def promotesSender (addr : SockAddrIn) (entry : SocketInfo) : Bool :=
  addr.isLan && !entry.isProxy

/-- A socket that sends to the virtual LAN gets a proxy. -/
def promoteSender (service : Service) (fd : Int) (buffer : List UInt8) :
    Service × Option BsdErrno :=
  match service.intercepted fd buffer promotesSender with
  | none => (service, none)
  | some (_, entry) =>
      match service.autoBind fd entry with
      | (failed, some errno) => (failed, some errno)
      | (promoted, none) => (promoted.markProxy fd, none)

/-- The end of `SendTo` on a proxy socket. -/
def sendProxy (service : Service) (fd : Int) (buffer : List UInt8)
    (length : Nat) (delivered : Bool) : Answer :=
  match service.sockets.lookup fd, SockAddrIn.read buffer with
  | some socket, some _ =>
      let result := socket.sendTo length delivered
      if result < 0 then .words (-1) (-result) else .words result 0
  | _, _ => .words BsdErrno.netUnreach.code 0

/-- `SendTo` of `length` bytes. -/
def sendTo (service : Service) (fd : Int) (buffer : List UInt8)
    (length : Nat) (delivered : Bool) : Service × Answer :=
  match service.promoteSender fd buffer with
  | (promoted, some errno) => (promoted, .failed errno)
  | (promoted, none) =>
      if toLan buffer || (service.info.lookup fd).any SocketInfo.isProxy then
        (promoted, promoted.sendProxy fd buffer length delivered)
      else (promoted, .forwarded)

/-- `SetSockOpt`; `value` is missing when it is too short. -/
def setSockOpt (service : Service) (fd level option : Int)
    (value : Option Int) : Service × Answer :=
  match service.sockets.lookup fd with
  | some socket =>
      let set := socket.setSockOpt level option value
      (service.putSocket fd set.1, .words set.2.code 0)
  | none =>
      match service.info.lookup fd, value with
      | some entry, some value =>
          if ProxySocket.isBroadcastOption level option then
            (service.putInfo fd { entry with broadcast := value != 0 },
              .forwarded)
          else (service, .forwarded)
      | _, _ => (service, .forwarded)

/-- The new descriptor of a duplicated or accepted socket is tracked. -/
def copyInfo (service : Service) (fd : Int) (reply : Reply) : Service :=
  if reply.ok ∧ reply.errno = 0 ∧ 0 ≤ reply.fd then
    match service.info.lookup fd with
    | none => service
    | some entry => service.putInfo reply.fd entry
  else service

/-- `F_DUPFD` and `F_DUPFD_CLOEXEC`. -/
def isDuplication (command : Int) : Bool :=
  command == 0 || command == 6

/-- `O_NONBLOCK` is set in the argument of `F_SETFL`. -/
def asksNonBlocking (argument : Int) : Bool :=
  argument / 4 % 2 == 1

/-- `Fcntl`. -/
def fcntl (service : Service) (fd command argument : Int) (reply : Reply) :
    Service × Answer :=
  match service.sockets.lookup fd with
  | some socket =>
      if command = 3 then
        (service, .words 0 (if socket.nonBlocking then 4 else 0))
      else if command = 4 then
        (service.putSocket fd
            { socket with nonBlocking := asksNonBlocking argument },
          .words 0 0)
      else if isDuplication command then
        (service.copyInfo fd reply, .forwarded)
      else (service, .words BsdErrno.inval.code (-1))
  | none =>
      if isDuplication command then (service.copyInfo fd reply, .forwarded)
      else (service, .forwarded)

/-- `DuplicateSocket`. -/
def duplicateSocket (service : Service) (fd : Int) (reply : Reply) :
    Service × Answer :=
  (service.copyInfo fd reply, .forwarded)

/-- `Accept`. -/
def accept (service : Service) (fd : Int) (reply : Reply) :
    Service × Answer :=
  (service.copyInfo fd reply, .forwarded)

/-- `g_socket_info.erase`. -/
def dropInfo (service : Service) (fd : Int) : Service :=
  { service with info := service.info.erase fd }

/-- `Close`. -/
def close (service : Service) (fd : Int) : Service × Answer :=
  match service.info.lookup fd with
  | none => (service, .forwarded)
  | some entry =>
      if entry.isProxy then
        ((service.closeProxySocket fd).dropInfo fd, .forwarded)
      else (service.dropInfo fd, .forwarded)

/-- The entries of a session. -/
def sessionEntries (service : Service) (session : Nat) :
    List (Sigma (fun _ : Int => SocketInfo)) :=
  service.info.entries.filter (fun entry => entry.2.sessionId == session)

/-- The descriptors of a session that are marked as proxies. -/
def sessionProxies (service : Service) (session : Nat) : List Int :=
  ((service.sessionEntries session).filter
    (fun entry => entry.2.isProxy)).map Sigma.fst

/-- The destructor of a session. -/
def destroy (service : Service) (session : Nat) : Service :=
  let erased :=
    ((service.sessionEntries session).map Sigma.fst).foldl dropInfo service
  (service.sessionProxies session).foldl closeProxySocket erased

/-! ## Runs -/

/-- The commands of all sessions, and the end of a session. -/
inductive Command
  | socket (session : Nat) (type protocol : Int) (reply : Reply)
  | socketExempt (session : Nat) (type protocol : Int) (reply : Reply)
  | bind (fd : Int) (buffer : List UInt8)
  | connect (fd : Int) (buffer : List UInt8)
  | sendTo (fd : Int) (buffer : List UInt8) (length : Nat)
      (delivered : Bool)
  | setSockOpt (fd level option : Int) (value : Option Int)
  | fcntl (fd command argument : Int) (reply : Reply)
  | duplicateSocket (fd : Int) (reply : Reply)
  | accept (fd : Int) (reply : Reply)
  | close (fd : Int)
  | destroy (session : Nat)

def execute (service : Service) : Command → Service × Answer
  | .socket session type protocol reply =>
      service.socket session type protocol reply
  | .socketExempt session type protocol reply =>
      service.socketExempt session type protocol reply
  | .bind fd buffer => service.bind fd buffer
  | .connect fd buffer => service.connect fd buffer
  | .sendTo fd buffer length delivered =>
      service.sendTo fd buffer length delivered
  | .setSockOpt fd level option value =>
      service.setSockOpt fd level option value
  | .fcntl fd command argument reply =>
      service.fcntl fd command argument reply
  | .duplicateSocket fd reply => service.duplicateSocket fd reply
  | .accept fd reply => service.accept fd reply
  | .close fd => service.close fd
  | .destroy session => (service.destroy session, .forwarded)

/-- One command after another. -/
def machine : Machine Service Command Answer where
  step := execute

end Service

end SlpClient.Bsd
