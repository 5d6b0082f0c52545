import SlpClient.Bsd.Shapes

/-!
# Modes of a promoted socket

A game sets the modes of a socket before the socket is bound, connected or
sent with, while its commands still go to the real service.  The proxy socket
that replaces it should have the same modes.  This module follows what a game
has set and says exactly when a promotion keeps it: `Fcntl` remembers
nothing, and of the three promotions only `Bind` looks at what `SetSockOpt`
has remembered.
-/

namespace SlpClient.Bsd

open SlpClient.Lib
open SlpClient.Net

/-! ## Modes -/

/-- What a game sets on a socket. -/
structure Modes where
  nonBlocking : Bool
  broadcast : Bool
deriving DecidableEq

/-- The number that `SO_TYPE` reports. -/
def SocketType.number : SocketType → Int
  | .stream => 1
  | .dgram => 2
  | .raw => 3
  | .seqpacket => 5
  | .other number => number

namespace ProxySocket

def modes (socket : ProxySocket) : Modes where
  nonBlocking := socket.nonBlocking
  broadcast := socket.broadcast

/--
`ProxySocket::GetSockOpt` into a buffer of `capacity` bytes; there is no
value when the answer is `ENOPROTOOPT`.
-/
def getSockOpt (socket : ProxySocket) (level option : Int)
    (capacity : Nat) : Option Int :=
  if level = 0xFFFF ∧ 4 ≤ capacity then
    if option = 0x1008 then some socket.type.number
    else if option = 0x1007 then some 0
    else if option = 0x0020 then some (if socket.broadcast then 1 else 0)
    else none
  else none

end ProxySocket

/-- The commands on a descriptor before it is promoted. -/
inductive ModeCommand
  | socket (session : Nat) (type protocol errno : Int)
  | setFlags (argument : Int)
  | setBroadcast (value : Int)

/-- The command, which the real service accepts. -/
def ModeCommand.command (fd : Int) : ModeCommand → Service.Command
  | .socket session type protocol errno =>
      .socket session type protocol ⟨true, fd, errno⟩
  | .setFlags argument => .fcntl fd 4 argument ⟨true, 0, 0⟩
  | .setBroadcast value => .setSockOpt fd 0xFFFF 0x0020 (some value)

namespace Modes

/-- The modes of a new socket. -/
def default : Modes where
  nonBlocking := false
  broadcast := false

/-- The modes that a command leaves the socket in. -/
def after (modes : Modes) : ModeCommand → Modes
  | .socket .. => .default
  | .setFlags argument =>
      { modes with nonBlocking := Service.asksNonBlocking argument }
  | .setBroadcast value => { modes with broadcast := value != 0 }

end Modes

/-- The commands that give a descriptor a proxy socket. -/
inductive Promotion
  | bind (addr : List UInt8)
  | connect (addr : List UInt8)
  | sendTo (addr : List UInt8) (length : Nat) (delivered : Bool)

namespace Promotion

def command (fd : Int) : Promotion → Service.Command
  | .bind addr => .bind fd addr
  | .connect addr => .connect fd addr
  | .sendTo addr length delivered => .sendTo fd addr length delivered

def isBind : Promotion → Bool
  | .bind _ => true
  | _ => false

end Promotion

namespace Service

/-- The descriptor is created, its modes are set, and it is promoted. -/
def promoted (service : Service) (fd : Int) (session : Nat)
    (type protocol errno : Int) (commands : List ModeCommand)
    (promotion : Promotion) : Service :=
  machine.next
    (machine.run service
      ((ModeCommand.socket session type protocol errno :: commands).map
        (ModeCommand.command fd)))
    (promotion.command fd)

/--
The proxy socket of `fd` has the modes that were set, and the game is told
the same about them as by the real service: `F_GETFL` reports `O_NONBLOCK`,
and `SO_BROADCAST` reports a number that is not zero.
-/
structure HasModes (service : Service) (fd : Int) (modes : Modes) :
    Prop where
  socket :
    ∃ proxy, service.sockets.lookup fd = some proxy ∧ proxy.modes = modes
  flags :
    ∀ argument reply,
      ∃ value,
        (service.fcntl fd 3 argument reply).2 = .words 0 value ∧
          asksNonBlocking value = modes.nonBlocking
  option :
    ∀ proxy capacity,
      service.sockets.lookup fd = some proxy → 4 ≤ capacity →
        ∃ value,
          proxy.getSockOpt 0xFFFF 0x0020 capacity = some value ∧
            (value != 0) = modes.broadcast

/-- It is enough that the proxy socket has the modes. -/
theorem hasModes_iff {service : Service} {fd : Int} {modes : Modes}
    {proxy : ProxySocket}
    (found : service.sockets.lookup fd = some proxy) :
    service.HasModes fd modes ↔ proxy.modes = modes := by
  constructor
  · intro has
    rcases has.socket with ⟨other, there, same⟩
    rw [found, Option.some.injEq] at there
    rw [there, same]
  · rintro rfl
    refine ⟨⟨proxy, found, rfl⟩, ?_, ?_⟩
    · intro argument reply
      refine ⟨if proxy.nonBlocking then 4 else 0, ?_, ?_⟩
      · unfold fcntl
        rw [found]
        rfl
      · unfold ProxySocket.modes
        cases proxy.nonBlocking <;> rfl
    · intro other capacity there enough
      rw [found, Option.some.injEq] at there
      subst there
      refine ⟨if proxy.broadcast then 1 else 0, ?_, ?_⟩
      · unfold ProxySocket.getSockOpt
        rw [if_pos ⟨rfl, enough⟩]
        rfl
      · unfold ProxySocket.modes
        cases proxy.broadcast <;> rfl

/-! ## Before the promotion -/

/-- The descriptor has no proxy socket, and its broadcast mode is known. -/
structure Prepared (service : Service) (fd : Int) (broadcast : Bool) :
    Prop where
  absent : service.registered fd = false
  entry :
    ∃ entry, service.info.lookup fd = some entry ∧
      entry.broadcast = broadcast

/-- A new socket does not broadcast. -/
theorem prepared_track {service : Service} {fd : Int} (natural : 0 ≤ fd)
    (absent : service.registered fd = false) (session : Nat)
    (type protocol errno : Int) :
    (service.track session type protocol ⟨true, fd, errno⟩).Prepared fd
      Modes.default.broadcast := by
  unfold track
  rw [if_pos ⟨rfl, natural⟩]
  exact ⟨absent, _, AList.lookup_insert _, rfl⟩

/-- Setting a mode leaves a descriptor prepared. -/
theorem Prepared.next {service : Service} {fd : Int} {modes : Modes}
    (natural : 0 ≤ fd) (prepared : service.Prepared fd modes.broadcast)
    (command : ModeCommand) :
    (machine.next service (command.command fd)).Prepared fd
      (modes.after command).broadcast := by
  rcases prepared with ⟨absent, entry, found, broadcast⟩
  have unregistered : service.sockets.lookup fd = none := by
    simpa [registered] using absent
  cases command with
  | socket session type protocol errno =>
      exact prepared_track natural absent session type protocol errno
  | setFlags argument =>
      change
        (service.fcntl fd 4 argument ⟨true, 0, 0⟩).1.Prepared fd
          modes.broadcast
      unfold fcntl
      rw [unregistered]
      exact ⟨absent, entry, found, broadcast⟩
  | setBroadcast value =>
      change
        (service.setSockOpt fd 0xFFFF 0x0020 (some value)).1.Prepared fd
          (value != 0)
      unfold setSockOpt
      rw [unregistered, found]
      exact ⟨absent, _, AList.lookup_insert _, rfl⟩

theorem Prepared.run {service : Service} {fd : Int} {modes : Modes}
    (natural : 0 ≤ fd) (prepared : service.Prepared fd modes.broadcast)
    (commands : List ModeCommand) :
    (machine.run service
      (commands.map (ModeCommand.command fd))).Prepared fd
        (commands.foldl Modes.after modes).broadcast := by
  induction commands generalizing service modes with
  | nil => exact prepared
  | cons command rest induction =>
      exact induction (prepared.next natural command)

/-! ## After the promotion -/

/-- A proxy socket of `fd` can only have these modes. -/
def ModesAt (service : Service) (fd : Int) (modes : Modes) : Prop :=
  ∀ proxy, service.sockets.lookup fd = some proxy → proxy.modes = modes

namespace ModesAt

variable {service : Service} {fd : Int} {modes : Modes}

theorem of_unregistered (absent : service.registered fd = false) :
    service.ModesAt fd modes := by
  intro proxy found
  rw [registered, found] at absent
  contradiction

theorem putSocket {socket : ProxySocket} (same : socket.modes = modes) :
    (service.putSocket fd socket).ModesAt fd modes := by
  intro proxy found
  rw [Service.putSocket, AList.lookup_insert, Option.some.injEq] at found
  rw [← found, same]

theorem markProxy (at_ : service.ModesAt fd modes) :
    (service.markProxy fd).ModesAt fd modes := by
  intro proxy found
  rw [markProxy_sockets] at found
  exact at_ proxy found

theorem withPorts (at_ : service.ModesAt fd modes)
    (ports : EphemeralPortPool) :
    (service.withPorts ports).ModesAt fd modes :=
  at_

theorem bindSocket (at_ : service.ModesAt fd modes)
    {socket : ProxySocket} (same : socket.modes = modes)
    (addr : SockAddrIn) (protocol : ProtocolType) :
    (service.bindSocket fd socket addr protocol).1.ModesAt fd modes := by
  unfold Service.bindSocket ProxySocket.bind
  split
  · exact at_
  · split_ifs
    · exact at_
    · exact at_
    · refine ModesAt.markProxy (putSocket ?_)
      exact same

theorem connectSocket {socket : ProxySocket} (same : socket.modes = modes)
    (addr : SockAddrIn) :
    (service.connectSocket fd socket addr).1.ModesAt fd modes := by
  unfold Service.connectSocket ProxySocket.connect
  split_ifs
  · exact putSocket same
  · exact putSocket same
  · refine ModesAt.markProxy (putSocket ?_)
    exact same

end ModesAt

section Promotions

variable {service : Service} {fd : Int} {entry : SocketInfo}
  (absent : service.registered fd = false)

include absent

/-- `Bind` gives the proxy socket the broadcast mode that was remembered. -/
theorem modesAt_bindProxy (addr : SockAddrIn) :
    (service.bindProxy fd entry addr).1.ModesAt fd
      ⟨false, entry.broadcast⟩ := by
  have new :
      ((service.candidate fd entry).allowBroadcast entry.broadcast).modes =
        ⟨false, entry.broadcast⟩ := by
    rw [candidate_of_unregistered entry absent]
    unfold ProxySocket.allowBroadcast
    cases entry.broadcast <;> rfl
  rw [bindProxy_eq]
  split
  · exact .of_unregistered absent
  · exact (ModesAt.putSocket new).bindSocket new _ _

theorem modesAt_connectNew (addr : SockAddrIn) :
    (service.connectNew fd entry addr).1.ModesAt fd .default := by
  rw [connectNew_eq entry addr absent]
  split
  · exact .of_unregistered absent
  · split
    · exact .putSocket rfl
    · exact .connectSocket rfl addr

theorem modesAt_autoBind :
    (service.autoBind fd entry).1.ModesAt fd .default := by
  rw [autoBind_eq entry absent]
  dsimp only
  split
  · exact .of_unregistered absent
  · split
    · exact .putSocket rfl
    · exact .putSocket rfl

end Promotions

/-- The modes that a promotion gives the proxy socket. -/
def promotedModes (promotion : Promotion) (modes : Modes) : Modes where
  nonBlocking := false
  broadcast := promotion.isBind && modes.broadcast

theorem Prepared.modesAt {service : Service} {fd : Int} {modes : Modes}
    (prepared : service.Prepared fd modes.broadcast)
    (promotion : Promotion) :
    (machine.next service (promotion.command fd)).ModesAt fd
      (promotedModes promotion modes) := by
  rcases prepared with ⟨absent, entry, tracked, remembered⟩
  have unregistered : service.sockets.lookup fd = none := by
    simpa [registered] using absent
  cases promotion with
  | bind addr =>
      change (service.bind fd addr).1.ModesAt fd ⟨false, modes.broadcast⟩
      unfold bind
      split
      · rename_i found taken
        have same := (intercepted_eq_some taken).1
        rw [tracked, Option.some.injEq] at same
        rw [← remembered, same]
        exact modesAt_bindProxy absent _
      · exact .of_unregistered absent
  | connect addr =>
      change (service.connect fd addr).1.ModesAt fd .default
      unfold connect
      split
      · rw [unregistered]
        exact modesAt_connectNew absent _
      · exact .of_unregistered absent
  | sendTo addr length delivered =>
      change (service.sendTo fd addr length delivered).1.ModesAt fd .default
      rw [sendTo_state]
      unfold promoteSender
      split
      · exact .of_unregistered absent
      · rename_i found taken
        have bound : (service.autoBind fd found).1.ModesAt fd .default :=
          modesAt_autoBind absent
        split
        · rename_i same
          rw [same] at bound
          exact bound
        · rename_i same
          rw [same] at bound
          exact bound.markProxy

/--
Exactly when a promotion keeps the modes: the socket was not made
non-blocking, and it is promoted by `Bind` or does not broadcast.
-/
theorem promoted_hasModes_iff
    (service : Service) (fd : Int) (session : Nat)
    (type protocol errno : Int) (commands : List ModeCommand)
    (promotion : Promotion) (natural : 0 ≤ fd)
    (absent : service.registered fd = false)
    (present :
      (service.promoted fd session type protocol errno commands
        promotion).registered fd = true) :
    (service.promoted fd session type protocol errno commands
        promotion).HasModes fd (commands.foldl Modes.after .default) ↔
      (commands.foldl Modes.after .default).nonBlocking = false ∧
        (promotion.isBind = true ∨
          (commands.foldl Modes.after .default).broadcast = false) := by
  have created :
      (machine.next service
        ((ModeCommand.socket session type protocol errno).command
          fd)).Prepared fd Modes.default.broadcast :=
    prepared_track natural absent session type protocol errno
  have modesAt := (created.run natural commands).modesAt promotion
  rcases Option.isSome_iff_exists.mp present with ⟨proxy, found⟩
  have given := modesAt proxy found
  generalize commands.foldl Modes.after .default = modes at given ⊢
  rw [hasModes_iff found, given]
  rcases modes with ⟨nonBlocking, broadcast⟩
  unfold promotedModes
  rw [Modes.mk.injEq]
  cases nonBlocking <;> cases broadcast <;> cases promotion.isBind <;>
    decide

/-- The address `10.13.0.2:30000`. -/
def lanAddress : List UInt8 :=
  [16, 2, 117, 48, 10, 13, 0, 2, 0, 0, 0, 0, 0, 0, 0, 0]

/-- A datagram socket that broadcasts and is bound. -/
theorem broadcastingBind_hasModes :
    ((initial 0).promoted 3 1 2 17 0 [.setBroadcast 1]
        (.bind lanAddress)).HasModes 3 ⟨false, true⟩ := by
  have kept :=
    (promoted_hasModes_iff (initial 0) 3 1 2 17 0 [.setBroadcast 1]
      (.bind lanAddress) (by decide) rfl (by decide)).mpr
        ⟨by decide, .inl rfl⟩
  exact kept

/-- A non-blocking socket that sends to the virtual LAN blocks. -/
theorem nonBlockingSender_loses_modes :
    ((initial 0).promoted 3 1 2 17 0 [.setFlags 4]
        (.sendTo lanAddress 4 true)).registered 3 = true ∧
      ¬((initial 0).promoted 3 1 2 17 0 [.setFlags 4]
        (.sendTo lanAddress 4 true)).HasModes 3 ⟨true, false⟩ := by
  constructor
  · decide
  · intro has
    rcases has.socket with ⟨proxy, found, same⟩
    have blocking :
        (((initial 0).promoted 3 1 2 17 0 [.setFlags 4]
          (.sendTo lanAddress 4 true)).sockets.lookup 3).all
            (fun proxy => !proxy.nonBlocking) = true := by
      decide
    rw [found] at blocking
    have set := congrArg Modes.nonBlocking same
    simp [ProxySocket.modes] at set
    simp [set] at blocking

end Service

end SlpClient.Bsd
