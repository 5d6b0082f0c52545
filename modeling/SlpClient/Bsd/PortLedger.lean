import SlpClient.Bsd.Shapes
import SlpClient.Lib.Ledger

/-!
# Ephemeral ports and proxy sockets

The port pool is a ledger: the marked ports are its resources, the proxy
sockets their holders.  This module says exactly which commands keep it
balanced.  The only one that can lose the balance is a `Bind` that reserves
a port for a proxy socket that was bound before, or for one that was created
for a socket of the other pool.

A port is told apart from the same port of the other pool only.  The pool
keeps the protocols other than TCP with UDP, so a socket of such a protocol
counts among the UDP sockets.
-/

namespace SlpClient.Bsd

open SlpClient.Lib
open EphemeralPortPool

/-! ## Ports as resources -/

namespace EphemeralPortPool

theorem samePool.symm {left right : ProtocolType}
    (same : samePool left right) : samePool right left :=
  Iff.symm same

theorem isPortAllocated_congr
    (pool : EphemeralPortPool) (port : UInt16) {left right : ProtocolType}
    (same : samePool left right) :
    pool.isPortAllocated port left = pool.isPortAllocated port right := by
  have bits : pool.getBitset left = pool.getBitset right :=
    if_congr same rfl rfl
  unfold isPortAllocated
  rw [bits]

/-- The marked ports, for each protocol. -/
def takenPorts (pool : EphemeralPortPool) : Set (UInt16 × ProtocolType) :=
  { slot | pool.isPortAllocated slot.1 slot.2 = true }

theorem mem_takenPorts
    {pool : EphemeralPortPool} {port : UInt16} {protocol : ProtocolType} :
    (port, protocol) ∈ pool.takenPorts ↔
      pool.isPortAllocated port protocol = true :=
  Iff.rfl

/-- A port of a protocol's pool, under each protocol that shares it. -/
def slots (port : UInt16) (protocol : ProtocolType) :
    Set (UInt16 × ProtocolType) :=
  { slot | slot.1 = port ∧ samePool protocol slot.2 }

theorem slots_nonempty (port : UInt16) (protocol : ProtocolType) :
    (slots port protocol).Nonempty :=
  ⟨(port, protocol), rfl, Iff.rfl⟩

theorem slots_eq_iff
    {port : UInt16} {left right : ProtocolType} :
    slots port left = slots port right ↔ samePool left right := by
  constructor
  · intro equal
    have member : (port, right) ∈ slots port left := by
      rw [equal]
      exact ⟨rfl, Iff.rfl⟩
    exact member.2
  · intro same
    ext ⟨other, protocol⟩
    constructor
    · rintro ⟨located, shared⟩
      exact ⟨located, same.symm.trans shared⟩
    · rintro ⟨located, shared⟩
      exact ⟨located, same.trans shared⟩

namespace Marks

variable
    {before after : EphemeralPortPool}
    {port : UInt16}
    {protocol : ProtocolType}
    (marks : Marks before port protocol after)

include marks

theorem takenPorts_eq :
    after.takenPorts = before.takenPorts ∪ slots port protocol := by
  ext ⟨other, anyProtocol⟩
  have marked := marks.marked other anyProtocol
  simp only [takenPorts, slots, Set.mem_ofPred_eq, Set.mem_union, marked]
  split
  · rename_i same
    simp [same]
  · rename_i differs
    simp only [differs, or_false]

theorem slots_free : Disjoint (slots port protocol) before.takenPorts := by
  rw [Set.disjoint_left]
  rintro ⟨other, anyProtocol⟩ ⟨located, shared⟩ taken
  have allocated : before.isPortAllocated other anyProtocol = true := taken
  have same : other = port := located
  have free := marks.free
  rw [before.isPortAllocated_congr port shared, ← same, allocated] at free
  contradiction

end Marks

theorem takenPorts_releasePort
    (pool : EphemeralPortPool) (port : UInt16) (protocol : ProtocolType) :
    (pool.releasePort port protocol).takenPorts =
      pool.takenPorts \ slots port protocol := by
  ext ⟨other, anyProtocol⟩
  simp only [takenPorts, slots, Set.mem_ofPred_eq, Set.mem_sdiff,
    isPortAllocated_releasePort]
  split
  · rename_i same
    simp [same]
  · rename_i differs
    simp only [differs, not_false_eq_true, and_true]

end EphemeralPortPool

/-- The ports of the pool that a proxy socket holds. -/
def ProxySocket.heldPorts (socket : ProxySocket) :
    Set (UInt16 × ProtocolType) :=
  { slot |
    isEphemeral slot.1 ∧ slot ∈ slots socket.localAddr.port socket.protocol }

namespace ProxySocket

theorem heldPorts_congr
    {left right : ProxySocket}
    (sameAddr : left.localAddr = right.localAddr)
    (sameProtocol : left.protocol = right.protocol) :
    left.heldPorts = right.heldPorts := by
  unfold heldPorts
  rw [sameAddr, sameProtocol]

theorem heldPorts_ephemeral
    {socket : ProxySocket} (tracked : isEphemeral socket.localAddr.port) :
    socket.heldPorts = slots socket.localAddr.port socket.protocol := by
  ext slot
  constructor
  · rintro ⟨_, member⟩
    exact member
  · rintro ⟨located, shared⟩
    refine ⟨?_, located, shared⟩
    rw [located]
    exact tracked

theorem heldPorts_untracked
    {socket : ProxySocket} (untracked : ¬isEphemeral socket.localAddr.port) :
    socket.heldPorts = ∅ := by
  rw [Set.eq_empty_iff_forall_notMem]
  rintro slot ⟨tracked, located, _⟩
  rw [located] at tracked
  exact untracked tracked

theorem heldPorts_created
    {socket : ProxySocket} (created : socket.state = .created) :
    socket.heldPorts = ∅ := by
  apply heldPorts_untracked
  rw [socket.created_port created]
  decide

end ProxySocket

namespace Service

/-- `fd` has a proxy socket on the port, in the pool of the protocol. -/
def OnPort (service : Service) (fd : Int) (port : UInt16)
    (protocol : ProtocolType) : Prop :=
  ∃ socket,
    service.sockets.lookup fd = some socket ∧
      socket.localAddr.port = port ∧ samePool socket.protocol protocol

/-- The marked ports are those of the proxy sockets, and none is shared. -/
structure PortsAgree (service : Service) : Prop where
  allocated :
    ∀ protocol port, isEphemeral port →
      (service.ports.isPortAllocated port protocol = true ↔
        ∃ fd, service.OnPort fd port protocol)
  unshared :
    ∀ protocol port first second, isEphemeral port →
      service.OnPort first port protocol →
        service.OnPort second port protocol → first = second

/-- The ports of the pool that a descriptor's proxy socket holds. -/
def portsOf (service : Service) (fd : Int) : Set (UInt16 × ProtocolType) :=
  match service.sockets.lookup fd with
  | none => ∅
  | some socket => socket.heldPorts

theorem mem_portsOf
    {service : Service} {fd : Int} {port : UInt16}
    {protocol : ProtocolType} :
    (port, protocol) ∈ service.portsOf fd ↔
      isEphemeral port ∧ service.OnPort fd port protocol := by
  unfold portsOf OnPort
  cases service.sockets.lookup fd with
  | none => simp
  | some socket =>
      simp [ProxySocket.heldPorts, slots, eq_comm]

/-- The pool and the registry agree when the ledger is balanced. -/
theorem portsAgree_iff_balanced {service : Service} :
    service.PortsAgree ↔
      Balanced service.ports.takenPorts service.portsOf := by
  constructor
  · intro agree
    apply Balanced.of_mem
    · rintro ⟨port, protocol⟩
      simp only [mem_takenPorts, mem_portsOf]
      by_cases tracked : isEphemeral port
      · simpa [tracked] using agree.allocated protocol port tracked
      · have free :=
          service.ports.isPortAllocated_untracked tracked protocol
        simp [free, tracked]
    · rintro ⟨port, protocol⟩ first second left right
      rw [mem_portsOf] at left right
      exact
        agree.unshared protocol port first second left.1 left.2 right.2
  · intro balanced
    constructor
    · intro protocol port tracked
      rw [← mem_takenPorts, balanced.mem_marked_iff]
      simp [mem_portsOf, tracked]
    · intro protocol port first second tracked left right
      exact
        balanced.holder_unique (mem_portsOf.mpr ⟨tracked, left⟩)
          (mem_portsOf.mpr ⟨tracked, right⟩)

/-! ## What the updates do to the ledger -/

theorem portsOf_putSocket
    (service : Service) (fd : Int) (socket : ProxySocket) :
    (service.putSocket fd socket).portsOf =
      Function.update service.portsOf fd socket.heldPorts := by
  funext other
  unfold portsOf putSocket
  rcases eq_or_ne other fd with rfl | differs
  · simp
  · rw [Function.update_of_ne differs]
    dsimp only
    rw [AList.lookup_insert_ne differs]

theorem portsOf_registered
    {service : Service} {fd : Int} {socket : ProxySocket}
    (found : service.sockets.lookup fd = some socket) :
    service.portsOf fd = socket.heldPorts := by
  unfold portsOf
  rw [found]

theorem portsOf_unregistered
    {service : Service} {fd : Int}
    (absent : service.sockets.lookup fd = none) :
    service.portsOf fd = ∅ := by
  unfold portsOf
  rw [absent]

/-- The ledger reads the registry and the pool only. -/
theorem PortsAgree.of_eq
    {before after : Service} (agree : before.PortsAgree)
    (sameSockets : after.sockets = before.sockets)
    (samePorts : after.ports = before.ports) : after.PortsAgree := by
  have sameHeld : after.portsOf = before.portsOf := by
    funext fd
    unfold portsOf
    rw [sameSockets]
  rw [portsAgree_iff_balanced] at agree ⊢
  rw [samePorts, sameHeld]
  exact agree

theorem markProxy_ports (service : Service) (fd : Int) :
    (service.markProxy fd).ports = service.ports := by
  unfold markProxy
  split <;> rfl

theorem portsAgree_markProxy_iff {service : Service} {fd : Int} :
    (service.markProxy fd).PortsAgree ↔ service.PortsAgree := by
  have sameSockets := service.markProxy_sockets fd
  have samePorts := service.markProxy_ports fd
  constructor
  · intro agree
    exact agree.of_eq sameSockets.symm samePorts.symm
  · intro agree
    exact agree.of_eq sameSockets samePorts

theorem PortsAgree.copyInfo
    {service : Service} (agree : service.PortsAgree) (fd : Int)
    (reply : Reply) : (service.copyInfo fd reply).PortsAgree := by
  unfold Service.copyInfo
  split
  · split
    · exact agree
    · exact agree.of_eq rfl rfl
  · exact agree

theorem PortsAgree.track
    {service : Service} (agree : service.PortsAgree) (session : Nat)
    (type protocol : Int) (reply : Reply) :
    (service.track session type protocol reply).PortsAgree := by
  unfold Service.track
  split
  · exact agree.of_eq rfl rfl
  · exact agree

/-- A change to a socket that leaves it on its port. -/
theorem PortsAgree.putSocket
    {service : Service} (agree : service.PortsAgree) {fd : Int}
    {socket : ProxySocket} (held : socket.heldPorts = service.portsOf fd) :
    (service.putSocket fd socket).PortsAgree := by
  rw [portsAgree_iff_balanced] at agree ⊢
  rw [portsOf_putSocket, held, Function.update_eq_self]
  exact agree

/-- A reserved port that no socket is bound to is lost. -/
theorem PortsAgree.not_withPorts
    {service : Service} (agree : service.PortsAgree) {port : UInt16}
    {protocol : ProtocolType} {ports : EphemeralPortPool}
    (marks : Marks service.ports port protocol ports) :
    ¬(service.withPorts ports).PortsAgree := by
  rw [portsAgree_iff_balanced] at agree ⊢
  change ¬Balanced ports.takenPorts service.portsOf
  rw [marks.takenPorts_eq]
  exact
    agree.not_balanced_of_leak marks.slots_free (slots_nonempty port protocol)

/-- A socket without a port is bound to a newly reserved one. -/
theorem PortsAgree.bound_iff
    {service : Service} (agree : service.PortsAgree) {fd : Int}
    {protocol : ProtocolType} {ports : EphemeralPortPool}
    {socket : ProxySocket}
    (marks : Marks service.ports socket.localAddr.port protocol ports)
    (portless : service.portsOf fd = ∅) :
    ((service.withPorts ports).putSocket fd socket).PortsAgree ↔
      samePool protocol socket.protocol := by
  have placed :
      ((service.withPorts ports).putSocket fd socket).portsOf =
        Function.update service.portsOf fd
          (service.portsOf fd ∪ socket.heldPorts) := by
    rw [portsOf_putSocket, portless, Set.empty_union]
    rfl
  have fresh : Disjoint socket.heldPorts (service.portsOf fd) := by
    rw [portless]
    exact Set.disjoint_empty _
  rw [portsAgree_iff_balanced] at agree ⊢
  rw [placed]
  change Balanced ports.takenPorts _ ↔ _
  rw [marks.takenPorts_eq, agree.take_iff marks.slots_free fresh,
    ProxySocket.heldPorts_ephemeral marks.ephemeral, slots_eq_iff]

theorem portsOf_closeProxySocket (service : Service) (fd : Int) :
    (service.closeProxySocket fd).portsOf =
      Function.update service.portsOf fd ∅ := by
  funext other
  unfold portsOf
  rw [closeProxySocket_sockets]
  rcases eq_or_ne other fd with rfl | differs
  · simp
  · rw [Function.update_of_ne differs, AList.lookup_erase_ne differs]

/-- Closing a proxy socket gives back the port that it holds. -/
theorem takenPorts_closeProxySocket (service : Service) (fd : Int) :
    (service.closeProxySocket fd).ports.takenPorts =
      service.ports.takenPorts \ service.portsOf fd := by
  unfold closeProxySocket
  cases found : service.sockets.lookup fd with
  | none => rw [portsOf_unregistered found, Set.sdiff_empty]
  | some socket =>
      rw [portsOf_registered found]
      dsimp only
      by_cases tracked : isEphemeral socket.localAddr.port
      · have named : socket.localAddr.port ≠ 0 := by
          intro unnamed
          rw [unnamed] at tracked
          exact absurd tracked (by decide)
        rw [if_neg named, takenPorts_releasePort,
          ProxySocket.heldPorts_ephemeral tracked]
      · have unchanged :
            service.ports.releasePort socket.localAddr.port
              socket.protocol = service.ports := by
          unfold releasePort
          rw [portToIndex_eq_none.mpr tracked]
        rw [ProxySocket.heldPorts_untracked tracked, Set.sdiff_empty,
          unchanged, ite_self]

theorem PortsAgree.closeProxySocket
    {service : Service} (agree : service.PortsAgree) (fd : Int) :
    (service.closeProxySocket fd).PortsAgree := by
  rw [portsAgree_iff_balanced] at agree ⊢
  rw [takenPorts_closeProxySocket, portsOf_closeProxySocket]
  exact agree.release fd

/-! ## Which steps keep the ledger balanced -/

/-- The steps that neither lose a port nor share one. -/
def KeepsPorts (service : Service) : Command → Prop
  | .bind fd buffer =>
      ∀ addr entry,
        service.intercepted fd buffer promotes = some (addr, entry) →
          ∀ socket, service.sockets.lookup fd = some socket →
            fromPool addr.port →
              service.ports.CanClaim addr.port entry.protocol →
                socket.state = .created ∧
                  samePool entry.protocol socket.protocol
  | _ => True

/-- What holds of a new socket holds of the candidate if of the registered. -/
theorem forall_registered_iff
    {service : Service} {fd : Int} {entry : SocketInfo}
    {property : ProxySocket → Prop}
    (new : property (.create entry.type entry.protocol)) :
    (∀ socket, service.sockets.lookup fd = some socket → property socket) ↔
      property (service.candidate fd entry) := by
  unfold candidate
  cases service.sockets.lookup fd with
  | none => simpa using new
  | some socket => simp

theorem heldPorts_candidate
    (service : Service) (fd : Int) (entry : SocketInfo) :
    (service.candidate fd entry).heldPorts = service.portsOf fd := by
  unfold candidate portsOf
  cases service.sockets.lookup fd with
  | none => exact ProxySocket.heldPorts_created rfl
  | some socket => rfl

section Steps

variable
    {service : Service}
    (agree : service.PortsAgree)

include agree

theorem portsAgree_bindSocket_iff
    {fd : Int} {socket : ProxySocket} {addr : SockAddrIn}
    {protocol : ProtocolType} (inet : addr.family = familyInet)
    (held : socket.heldPorts = service.portsOf fd) :
    (service.bindSocket fd socket addr protocol).1.PortsAgree ↔
      (fromPool addr.port → service.ports.CanClaim addr.port protocol →
        socket.state = .created ∧ samePool protocol socket.protocol) := by
  rcases service.bindSocket_cases fd socket protocol inet with
    ⟨failed, same⟩ | ⟨ports, port, claimed, outcome⟩
  · have unclaimed := claimPort_eq_none.mp failed
    rw [same]
    simp [agree, unclaimed]
  · have claimable : service.ports.CanClaim addr.port protocol := by
      by_contra unclaimed
      rw [claimPort_eq_none.mpr unclaimed] at claimed
      contradiction
    rcases claimPort_cases claimed with
      ⟨outside, untracked, samePorts⟩ | ⟨inside, marks⟩
    · subst samePorts
      refine iff_of_true ?_ (fun inside => absurd inside outside)
      rcases outcome with ⟨_, same⟩ | ⟨created, same⟩
      · rw [same]
        exact agree
      · rw [same, portsAgree_markProxy_iff]
        apply PortsAgree.putSocket agree
        rw [ProxySocket.heldPorts_untracked untracked, ← held,
          ProxySocket.heldPorts_created created]
    · simp only [inside, claimable, true_implies]
      rcases outcome with ⟨refused, same⟩ | ⟨created, same⟩
      · rw [same]
        exact
          iff_of_false (agree.not_withPorts marks)
            (fun both => refused both.1)
      · have portless : service.portsOf fd = ∅ := by
          rw [← held, ProxySocket.heldPorts_created created]
        rw [same, portsAgree_markProxy_iff]
        have bound :
            ((service.withPorts ports).putSocket fd
              (socket.boundTo { addr with port := port })).PortsAgree ↔
                samePool protocol socket.protocol :=
          agree.bound_iff marks portless
        rw [bound]
        simp [created]

theorem portsAgree_bindProxy_iff
    {fd : Int} {entry : SocketInfo} {addr : SockAddrIn}
    (inet : addr.family = familyInet) :
    (service.bindProxy fd entry addr).1.PortsAgree ↔
      (fromPool addr.port →
        service.ports.CanClaim addr.port entry.protocol →
          (service.candidate fd entry).state = .created ∧
            samePool entry.protocol
              (service.candidate fd entry).protocol) := by
  rw [bindProxy_eq]
  by_cases crowded : service.crowded fd = true
  · rw [if_pos crowded]
    have absent : service.registered fd = false := by
      simp only [Service.crowded, Bool.and_eq_true, Bool.not_eq_true']
        at crowded
      exact crowded.1
    rw [candidate_of_unregistered entry absent]
    exact iff_of_true agree (fun _ _ => ⟨rfl, Iff.rfl⟩)
  · rw [if_neg crowded]
    generalize optioned :
      (service.candidate fd entry).allowBroadcast entry.broadcast = socket
    have held : socket.heldPorts = service.portsOf fd := by
      rw [← service.heldPorts_candidate fd entry, ← optioned]
      exact
        ProxySocket.heldPorts_congr
          (ProxySocket.allowBroadcast_localAddr ..)
          (ProxySocket.allowBroadcast_protocol ..)
    have stillHeld :
        socket.heldPorts = (service.putSocket fd socket).portsOf fd := by
      rw [portsOf_putSocket, Function.update_self]
    have boundInet : (service.bindAddress addr).family = familyInet :=
      (service.bindAddress_family addr).trans inet
    rw [portsAgree_bindSocket_iff (agree.putSocket held) boundInet
        stillHeld, bindAddress_port, ← optioned,
      ProxySocket.allowBroadcast_state,
      ProxySocket.allowBroadcast_protocol]
    rfl

theorem portsAgree_bind_iff (fd : Int) (buffer : List UInt8) :
    (service.bind fd buffer).1.PortsAgree ↔
      service.KeepsPorts (.bind fd buffer) := by
  apply iff_forall_intercepted
  · intro passed
    unfold bind
    rw [passed]
    exact agree
  · intro addr entry taken
    rcases intercepted_eq_some taken with ⟨_, inet, _⟩
    unfold bind
    rw [taken]
    dsimp only
    rw [portsAgree_bindProxy_iff agree inet]
    symm
    apply forall_registered_iff
    exact fun _ _ => ⟨rfl, Iff.rfl⟩

/-- `Connect` changes no local address. -/
theorem portsAgree_connectSocket
    {fd : Int} {socket : ProxySocket} {addr : SockAddrIn}
    (inet : addr.family = familyInet)
    (held : socket.heldPorts = service.portsOf fd) :
    (service.connectSocket fd socket addr).1.PortsAgree := by
  rw [connectSocket_eq _ _ _ inet]
  split
  · exact agree.putSocket held
  · rw [portsAgree_markProxy_iff]
    exact agree.putSocket held

/-- A new socket that is bound to an allocated port. -/
theorem portsAgree_autoBound
    {fd : Int} (absent : service.sockets.lookup fd = none)
    {type : SocketType} {protocol : ProtocolType}
    {ports : EphemeralPortPool} {port : UInt16}
    (allocated :
      service.ports.allocatePort protocol = some (ports, port)) :
    ((service.withPorts ports).putSocket fd
      ((ProxySocket.create type protocol).boundTo
        (.inet service.localIp port))).PortsAgree := by
  have bound :
      ((service.withPorts ports).putSocket fd
        ((ProxySocket.create type protocol).boundTo
          (.inet service.localIp port))).PortsAgree ↔
        samePool protocol protocol :=
    agree.bound_iff (allocatePort_marks allocated)
      (portsOf_unregistered absent)
  exact bound.mpr Iff.rfl

theorem portsAgree_created
    {fd : Int} (absent : service.sockets.lookup fd = none)
    (type : SocketType) (protocol : ProtocolType) :
    (service.putSocket fd (.create type protocol)).PortsAgree := by
  apply agree.putSocket
  rw [portsOf_unregistered absent, ProxySocket.heldPorts_created rfl]

theorem portsAgree_connect (fd : Int) (buffer : List UInt8) :
    (service.connect fd buffer).1.PortsAgree := by
  unfold connect
  split
  · rename_i addr entry taken
    rcases intercepted_eq_some taken with ⟨_, inet, _⟩
    split
    · rename_i socket found
      exact
        portsAgree_connectSocket agree inet (portsOf_registered found).symm
    · rename_i absent
      rw [connectNew_eq entry addr (by simp [registered, absent])]
      split
      · exact agree
      · split
        · exact portsAgree_created agree absent _ _
        · rename_i ports port allocated
          apply portsAgree_connectSocket _ inet
          · rw [portsOf_putSocket, Function.update_self]
          · exact portsAgree_autoBound agree absent allocated
  · exact agree

theorem portsAgree_sendTo
    (fd : Int) (buffer : List UInt8) (length : Nat) (delivered : Bool) :
    (service.sendTo fd buffer length delivered).1.PortsAgree := by
  rw [sendTo_state]
  unfold promoteSender
  split
  · exact agree
  · rename_i entry taken
    cases found : service.sockets.lookup fd with
    | some socket =>
        have bound : service.autoBind fd entry = (service, none) := by
          unfold autoBind
          rw [found]
        rw [bound]
        dsimp only
        rw [portsAgree_markProxy_iff]
        exact agree
    | none =>
        rw [autoBind_eq entry (by simp [registered, found])]
        dsimp only
        rw [portsAgree_markProxy_iff]
        split
        · exact agree
        · split
          · exact portsAgree_created agree found _ _
          · rename_i ports port allocated
            exact portsAgree_autoBound agree found allocated

theorem portsAgree_setSockOpt
    (fd level option : Int) (value : Option Int) :
    (service.setSockOpt fd level option value).1.PortsAgree := by
  rcases service.setSockOpt_cases fd level option value with
    same | ⟨socket, found, same⟩ | ⟨entry, enabled, _, same⟩
  · rw [same]
    exact agree
  · rw [same]
    apply agree.putSocket
    rw [portsOf_registered found]
    unfold ProxySocket.setSockOpt
    split
    · split <;> rfl
    · rfl
  · rw [same]
    exact agree.of_eq rfl rfl

theorem portsAgree_fcntl (fd command argument : Int) (reply : Reply) :
    (service.fcntl fd command argument reply).1.PortsAgree := by
  by_cases duplication : isDuplication command = true
  · rw [service.fcntl_duplication fd argument reply duplication]
    exact agree.copyInfo fd reply
  · rcases service.fcntl_cases fd argument reply duplication with
      same | ⟨socket, found, same⟩
    · rw [same]
      exact agree
    · rw [same]
      apply agree.putSocket
      rw [portsOf_registered found]
      rfl

theorem portsAgree_close (fd : Int) :
    (service.close fd).1.PortsAgree := by
  unfold close
  split
  · exact agree
  · split
    · exact (agree.closeProxySocket fd).of_eq rfl rfl
    · exact agree.of_eq rfl rfl

theorem portsAgree_foldl_closeProxySocket (keys : List Int) :
    (keys.foldl closeProxySocket service).PortsAgree := by
  induction keys generalizing service with
  | nil => exact agree
  | cons key keys induction =>
      exact induction (agree.closeProxySocket key)

theorem portsAgree_destroy (session : Nat) :
    (service.destroy session).PortsAgree := by
  unfold destroy
  apply portsAgree_foldl_closeProxySocket
  exact
    agree.of_eq (foldl_dropInfo_sockets ..) (foldl_dropInfo_ports ..)

theorem portsAgree_next_iff (command : Command) :
    (machine.next service command).PortsAgree ↔
      service.KeepsPorts command := by
  cases command with
  | bind fd buffer => exact portsAgree_bind_iff agree fd buffer
  | socket session type protocol reply =>
      exact iff_of_true (agree.track session type protocol reply) trivial
  | socketExempt session type protocol reply =>
      exact iff_of_true (agree.track session type protocol reply) trivial
  | connect fd buffer =>
      exact iff_of_true (portsAgree_connect agree fd buffer) trivial
  | sendTo fd buffer length delivered =>
      exact
        iff_of_true (portsAgree_sendTo agree fd buffer length delivered)
          trivial
  | setSockOpt fd level option value =>
      exact
        iff_of_true (portsAgree_setSockOpt agree fd level option value)
          trivial
  | fcntl fd command argument reply =>
      exact
        iff_of_true (portsAgree_fcntl agree fd command argument reply)
          trivial
  | duplicateSocket fd reply =>
      exact iff_of_true (agree.copyInfo fd reply) trivial
  | accept fd reply => exact iff_of_true (agree.copyInfo fd reply) trivial
  | close fd => exact iff_of_true (portsAgree_close agree fd) trivial
  | destroy session =>
      exact iff_of_true (portsAgree_destroy agree session) trivial

end Steps

/-! ## Runs -/

theorem initial_portsAgree (localIp : UInt32) :
    (initial localIp).PortsAgree := by
  have free :
      ∀ protocol port,
        (initial localIp).ports.isPortAllocated port protocol =
          false := by
    intro protocol port
    unfold isPortAllocated getBitset
    split
    · rfl
    · split <;> rfl
  have unheld :
      ∀ fd port protocol, ¬(initial localIp).OnPort fd port protocol := by
    rintro fd port protocol ⟨socket, found, _⟩
    simp [initial] at found
  constructor
  · intro protocol port _
    simp [unheld, free]
  · intro protocol port first second _ left _
    exact absurd left (unheld first port protocol)

/--
The pool and the proxy sockets agree on the ports after every command of a
run exactly when no `Bind` of it reserves a port that its proxy socket does
not get.
-/
theorem portsAgree_iff_keepsPorts
    (localIp : UInt32) (commands : List Command) :
    machine.EachState PortsAgree (initial localIp) commands ↔
      machine.EachStep KeepsPorts (initial localIp) commands :=
  Machine.eachState_iff_eachStep
    (fun _ command agree => portsAgree_next_iff agree command)
    (initial_portsAgree localIp)

/-- A UDP socket that is bound twice to any port of `10.13.0.2`. -/
def repeatedBind : List Command :=
  [.socket 1 2 17 ⟨true, 3, 0⟩,
    .bind 3 [16, 2, 0, 0, 10, 13, 0, 2, 0, 0, 0, 0, 0, 0, 0, 0],
    .bind 3 [16, 2, 0, 0, 10, 13, 0, 2, 0, 0, 0, 0, 0, 0, 0, 0]]

/-- The second bind reserves a port, the socket stays on the first. -/
theorem repeatedBind_outcome :
    (machine.run (initial 0) repeatedBind).ports.isPortAllocated 49153
        .udp = true ∧
      (machine.run (initial 0) repeatedBind).sockets.keys = [3] ∧
        ((machine.run (initial 0) repeatedBind).sockets.lookup 3).map
          (fun socket => socket.localAddr.port) = some 49152 := by
  refine ⟨by decide +kernel, by decide +kernel, by decide +kernel⟩

theorem repeatedBind_loses_port :
    ¬∀ localIp commands,
        machine.EachState PortsAgree (initial localIp) commands := by
  intro always
  have agree := (always 0 repeatedBind).last
  rcases repeatedBind_outcome with ⟨taken, keys, located⟩
  rcases (agree.allocated .udp 49153 (by decide)).mp taken with
    ⟨fd, socket, found, onPort, _⟩
  have member : fd ∈ (machine.run (initial 0) repeatedBind).sockets.keys :=
    AList.mem_keys.mp (AList.lookup_isSome.mp (by simp [found]))
  rw [keys, List.mem_singleton] at member
  rw [member] at found
  rw [found, Option.map_some, onPort] at located
  contradiction

end Service

end SlpClient.Bsd
