import SlpClient.Bsd.Shapes

/-!
# The proxy flag and the proxy registry

Half of the commands decide by the flag that a tracked socket carries, the
other half by the registry of proxy sockets.  This module says exactly which
commands keep the two in agreement: a run does so as long as no step
registers a socket without a flag, or sets a flag without a socket.

What a command does to the two tables is said by `Touches`: at most one
descriptor changes, and it gets a given registration and a given flag.
-/

namespace SlpClient.Bsd

open SlpClient.Lib

namespace Service

/-- A descriptor has a proxy socket exactly when it is tracked as a proxy. -/
def Agrees (service : Service) : Prop :=
  ∀ fd, service.registered fd = service.flagged fd

/-- When nothing is tracked any more, no proxy socket is left. -/
theorem Agrees.registry_empty
    {service : Service} (agrees : service.Agrees)
    (untracked : ∀ fd, service.info.lookup fd = none) (fd : Int) :
    service.sockets.lookup fd = none := by
  have unregistered : service.registered fd = false := by
    rw [agrees fd]
    simp [flagged, untracked fd]
  simpa [registered] using unregistered

/-- A second update of the same descriptor replaces the first. -/
theorem eq_update_again
    {before between after : Int → Bool} {fd : Int} {old new : Bool}
    (updated : between = Function.update before fd old)
    (there : after fd = new)
    (elsewhere : ∀ other, other ≠ fd → after other = between other) :
    after = Function.update before fd new := by
  rw [Function.eq_update_iff]
  refine ⟨there, ?_⟩
  intro other differs
  rw [elsewhere other differs, updated, Function.update_of_ne differs]

/-- `after` is `before` but for the registration and the flag of `fd`. -/
structure Touches (before : Service) (fd : Int)
    (isRegistered isFlagged : Bool) (after : Service) : Prop where
  registered :
    after.registered = Function.update before.registered fd isRegistered
  flagged :
    after.flagged = Function.update before.flagged fd isFlagged

namespace Touches

variable
    {before after : Service}
    {fd : Int}
    {isRegistered isFlagged : Bool}

theorem refl (service : Service) (fd : Int) :
    service.Touches fd (service.registered fd) (service.flagged fd)
      service where
  registered := (Function.update_eq_self ..).symm
  flagged := (Function.update_eq_self ..).symm

theorem putSocket
    (touches : before.Touches fd isRegistered isFlagged after)
    (socket : ProxySocket) :
    before.Touches fd true isFlagged (after.putSocket fd socket) where
  registered := by
    apply eq_update_again touches.registered
    · simp [Service.registered, Service.putSocket]
    · intro other differs
      simp [Service.registered, Service.putSocket,
        AList.lookup_insert_ne differs]
  flagged := touches.flagged

theorem putInfo
    (touches : before.Touches fd isRegistered isFlagged after)
    (entry : SocketInfo) :
    before.Touches fd isRegistered entry.isProxy
      (after.putInfo fd entry) where
  registered := touches.registered
  flagged := by
    apply eq_update_again touches.flagged
    · simp [Service.flagged, Service.putInfo]
    · intro other differs
      simp [Service.flagged, Service.putInfo,
        AList.lookup_insert_ne differs]

theorem markProxy
    (touches : before.Touches fd isRegistered isFlagged after)
    {entry : SocketInfo} (found : after.info.lookup fd = some entry) :
    before.Touches fd isRegistered true (after.markProxy fd) := by
  rw [markProxy_tracked found]
  exact touches.putInfo { entry with isProxy := true }

theorem withPorts
    (touches : before.Touches fd isRegistered isFlagged after)
    (ports : EphemeralPortPool) :
    before.Touches fd isRegistered isFlagged (after.withPorts ports) :=
  ⟨touches.registered, touches.flagged⟩

theorem closeProxySocket
    (touches : before.Touches fd isRegistered isFlagged after) :
    before.Touches fd false isFlagged (after.closeProxySocket fd) where
  registered := by
    apply eq_update_again touches.registered
    · simp [Service.registered, closeProxySocket_sockets]
    · intro other differs
      simp [Service.registered, closeProxySocket_sockets,
        AList.lookup_erase_ne differs]
  flagged := by
    unfold Service.flagged
    rw [closeProxySocket_info]
    exact touches.flagged

theorem dropInfo
    (touches : before.Touches fd isRegistered isFlagged after) :
    before.Touches fd isRegistered false (after.dropInfo fd) where
  registered := touches.registered
  flagged := by
    apply eq_update_again touches.flagged
    · simp [Service.flagged, Service.dropInfo]
    · intro other differs
      simp [Service.flagged, Service.dropInfo,
        AList.lookup_erase_ne differs]

/-- Agreement is kept when the touched descriptor is left in agreement. -/
theorem agrees_iff
    (touches : before.Touches fd isRegistered isFlagged after)
    (agrees : before.Agrees) :
    after.Agrees ↔ isRegistered = isFlagged := by
  unfold Agrees
  rw [touches.registered, touches.flagged]
  constructor
  · intro kept
    simpa using kept fd
  · rintro rfl other
    rcases eq_or_ne other fd with rfl | differs
    · simp
    · rw [Function.update_of_ne differs, Function.update_of_ne differs,
        agrees other]

end Touches

/-! ## Which steps keep the agreement -/

/-- The new descriptor of a created socket is no proxy socket's. -/
def TracksAgreement (service : Service) (reply : Reply) : Prop :=
  reply.ok = true → 0 ≤ reply.fd → service.registered reply.fd = false

/-- The flag that a new descriptor copies fits the registry. -/
def CopiesAgreement (service : Service) (fd : Int) (reply : Reply) : Prop :=
  ∀ entry,
    reply.ok = true → reply.errno = 0 → 0 ≤ reply.fd →
      service.info.lookup fd = some entry →
        service.registered reply.fd = entry.isProxy

/-- The steps that keep the flags and the registry in agreement. -/
def KeepsAgreement (service : Service) : Command → Prop
  | .socket _ _ _ reply => service.TracksAgreement reply
  | .socketExempt _ _ _ reply => service.TracksAgreement reply
  | .bind fd buffer =>
      ∀ addr entry,
        service.intercepted fd buffer promotes = some (addr, entry) →
          service.registered fd = true ∨ service.full = true ∨
            service.ports.CanClaim addr.port entry.protocol
  | .connect fd buffer =>
      ∀ addr entry,
        service.intercepted fd buffer connects = some (addr, entry) →
          service.registered fd = true ∨ service.full = true ∨
            service.ports.CanClaim 0 entry.protocol ∧ entry.type ≠ .stream
  | .sendTo fd buffer _ _ =>
      ∀ addr entry,
        service.intercepted fd buffer promotesSender = some (addr, entry) →
          service.full = false
  | .fcntl fd command _ reply =>
      isDuplication command = true → service.CopiesAgreement fd reply
  | .duplicateSocket fd reply => service.CopiesAgreement fd reply
  | .accept fd reply => service.CopiesAgreement fd reply
  | .setSockOpt .. => True
  | .close _ => True
  | .destroy _ => True

section Steps

variable
    {service : Service}
    (agrees : service.Agrees)

include agrees

theorem agrees_track_iff
    (session : Nat) (type protocol : Int) (reply : Reply) :
    (service.track session type protocol reply).Agrees ↔
      service.TracksAgreement reply := by
  unfold track TracksAgreement
  split
  · rename_i success
    rw [((Touches.refl service reply.fd).putInfo _).agrees_iff agrees]
    simp [success.1, success.2]
  · rename_i failure
    constructor
    · intro _ ok known
      exact absurd ⟨ok, known⟩ failure
    · intro _
      exact agrees

theorem agrees_copyInfo_iff (fd : Int) (reply : Reply) :
    (service.copyInfo fd reply).Agrees ↔
      service.CopiesAgreement fd reply := by
  unfold copyInfo CopiesAgreement
  split
  · rename_i success
    cases found : service.info.lookup fd with
    | none => simp [agrees]
    | some entry =>
        dsimp only
        rw [((Touches.refl service reply.fd).putInfo entry).agrees_iff
          agrees]
        simp [success.1, success.2.1, success.2.2]
  · rename_i failure
    constructor
    · intro _ entry ok noError known
      exact absurd ⟨ok, noError, known⟩ failure
    · intro _
      exact agrees

theorem agrees_bindProxy_iff
    {fd : Int} {entry : SocketInfo} {addr : SockAddrIn}
    (found : service.info.lookup fd = some entry)
    (inet : addr.family = familyInet) :
    (service.bindProxy fd entry addr).1.Agrees ↔
      service.registered fd = true ∨ service.full = true ∨
        service.ports.CanClaim addr.port entry.protocol := by
  rw [bindProxy_eq]
  by_cases crowded : service.crowded fd = true
  · rw [if_pos crowded]
    have full : service.full = true := by
      simp only [Service.crowded, Bool.and_eq_true] at crowded
      exact crowded.2
    simp [agrees, full]
  · rw [if_neg crowded]
    have room : service.registered fd = true ∨ ¬service.full = true := by
      simpa [Service.crowded, or_iff_not_imp_left] using crowded
    generalize optioned :
      (service.candidate fd entry).allowBroadcast entry.broadcast = socket
    have begun := (Touches.refl service fd).putSocket socket
    have boundInet : (service.bindAddress addr).family = familyInet :=
      (service.bindAddress_family addr).trans inet
    rcases
        (service.putSocket fd socket).bindSocket_cases fd socket
          entry.protocol boundInet with
      ⟨failed, same⟩ |
        ⟨ports, port, claimed, ⟨refused, same⟩ | ⟨_, same⟩⟩
    · rw [same, begun.agrees_iff agrees, ← agrees fd]
      have unclaimed : ¬service.ports.CanClaim addr.port entry.protocol := by
        rw [bindAddress_port] at failed
        exact EphemeralPortPool.claimPort_eq_none.mp failed
      constructor
      · intro present
        exact Or.inl present.symm
      · rintro (present | full | claimable)
        · exact present.symm
        · rcases room with present | notFull
          · exact present.symm
          · exact absurd full notFull
        · exact absurd claimable unclaimed
    · rw [same, (begun.withPorts ports).agrees_iff agrees, ← agrees fd]
      have present : service.registered fd = true := by
        by_contra absent
        rw [Bool.not_eq_true] at absent
        rw [← optioned, ProxySocket.allowBroadcast_state,
          candidate_of_unregistered entry absent] at refused
        exact refused rfl
      simp [present]
    · have marked :=
        ((begun.withPorts ports).putSocket
          (socket.boundTo
            { service.bindAddress addr with port := port })).markProxy found
      rw [same]
      have claimable : service.ports.CanClaim addr.port entry.protocol := by
        by_contra unclaimed
        rw [← EphemeralPortPool.claimPort_eq_none] at unclaimed
        rw [bindAddress_port] at claimed
        exact absurd (claimed.symm.trans unclaimed) (Option.some_ne_none _)
      simp [marked.agrees_iff agrees, claimable]

theorem agrees_bind_iff (fd : Int) (buffer : List UInt8) :
    (service.bind fd buffer).1.Agrees ↔
      service.KeepsAgreement (.bind fd buffer) := by
  apply iff_forall_intercepted
  · intro passed
    unfold bind
    rw [passed]
    exact agrees
  · intro addr entry taken
    rcases intercepted_eq_some taken with ⟨found, inet, _⟩
    unfold bind
    rw [taken]
    exact agrees_bindProxy_iff agrees found inet

theorem agrees_connectNew_iff
    {fd : Int} {entry : SocketInfo} {addr : SockAddrIn}
    (absent : service.registered fd = false)
    (found : service.info.lookup fd = some entry)
    (inet : addr.family = familyInet) :
    (service.connectNew fd entry addr).1.Agrees ↔
      service.full = true ∨
        service.ports.CanClaim 0 entry.protocol ∧ entry.type ≠ .stream := by
  have unflagged : service.flagged fd = false := by
    rw [← agrees fd, absent]
  rw [connectNew_eq entry addr absent]
  by_cases full : service.full = true
  · simp [full, agrees]
  · rw [if_neg full]
    have begun := Touches.refl service fd
    rw [unflagged] at begun
    cases allocated : service.ports.allocatePort entry.protocol with
    | none =>
        have unclaimed : ¬service.ports.CanClaim 0 entry.protocol :=
          EphemeralPortPool.claimPort_eq_none.mp allocated
        dsimp only
        rw [(begun.putSocket _).agrees_iff agrees]
        simp [full, unclaimed]
    | some result =>
        rcases result with ⟨ports, port⟩
        have claimable : service.ports.CanClaim 0 entry.protocol := by
          by_contra unclaimed
          have failed := EphemeralPortPool.claimPort_eq_none.mpr unclaimed
          exact absurd (allocated.symm.trans failed) (Option.some_ne_none _)
        dsimp only
        generalize autoBound :
          (ProxySocket.create entry.type entry.protocol).boundTo
            (.inet service.localIp port) = socket
        have sameType : socket.type = entry.type := by
          rw [← autoBound]
          rfl
        have registeredSocket :=
          (begun.withPorts ports).putSocket socket
        rw [connectSocket_eq _ _ _ inet, sameType]
        by_cases stream : entry.type = .stream
        · rw [if_pos stream, (registeredSocket.putSocket _).agrees_iff agrees]
          simp [full, stream]
        · have marked :=
            (registeredSocket.putSocket
              (socket.connectedTo addr)).markProxy found
          rw [if_neg stream, marked.agrees_iff agrees]
          simp [claimable, stream]

theorem agrees_connect_iff (fd : Int) (buffer : List UInt8) :
    (service.connect fd buffer).1.Agrees ↔
      service.KeepsAgreement (.connect fd buffer) := by
  apply iff_forall_intercepted
  · intro passed
    unfold connect
    rw [passed]
    exact agrees
  · intro addr entry taken
    rcases intercepted_eq_some taken with ⟨found, inet, _⟩
    unfold connect
    rw [taken]
    dsimp only
    cases existing : service.sockets.lookup fd with
    | some socket =>
        have present : service.registered fd = true := by
          simp [registered, existing]
        have flag : service.flagged fd = true := by
          rw [← agrees fd, present]
        have begun := Touches.refl service fd
        rw [flag] at begun
        dsimp only
        rw [connectSocket_eq _ _ _ inet]
        split
        · rw [(begun.putSocket _).agrees_iff agrees]
          simp [present]
        · have marked :=
            (begun.putSocket
              (socket.connectedTo addr)).markProxy found
          rw [marked.agrees_iff agrees]
          simp [present]
    | none =>
        have absent : service.registered fd = false := by
          simp [registered, existing]
        dsimp only
        rw [agrees_connectNew_iff agrees absent found inet, absent]
        simp

theorem agrees_sendTo_iff
    (fd : Int) (buffer : List UInt8) (length : Nat) (delivered : Bool) :
    (service.sendTo fd buffer length delivered).1.Agrees ↔
      service.KeepsAgreement (.sendTo fd buffer length delivered) := by
  rw [sendTo_state]
  apply iff_forall_intercepted
  · intro passed
    unfold promoteSender
    rw [passed]
    exact agrees
  · intro addr entry taken
    rcases intercepted_eq_some taken with ⟨found, _, accepted⟩
    have unflagged : service.flagged fd = false := by
      simp only [promotesSender, Bool.and_eq_true, Bool.not_eq_true']
        at accepted
      simp [flagged, found, accepted.2]
    have absent : service.registered fd = false := by
      rw [agrees fd, unflagged]
    unfold promoteSender
    rw [taken]
    dsimp only
    rw [autoBind_eq entry absent]
    dsimp only
    have begun := Touches.refl service fd
    rw [absent] at begun
    by_cases full : service.full = true
    · rw [if_pos full, (begun.markProxy found).agrees_iff agrees]
      simp [full]
    · rw [if_neg full]
      cases service.ports.allocatePort entry.protocol with
      | none =>
          have marked :=
            (begun.putSocket
              (.create entry.type entry.protocol)).markProxy found
          dsimp only
          rw [marked.agrees_iff agrees]
          simp [full]
      | some result =>
          rcases result with ⟨ports, port⟩
          have marked :=
            ((begun.withPorts ports).putSocket
              ((ProxySocket.create entry.type entry.protocol).boundTo
                (.inet service.localIp port))).markProxy found
          dsimp only
          rw [marked.agrees_iff agrees]
          simp [full]

/-- A change to a registered socket keeps the agreement. -/
theorem agrees_putSocket
    {fd : Int} {existing : ProxySocket}
    (found : service.sockets.lookup fd = some existing)
    (socket : ProxySocket) :
    (service.putSocket fd socket).Agrees := by
  rw [((Touches.refl service fd).putSocket socket).agrees_iff agrees,
    ← agrees fd]
  simp [registered, found]

theorem agrees_setSockOpt (fd level option : Int) (value : Option Int) :
    (service.setSockOpt fd level option value).1.Agrees := by
  rcases service.setSockOpt_cases fd level option value with
    same | ⟨socket, found, same⟩ | ⟨entry, enabled, found, same⟩
  · rw [same]
    exact agrees
  · rw [same]
    exact agrees_putSocket agrees found _
  · rw [same, ((Touches.refl service fd).putInfo _).agrees_iff agrees,
      agrees fd]
    simp [flagged, found]

theorem agrees_fcntl_iff (fd command argument : Int) (reply : Reply) :
    (service.fcntl fd command argument reply).1.Agrees ↔
      service.KeepsAgreement (.fcntl fd command argument reply) := by
  by_cases duplication : isDuplication command = true
  · rw [service.fcntl_duplication fd argument reply duplication,
      agrees_copyInfo_iff agrees]
    simp [KeepsAgreement, duplication]
  · have kept :
        service.KeepsAgreement (.fcntl fd command argument reply) := by
      intro duplicates
      exact absurd duplicates duplication
    refine iff_of_true ?_ kept
    rcases service.fcntl_cases fd argument reply duplication with
      same | ⟨socket, found, same⟩
    · rw [same]
      exact agrees
    · rw [same]
      exact agrees_putSocket agrees found _

theorem agrees_close (fd : Int) : (service.close fd).1.Agrees := by
  have begun := Touches.refl service fd
  unfold close
  split
  · exact agrees
  · rename_i entry found
    split
    · rw [begun.closeProxySocket.dropInfo.agrees_iff agrees]
    · rename_i unflagged
      rw [begun.dropInfo.agrees_iff agrees, agrees fd]
      simpa [flagged, found] using unflagged

theorem agrees_destroy (session : Nat) : (service.destroy session).Agrees := by
  intro fd
  have agreed := agrees fd
  unfold registered flagged at agreed ⊢
  unfold destroy
  dsimp only
  rw [lookup_sockets_foldl_closeProxySocket, foldl_closeProxySocket_info,
    foldl_dropInfo_sockets, lookup_info_foldl_dropInfo]
  by_cases proxy : fd ∈ service.sessionProxies session
  · have own : fd ∈ (service.sessionEntries session).map Sigma.fst := by
      rcases mem_sessionProxies.mp proxy with ⟨entry, found, own, _⟩
      exact mem_sessionDescriptors.mpr ⟨entry, found, own⟩
    rw [if_pos proxy, if_pos own]
    rfl
  · rw [if_neg proxy, agreed]
    by_cases own : fd ∈ (service.sessionEntries session).map Sigma.fst
    · rcases mem_sessionDescriptors.mp own with ⟨entry, found, owned⟩
      have unflagged : entry.isProxy = false := by
        rw [← Bool.not_eq_true]
        intro flag
        exact proxy (mem_sessionProxies.mpr ⟨entry, found, owned, flag⟩)
      rw [if_pos own, found]
      simp [unflagged]
    · rw [if_neg own]

theorem agrees_next_iff (command : Command) :
    (machine.next service command).Agrees ↔
      service.KeepsAgreement command := by
  cases command with
  | socket session type protocol reply =>
      exact agrees_track_iff agrees session type protocol reply
  | socketExempt session type protocol reply =>
      exact agrees_track_iff agrees session type protocol reply
  | bind fd buffer => exact agrees_bind_iff agrees fd buffer
  | connect fd buffer => exact agrees_connect_iff agrees fd buffer
  | sendTo fd buffer length delivered =>
      exact agrees_sendTo_iff agrees fd buffer length delivered
  | setSockOpt fd level option value =>
      exact iff_of_true (agrees_setSockOpt agrees fd level option value) trivial
  | fcntl fd command argument reply =>
      exact agrees_fcntl_iff agrees fd command argument reply
  | duplicateSocket fd reply => exact agrees_copyInfo_iff agrees fd reply
  | accept fd reply => exact agrees_copyInfo_iff agrees fd reply
  | close fd => exact iff_of_true (agrees_close agrees fd) trivial
  | destroy session => exact iff_of_true (agrees_destroy agrees session) trivial

end Steps

/-! ## Runs -/

theorem initial_agrees (localIp : UInt32) : (initial localIp).Agrees := by
  intro fd
  simp [registered, flagged, initial]

/--
The flags and the registry agree after every command of a run exactly when
every command of it keeps the agreement.
-/
theorem agreement_iff_keepsAgreement
    (localIp : UInt32) (commands : List Command) :
    machine.EachState Agrees (initial localIp) commands ↔
      machine.EachStep KeepsAgreement (initial localIp) commands :=
  Machine.eachState_iff_eachStep
    (fun _ command agrees => agrees_next_iff agrees command)
    (initial_agrees localIp)

/-- A TCP socket that is connected to port 8080 of `10.13.0.2`. -/
def refusedConnection : List Command :=
  [.socket 1 1 6 ⟨true, 3, 0⟩,
    .connect 3 [16, 2, 31, 144, 10, 13, 0, 2, 0, 0, 0, 0, 0, 0, 0, 0]]

/-- The refused connection leaves a proxy socket behind. -/
theorem refusedConnection_registered (localIp : UInt32) :
    (machine.run (initial localIp) refusedConnection).registered 3 = true ∧
      (machine.run (initial localIp) refusedConnection).flagged 3 =
        false := by
  constructor <;> rfl

theorem refusedConnection_disagrees :
    ¬∀ localIp commands,
        machine.EachState Agrees (initial localIp) commands := by
  intro always
  have agrees := (always 0 refusedConnection).last 3
  have outcome := refusedConnection_registered 0
  rw [outcome.1, outcome.2] at agrees
  contradiction

end Service

end SlpClient.Bsd
