import SlpClient.Bsd.Service

/-!
# What the socket commands do

One lemma for each command that says which state it ends in, in terms of the
few updates of the state.  The invariants of the registry and of the port
pool are derived from these and never unfold a command again.
-/

namespace SlpClient.Bsd

namespace ProxySocket

/-- Only a socket that was not bound before can be bound. -/
theorem bind_inet
    (socket : ProxySocket) {addr : SockAddrIn}
    (inet : addr.family = familyInet) :
    socket.bind addr =
      if socket.state = .created then .ok (socket.boundTo addr)
      else .error .inval := by
  unfold bind
  by_cases created : socket.state = .created
  · rw [if_neg (not_not.mpr created), if_neg (not_not.mpr inet),
      if_pos created]
  · rw [if_pos created, if_neg created]

/-- A new socket can always be bound. -/
theorem create_bind
    (type : SocketType) (protocol : ProtocolType) (ip : UInt32)
    (port : UInt16) :
    (create type protocol).bind (.inet ip port) =
      .ok ((create type protocol).boundTo (.inet ip port)) :=
  rfl

@[simp]
theorem allowBroadcast_state (socket : ProxySocket) (enabled : Bool) :
    (socket.allowBroadcast enabled).state = socket.state := by
  unfold allowBroadcast
  split <;> rfl

@[simp]
theorem allowBroadcast_protocol (socket : ProxySocket) (enabled : Bool) :
    (socket.allowBroadcast enabled).protocol = socket.protocol := by
  unfold allowBroadcast
  split <;> rfl

@[simp]
theorem allowBroadcast_localAddr (socket : ProxySocket) (enabled : Bool) :
    (socket.allowBroadcast enabled).localAddr = socket.localAddr := by
  unfold allowBroadcast
  split <;> rfl

end ProxySocket

namespace Service

theorem intercepted_eq_some
    {service : Service} {fd : Int} {buffer : List UInt8}
    {accepts : SockAddrIn → SocketInfo → Bool} {addr : SockAddrIn}
    {entry : SocketInfo}
    (taken :
      service.intercepted fd buffer accepts = some (addr, entry)) :
    service.info.lookup fd = some entry ∧
      addr.family = familyInet ∧ accepts addr entry = true := by
  unfold intercepted at taken
  split at taken
  · rename_i found
    split at taken
    · rename_i accepted
      cases taken
      exact ⟨found, accepted⟩
    · contradiction
  · contradiction

/-- What a command is for depends on the branch that takes it over. -/
theorem iff_forall_intercepted
    {service : Service} {fd : Int} {buffer : List UInt8}
    {accepts : SockAddrIn → SocketInfo → Bool} {outcome : Prop}
    {condition : SockAddrIn → SocketInfo → Prop}
    (passed : service.intercepted fd buffer accepts = none → outcome)
    (taken :
      ∀ addr entry,
        service.intercepted fd buffer accepts = some (addr, entry) →
          (outcome ↔ condition addr entry)) :
    outcome ↔
      ∀ addr entry,
        service.intercepted fd buffer accepts = some (addr, entry) →
          condition addr entry := by
  cases found : service.intercepted fd buffer accepts with
  | none => simpa using passed found
  | some result =>
      rcases result with ⟨addr, entry⟩
      rw [taken addr entry found]
      simp

/-! ## The registry -/

/-- The descriptor has a proxy socket. -/
def registered (service : Service) (fd : Int) : Bool :=
  (service.sockets.lookup fd).isSome

/-- The descriptor is tracked as a proxy. -/
def flagged (service : Service) (fd : Int) : Bool :=
  (service.info.lookup fd).any SocketInfo.isProxy

/-- The descriptor has no proxy socket and can get none. -/
def crowded (service : Service) (fd : Int) : Bool :=
  !service.registered fd && service.full

/-- The socket that a promotion works on: the registered one or a new one. -/
def candidate (service : Service) (fd : Int) (entry : SocketInfo) :
    ProxySocket :=
  match service.sockets.lookup fd with
  | some socket => socket
  | none => .create entry.type entry.protocol

theorem putSocket_putSocket
    (service : Service) (fd : Int) (first second : ProxySocket) :
    (service.putSocket fd first).putSocket fd second =
      service.putSocket fd second := by
  unfold putSocket
  simp

theorem putSocket_withPorts_putSocket
    (service : Service) (fd : Int) (first second : ProxySocket)
    (ports : EphemeralPortPool) :
    ((service.putSocket fd first).withPorts ports).putSocket fd second =
      (service.withPorts ports).putSocket fd second :=
  putSocket_putSocket (service.withPorts ports) fd first second

theorem candidate_of_unregistered
    {service : Service} {fd : Int} (entry : SocketInfo)
    (absent : service.registered fd = false) :
    service.candidate fd entry = .create entry.type entry.protocol := by
  simp only [registered, Option.isSome_eq_false_iff,
    Option.isNone_iff_eq_none] at absent
  unfold candidate
  rw [absent]

/-- `CreateProxySocket` for a descriptor without a proxy socket. -/
theorem createProxySocket_unregistered
    {service : Service} {fd : Int} (entry : SocketInfo)
    (absent : service.registered fd = false) :
    service.createProxySocket fd entry.type entry.protocol =
      if service.full then (service, none)
      else
        (service.putSocket fd (.create entry.type entry.protocol),
          some (.create entry.type entry.protocol)) := by
  simp only [registered, Option.isSome_eq_false_iff,
    Option.isNone_iff_eq_none] at absent
  unfold createProxySocket
  rw [absent]

/-- The proxy branch of `Bind` works on the candidate. -/
theorem bindProxy_eq
    (service : Service) (fd : Int) (entry : SocketInfo)
    (addr : SockAddrIn) :
    service.bindProxy fd entry addr =
      if service.crowded fd then
        (service, .words BsdErrno.noMem.code 0)
      else
        (service.putSocket fd
          ((service.candidate fd entry).allowBroadcast
            entry.broadcast)).bindSocket fd
          ((service.candidate fd entry).allowBroadcast entry.broadcast)
          (service.bindAddress addr) entry.protocol := by
  unfold bindProxy
  cases found : service.sockets.lookup fd with
  | some socket =>
      have uncrowded : service.crowded fd = false := by
        simp [crowded, registered, found]
      have existing :
          service.createProxySocket fd entry.type entry.protocol =
            (service, some socket) := by
        unfold createProxySocket
        rw [found]
      have same : service.candidate fd entry = socket := by
        unfold candidate
        rw [found]
      rw [uncrowded, existing, same]
      rfl
  | none =>
      have absent : service.registered fd = false := by
        simp [registered, found]
      rw [createProxySocket_unregistered entry absent,
        candidate_of_unregistered entry absent]
      by_cases full : service.full = true
      · have crowded : service.crowded fd = true := by
          simp [crowded, absent, full]
        rw [if_pos full, if_pos crowded]
      · have uncrowded : ¬service.crowded fd = true := by
          simp [crowded, absent, full]
        rw [if_neg full, if_neg uncrowded]
        dsimp only
        rw [putSocket_putSocket]
        rfl

theorem bindAddress_port (service : Service) (addr : SockAddrIn) :
    (service.bindAddress addr).port = addr.port := by
  unfold bindAddress
  split <;> rfl

theorem bindAddress_family (service : Service) (addr : SockAddrIn) :
    (service.bindAddress addr).family = addr.family := by
  unfold bindAddress
  split <;> rfl

/-- The states in which the proxy branch of `Bind` can end. -/
theorem bindSocket_cases
    (service : Service) (fd : Int) (socket : ProxySocket)
    {addr : SockAddrIn} (protocol : ProtocolType)
    (inet : addr.family = familyInet) :
    service.ports.claimPort addr.port protocol = none ∧
        (service.bindSocket fd socket addr protocol).1 = service ∨
      ∃ ports port,
        service.ports.claimPort addr.port protocol = some (ports, port) ∧
          (socket.state ≠ .created ∧
              (service.bindSocket fd socket addr protocol).1 =
                service.withPorts ports ∨
            socket.state = .created ∧
              (service.bindSocket fd socket addr protocol).1 =
                ((service.withPorts ports).putSocket fd
                  (socket.boundTo { addr with port := port })).markProxy
                    fd) := by
  unfold bindSocket
  cases claimed : service.ports.claimPort addr.port protocol with
  | none => exact Or.inl ⟨rfl, rfl⟩
  | some result =>
      rcases result with ⟨ports, port⟩
      refine Or.inr ⟨ports, port, rfl, ?_⟩
      have portedInet : { addr with port := port }.family = familyInet := inet
      dsimp only
      rw [socket.bind_inet portedInet]
      by_cases created : socket.state = .created
      · rw [if_pos created]
        exact Or.inr ⟨created, rfl⟩
      · rw [if_neg created]
        exact Or.inl ⟨created, rfl⟩

/-- `Connect` of a socket: a stream is refused, another one connected. -/
theorem connectSocket_eq
    (service : Service) (fd : Int) (socket : ProxySocket)
    {addr : SockAddrIn} (inet : addr.family = familyInet) :
    (service.connectSocket fd socket addr).1 =
      if socket.type = .stream then
        service.putSocket fd (socket.refusedBy addr)
      else
        (service.putSocket fd
          (socket.connectedTo addr)).markProxy fd := by
  unfold connectSocket ProxySocket.connect
  rw [if_neg (not_not.mpr inet)]
  by_cases stream : socket.type = .stream
  · rw [if_pos stream, if_pos stream]
  · rw [if_neg stream, if_neg stream]

/-- The auto-binding `Connect` of an unregistered descriptor. -/
theorem connectNew_eq
    {service : Service} {fd : Int} (entry : SocketInfo)
    (addr : SockAddrIn)
    (absent : service.registered fd = false) :
    (service.connectNew fd entry addr).1 =
      if service.full then service
      else
        match service.ports.allocatePort entry.protocol with
        | none =>
            service.putSocket fd (.create entry.type entry.protocol)
        | some (ports, port) =>
            (((service.withPorts ports).putSocket fd
              ((ProxySocket.create entry.type entry.protocol).boundTo
                (.inet service.localIp port))).connectSocket fd
              ((ProxySocket.create entry.type entry.protocol).boundTo
                (.inet service.localIp port)) addr).1 := by
  unfold connectNew
  rw [createProxySocket_unregistered entry absent]
  by_cases full : service.full = true
  · rw [if_pos full, if_pos full]
  · rw [if_neg full, if_neg full]
    dsimp only
    have samePorts :
        (service.putSocket fd
          (.create entry.type entry.protocol)).ports = service.ports :=
      rfl
    rw [samePorts]
    cases service.ports.allocatePort entry.protocol with
    | none => rfl
    | some result =>
        rcases result with ⟨ports, port⟩
        dsimp only
        rw [ProxySocket.create_bind]
        dsimp only
        rw [putSocket_withPorts_putSocket]
        rfl

/-- The auto-bind of `SendTo` never fails. -/
theorem autoBind_eq
    {service : Service} {fd : Int} (entry : SocketInfo)
    (absent : service.registered fd = false) :
    service.autoBind fd entry =
      (if service.full then service
        else
          match service.ports.allocatePort entry.protocol with
          | none =>
              service.putSocket fd (.create entry.type entry.protocol)
          | some (ports, port) =>
              (service.withPorts ports).putSocket fd
                ((ProxySocket.create entry.type entry.protocol).boundTo
                  (.inet service.localIp port)),
        none) := by
  have unregistered : service.sockets.lookup fd = none := by
    simpa [registered] using absent
  unfold autoBind
  rw [unregistered, createProxySocket_unregistered entry absent]
  by_cases full : service.full = true
  · rw [if_pos full, if_pos full]
  · rw [if_neg full, if_neg full]
    dsimp only
    have samePorts :
        (service.putSocket fd
          (.create entry.type entry.protocol)).ports = service.ports :=
      rfl
    rw [samePorts]
    cases service.ports.allocatePort entry.protocol with
    | none => rfl
    | some result =>
        rcases result with ⟨ports, port⟩
        dsimp only
        rw [ProxySocket.create_bind]
        dsimp only
        rw [putSocket_withPorts_putSocket]
        rfl

/-- `SendTo` promotes the socket it takes over and changes nothing else. -/
theorem sendTo_state
    (service : Service) (fd : Int) (buffer : List UInt8) (length : Nat)
    (delivered : Bool) :
    (service.sendTo fd buffer length delivered).1 =
      (service.promoteSender fd buffer).1 := by
  unfold sendTo
  split
  · rename_i same
    rw [same]
  · rename_i same
    rw [same]
    split <;> rfl

theorem setSockOpt_cases
    (service : Service) (fd level option : Int) (value : Option Int) :
    (service.setSockOpt fd level option value).1 = service ∨
      (∃ socket,
        service.sockets.lookup fd = some socket ∧
          (service.setSockOpt fd level option value).1 =
            service.putSocket fd
              (socket.setSockOpt level option value).1) ∨
        ∃ entry enabled,
          service.info.lookup fd = some entry ∧
            (service.setSockOpt fd level option value).1 =
              service.putInfo fd { entry with broadcast := enabled } := by
  unfold setSockOpt
  split
  · rename_i socket found
    exact Or.inr (Or.inl ⟨socket, found, rfl⟩)
  · split
    · rename_i entry value found
      split
      · exact Or.inr (Or.inr ⟨entry, value != 0, found, rfl⟩)
      · exact Or.inl rfl
    · exact Or.inl rfl

/-- The duplicating commands of `Fcntl` are the same for every socket. -/
theorem fcntl_duplication
    (service : Service) (fd : Int) {command : Int} (argument : Int)
    (reply : Reply) (duplication : isDuplication command = true) :
    (service.fcntl fd command argument reply).1 =
      service.copyInfo fd reply := by
  have notGet : command ≠ 3 := by
    rintro rfl
    contradiction
  have notSet : command ≠ 4 := by
    rintro rfl
    contradiction
  unfold fcntl
  split
  · rw [if_neg notGet, if_neg notSet, if_pos duplication]
  · rw [if_pos duplication]

theorem fcntl_cases
    (service : Service) (fd : Int) {command : Int} (argument : Int)
    (reply : Reply) (other : ¬isDuplication command = true) :
    (service.fcntl fd command argument reply).1 = service ∨
      ∃ socket,
        service.sockets.lookup fd = some socket ∧
          (service.fcntl fd command argument reply).1 =
            service.putSocket fd
              { socket with nonBlocking := asksNonBlocking argument } := by
  unfold fcntl
  split
  · rename_i socket found
    rw [if_neg other]
    split
    · exact Or.inl rfl
    · split
      · exact Or.inr ⟨socket, found, rfl⟩
      · exact Or.inl rfl
  · rw [if_neg other]
    exact Or.inl rfl

theorem markProxy_tracked
    {service : Service} {fd : Int} {entry : SocketInfo}
    (found : service.info.lookup fd = some entry) :
    service.markProxy fd =
      service.putInfo fd { entry with isProxy := true } := by
  unfold markProxy
  rw [found]

theorem markProxy_sockets (service : Service) (fd : Int) :
    (service.markProxy fd).sockets = service.sockets := by
  unfold markProxy
  split <;> rfl

/-! ## The end of a session -/

@[simp]
theorem closeProxySocket_info (service : Service) (fd : Int) :
    (service.closeProxySocket fd).info = service.info := by
  unfold closeProxySocket
  split <;> rfl

theorem closeProxySocket_sockets (service : Service) (fd : Int) :
    (service.closeProxySocket fd).sockets = service.sockets.erase fd := by
  unfold closeProxySocket
  split
  · rename_i absent
    apply AList.ext
    exact
      (List.kerase_of_notMem_keys (AList.lookup_eq_none.mp absent)).symm
  · rfl

theorem lookup_info_foldl_dropInfo
    (keys : List Int) (service : Service) (fd : Int) :
    (keys.foldl dropInfo service).info.lookup fd =
      if fd ∈ keys then none else service.info.lookup fd := by
  induction keys generalizing service with
  | nil => simp
  | cons key keys induction =>
      rw [List.foldl_cons, induction]
      rcases eq_or_ne fd key with rfl | differs
      · simp [dropInfo]
      · simp [differs, dropInfo, AList.lookup_erase_ne]

theorem foldl_dropInfo_sockets (keys : List Int) (service : Service) :
    (keys.foldl dropInfo service).sockets = service.sockets := by
  induction keys generalizing service with
  | nil => rfl
  | cons key keys induction => exact induction (service.dropInfo key)

theorem foldl_dropInfo_ports (keys : List Int) (service : Service) :
    (keys.foldl dropInfo service).ports = service.ports := by
  induction keys generalizing service with
  | nil => rfl
  | cons key keys induction => exact induction (service.dropInfo key)

theorem foldl_closeProxySocket_info (keys : List Int) (service : Service) :
    (keys.foldl closeProxySocket service).info = service.info := by
  induction keys generalizing service with
  | nil => rfl
  | cons key keys induction =>
      exact
        (induction (service.closeProxySocket key)).trans
          (service.closeProxySocket_info key)

theorem lookup_sockets_foldl_closeProxySocket
    (keys : List Int) (service : Service) (fd : Int) :
    (keys.foldl closeProxySocket service).sockets.lookup fd =
      if fd ∈ keys then none else service.sockets.lookup fd := by
  induction keys generalizing service with
  | nil => simp
  | cons key keys induction =>
      rw [List.foldl_cons, induction, closeProxySocket_sockets]
      rcases eq_or_ne fd key with rfl | differs
      · simp
      · simp [differs, AList.lookup_erase_ne]

/-- The entries of a session are the tracked ones with its number. -/
theorem mem_sessionEntries
    {service : Service} {session : Nat} {fd : Int} {entry : SocketInfo} :
    ⟨fd, entry⟩ ∈ service.sessionEntries session ↔
      service.info.lookup fd = some entry ∧ entry.sessionId = session := by
  unfold sessionEntries
  rw [List.mem_filter, ← AList.mem_lookup_iff]
  simp

theorem mem_sessionDescriptors
    {service : Service} {session : Nat} {fd : Int} :
    fd ∈ (service.sessionEntries session).map Sigma.fst ↔
      ∃ entry,
        service.info.lookup fd = some entry ∧ entry.sessionId = session := by
  rw [List.mem_map]
  constructor
  · rintro ⟨⟨_, entry⟩, member, rfl⟩
    exact ⟨entry, mem_sessionEntries.mp member⟩
  · rintro ⟨entry, own⟩
    exact ⟨⟨fd, entry⟩, mem_sessionEntries.mpr own, rfl⟩

theorem mem_sessionProxies
    {service : Service} {session : Nat} {fd : Int} :
    fd ∈ service.sessionProxies session ↔
      ∃ entry,
        service.info.lookup fd = some entry ∧
          entry.sessionId = session ∧ entry.isProxy = true := by
  unfold sessionProxies
  rw [List.mem_map]
  constructor
  · rintro ⟨⟨_, entry⟩, member, rfl⟩
    rw [List.mem_filter] at member
    have own := mem_sessionEntries.mp member.1
    exact ⟨entry, own.1, own.2, member.2⟩
  · rintro ⟨entry, found, own, flag⟩
    refine ⟨⟨fd, entry⟩, ?_, rfl⟩
    rw [List.mem_filter]
    exact ⟨mem_sessionEntries.mpr ⟨found, own⟩, flag⟩

end Service

end SlpClient.Bsd
