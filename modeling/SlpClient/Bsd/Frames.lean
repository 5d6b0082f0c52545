import SlpClient.Bsd.Receive
import SlpClient.Bsd.Shapes

/-!
# Frames of the socket commands

Everything that a command can do to the tables is said by `Outcome`: nothing,
a change of the descriptor it uses, a new entry at the descriptor it opens,
or the removal of the descriptor it closes.  A change is one `Within` a
descriptor: no other one changes, and the entry stays with its session.  The
receive queues follow the tables.
-/

namespace SlpClient.Bsd

open SlpClient.Lib
open SlpClient.Net

namespace Service

/-! ## Frames -/

/-- At most the socket of `fd` differs, and it stays with its session. -/
structure Within (before : Service) (fd : Int) (after : Service) :
    Prop where
  info :
    ∀ other, other ≠ fd → after.info.lookup other = before.info.lookup other
  sockets :
    ∀ other, other ≠ fd →
      after.sockets.lookup other = before.sockets.lookup other
  session :
    (after.info.lookup fd).map SocketInfo.sessionId =
      (before.info.lookup fd).map SocketInfo.sessionId

namespace Within

variable {before after : Service} {fd : Int}

theorem refl (service : Service) (fd : Int) : service.Within fd service where
  info _ _ := rfl
  sockets _ _ := rfl
  session := rfl

theorem putSocket (within : before.Within fd after) (socket : ProxySocket) :
    before.Within fd (after.putSocket fd socket) where
  info := within.info
  sockets other differs :=
    (AList.lookup_insert_ne differs).trans (within.sockets other differs)
  session := within.session

theorem withPorts (within : before.Within fd after)
    (ports : EphemeralPortPool) :
    before.Within fd (after.withPorts ports) :=
  ⟨within.info, within.sockets, within.session⟩

/-- An entry may change as long as it stays with its session. -/
theorem putInfo (within : before.Within fd after) {entry new : SocketInfo}
    (found : after.info.lookup fd = some entry)
    (same : new.sessionId = entry.sessionId) :
    before.Within fd (after.putInfo fd new) where
  info other differs :=
    (AList.lookup_insert_ne differs).trans (within.info other differs)
  sockets := within.sockets
  session := by
    rw [← within.session, found, Service.putInfo, AList.lookup_insert]
    exact congrArg some same

theorem markProxy (within : before.Within fd after) :
    before.Within fd (after.markProxy fd) := by
  cases found : after.info.lookup fd with
  | none =>
      unfold Service.markProxy
      rw [found]
      exact within
  | some entry =>
      rw [markProxy_tracked found]
      exact within.putInfo found rfl

end Within

section Commands

variable (service : Service) (fd : Int)

theorem within_createProxySocket (type : SocketType)
    (protocol : ProtocolType) :
    service.Within fd (service.createProxySocket fd type protocol).1 := by
  unfold createProxySocket
  split
  · exact .refl service fd
  · split
    · exact .refl service fd
    · exact (Within.refl service fd).putSocket _

variable {service fd}

theorem Within.bindSocket {created : Service}
    (within : service.Within fd created) (socket : ProxySocket)
    (addr : SockAddrIn) (protocol : ProtocolType) :
    service.Within fd (created.bindSocket fd socket addr protocol).1 := by
  unfold Service.bindSocket
  split
  · exact within
  · split
    · exact within.withPorts _
    · exact ((within.withPorts _).putSocket _).markProxy

theorem within_bindProxy (entry : SocketInfo) (addr : SockAddrIn) :
    service.Within fd (service.bindProxy fd entry addr).1 := by
  have begun :=
    service.within_createProxySocket fd entry.type entry.protocol
  unfold bindProxy
  split
  · rename_i same
    rw [same] at begun
    exact begun
  · rename_i same
    rw [same] at begun
    exact (begun.putSocket _).bindSocket _ _ _

theorem Within.connectSocket {created : Service}
    (within : service.Within fd created) (socket : ProxySocket)
    (addr : SockAddrIn) :
    service.Within fd (created.connectSocket fd socket addr).1 := by
  unfold Service.connectSocket
  split
  · exact (within.putSocket _).markProxy
  · exact within.putSocket _

theorem within_connectNew (entry : SocketInfo) (addr : SockAddrIn) :
    service.Within fd (service.connectNew fd entry addr).1 := by
  have begun :=
    service.within_createProxySocket fd entry.type entry.protocol
  unfold connectNew
  split
  · rename_i same
    rw [same] at begun
    exact begun
  · rename_i same
    rw [same] at begun
    split
    · exact begun
    · split
      · exact begun.withPorts _
      · exact ((begun.withPorts _).putSocket _).connectSocket _ _

theorem within_autoBind (entry : SocketInfo) :
    service.Within fd (service.autoBind fd entry).1 := by
  have begun :=
    service.within_createProxySocket fd entry.type entry.protocol
  unfold autoBind
  split
  · exact .refl service fd
  · split
    · rename_i same
      rw [same] at begun
      exact begun
    · rename_i same
      rw [same] at begun
      split
      · exact begun
      · split
        · exact begun.withPorts _
        · exact (begun.withPorts _).putSocket _

end Commands

/-! ## What a command uses -/

/-- The descriptor is tracked. -/
def tracked (service : Service) (fd : Int) : Bool :=
  (service.info.lookup fd).isSome

/-- The new descriptor that gets a copy of the entry of `fd`. -/
def copies (service : Service) (fd : Int) (reply : Reply) : Option Int :=
  if reply.ok ∧ reply.errno = 0 ∧ 0 ≤ reply.fd ∧ service.tracked fd then
    some reply.fd
  else none

/-- The new descriptor that a command puts into the table. -/
def opens (service : Service) : Command → Option Int
  | .socket _ _ _ reply =>
      if reply.ok ∧ 0 ≤ reply.fd then some reply.fd else none
  | .socketExempt _ _ _ reply =>
      if reply.ok ∧ 0 ≤ reply.fd then some reply.fd else none
  | .fcntl fd command _ reply =>
      if isDuplication command then service.copies fd reply else none
  | .duplicateSocket fd reply => service.copies fd reply
  | .accept fd reply => service.copies fd reply
  | _ => none

/--
The descriptor that a command names, if the command goes by its entry or by
its proxy socket and does not only look at it.
-/
def uses (service : Service) : Command → Option Int
  | .bind fd buffer =>
      (service.intercepted fd buffer promotes).map fun _ => fd
  | .connect fd buffer =>
      (service.intercepted fd buffer connects).map fun _ => fd
  | .sendTo fd buffer _ _ =>
      if toLan buffer || service.flagged fd then some fd else none
  | .setSockOpt fd level option value =>
      if service.registered fd ||
          (service.tracked fd &&
            ProxySocket.isBroadcastOption level option && value.isSome) then
        some fd
      else none
  | .fcntl fd command _ reply =>
      if isDuplication command then (service.copies fd reply).map fun _ => fd
      else if service.registered fd && command == 4 then some fd
      else none
  | .duplicateSocket fd reply => (service.copies fd reply).map fun _ => fd
  | .accept fd reply => (service.copies fd reply).map fun _ => fd
  | .close fd => if service.tracked fd then some fd else none
  | _ => none

section Outcomes

variable (service : Service) (fd : Int)

theorem track_cases (session : Nat) (type protocol : Int) (reply : Reply) :
    (service.track session type protocol reply = service ∧
        (if reply.ok ∧ 0 ≤ reply.fd then some reply.fd else none) = none) ∨
      ∃ entry,
        (if reply.ok ∧ 0 ≤ reply.fd then some reply.fd else none) =
            some reply.fd ∧
          entry.sessionId = session ∧
          service.track session type protocol reply =
            service.putInfo reply.fd entry := by
  unfold track
  split
  · exact .inr ⟨_, rfl, rfl, rfl⟩
  · exact .inl ⟨rfl, rfl⟩

theorem copyInfo_cases (reply : Reply) :
    (service.copyInfo fd reply = service ∧
        service.copies fd reply = none) ∨
      ∃ entry,
        service.copies fd reply = some reply.fd ∧
          service.info.lookup fd = some entry ∧
          service.copyInfo fd reply = service.putInfo reply.fd entry := by
  unfold copyInfo
  split
  · rename_i replied
    cases found : service.info.lookup fd with
    | none => exact .inl ⟨rfl, if_neg (by simp [tracked, found])⟩
    | some entry =>
        refine .inr ⟨entry, if_pos ?_, rfl, rfl⟩
        simpa [tracked, found] using replied
  · rename_i failed
    refine .inl ⟨rfl, if_neg ?_⟩
    rintro ⟨succeeded, fine, natural, _⟩
    exact failed ⟨succeeded, fine, natural⟩

/-- A destination of a socket that is promoted is on the virtual LAN. -/
theorem toLan_of_promotesSender {buffer : List UInt8}
    {result : SockAddrIn × SocketInfo}
    (taken :
      service.intercepted fd buffer promotesSender = some result) :
    toLan buffer = true := by
  unfold intercepted at taken
  unfold toLan
  split at taken
  · rename_i addr entry whole found
    rw [whole]
    split at taken
    · rename_i accepted
      simp only [promotesSender, Bool.and_eq_true] at accepted
      simp [accepted.1, accepted.2.1]
    · contradiction
  · contradiction

/-- The session that a command was given with. -/
def Command.session : Command → Option Nat
  | .socket session _ _ _ => some session
  | .socketExempt session _ _ _ => some session
  | _ => none

/-- Everything that a command of a live session can do to the tables. -/
inductive Outcome (service : Service) (command : Command) : Service → Prop
  | unchanged (idle : service.opens command = none) :
      service.Outcome command service
  | changed {fd : Int} {after : Service}
      (idle : service.opens command = none)
      (used : service.uses command = some fd)
      (within : service.Within fd after) : service.Outcome command after
  | opened {fd : Int} {entry : SocketInfo}
      (new : service.opens command = some fd)
      (origin :
        command.session = some entry.sessionId ∨
          ∃ source,
            service.uses command = some source ∧
              service.info.lookup source = some entry) :
      service.Outcome command (service.putInfo fd entry)
  | closed {fd : Int} {after : Service}
      (closing : command = .close fd)
      (used : service.uses command = some fd)
      (info :
        ∀ other,
          after.info.lookup other =
            if other = fd then none else service.info.lookup other)
      (sockets :
        ∀ other, other ≠ fd →
          after.sockets.lookup other = service.sockets.lookup other) :
      service.Outcome command after

theorem track_outcome (session : Nat) (type protocol : Int) (reply : Reply)
    {command : Command} (own : command.session = some session)
    (new :
      service.opens command =
        if reply.ok ∧ 0 ≤ reply.fd then some reply.fd else none) :
    service.Outcome command
      (service.track session type protocol reply) := by
  rcases service.track_cases session type protocol reply with
    ⟨same, none⟩ | ⟨entry, given, theirs, same⟩
  · rw [same]
    exact .unchanged (new.trans none)
  · rw [same]
    exact .opened (new.trans given) (.inl (theirs ▸ own))

theorem copyInfo_outcome (reply : Reply) {command : Command}
    (new : service.opens command = service.copies fd reply)
    (used :
      service.uses command = (service.copies fd reply).map fun _ => fd) :
    service.Outcome command (service.copyInfo fd reply) := by
  rcases service.copyInfo_cases fd reply with
    ⟨same, none⟩ | ⟨entry, given, found, same⟩
  · rw [same]
    exact .unchanged (new.trans none)
  · rw [same]
    refine .opened (new.trans given) (.inr ⟨fd, ?_, found⟩)
    rw [used, given]
    rfl

theorem bind_outcome (buffer : List UInt8) :
    service.Outcome (.bind fd buffer) (service.bind fd buffer).1 := by
  unfold bind
  split
  · rename_i addr entry taken
    refine .changed rfl ?_ (within_bindProxy entry addr)
    simp [uses, taken]
  · exact .unchanged rfl

theorem connect_outcome (buffer : List UInt8) :
    service.Outcome (.connect fd buffer) (service.connect fd buffer).1 := by
  unfold connect
  split
  · rename_i addr entry taken
    have used : service.uses (.connect fd buffer) = some fd := by
      simp [uses, taken]
    split
    · exact .changed rfl used ((Within.refl service fd).connectSocket _ addr)
    · exact .changed rfl used (within_connectNew entry addr)
  · exact .unchanged rfl

theorem sendTo_outcome (buffer : List UInt8) (length : Nat)
    (delivered : Bool) :
    service.Outcome (.sendTo fd buffer length delivered)
      (service.sendTo fd buffer length delivered).1 := by
  rw [sendTo_state]
  unfold promoteSender
  split
  · exact .unchanged rfl
  · rename_i addr entry taken
    have used :
        service.uses (.sendTo fd buffer length delivered) = some fd := by
      simp [uses, service.toLan_of_promotesSender fd taken]
    have within : service.Within fd (service.autoBind fd entry).1 :=
      within_autoBind entry
    split
    · rename_i same
      rw [same] at within
      exact .changed rfl used within
    · rename_i same
      rw [same] at within
      exact .changed rfl used within.markProxy

theorem setSockOpt_outcome (level option : Int) (value : Option Int) :
    service.Outcome (.setSockOpt fd level option value)
      (service.setSockOpt fd level option value).1 := by
  have begun := Within.refl service fd
  unfold setSockOpt
  split
  · rename_i socket found
    refine .changed rfl ?_ (begun.putSocket _)
    simp [uses, registered, found]
  · split
    · rename_i entry value found
      split
      · rename_i broadcast
        refine .changed rfl ?_ (begun.putInfo found rfl)
        simp [uses, tracked, found, broadcast]
      · exact .unchanged rfl
    · exact .unchanged rfl

theorem fcntl_outcome (command argument : Int) (reply : Reply) :
    service.Outcome (.fcntl fd command argument reply)
      (service.fcntl fd command argument reply).1 := by
  by_cases duplication : isDuplication command = true
  · rw [service.fcntl_duplication fd argument reply duplication]
    apply service.copyInfo_outcome fd reply
    · simp [opens, duplication]
    · simp [uses, duplication]
  · have idle :
        service.opens (.fcntl fd command argument reply) = none :=
      if_neg duplication
    unfold fcntl
    split
    · rename_i socket found
      rw [if_neg duplication]
      split
      · exact .unchanged idle
      · split
        · rename_i set
          refine .changed idle ?_ ((Within.refl service fd).putSocket _)
          subst set
          simp [uses, isDuplication, registered, found]
        · exact .unchanged idle
    · rw [if_neg duplication]
      exact .unchanged idle

theorem lookup_erase_info (other : Int) :
    (service.info.erase fd).lookup other =
      if other = fd then none else service.info.lookup other := by
  by_cases same : other = fd
  · subst same
    rw [if_pos rfl, AList.lookup_erase]
  · rw [if_neg same, AList.lookup_erase_ne same]

/-- A closed descriptor is not tracked. -/
theorem lookup_info_close (other : Int) :
    (service.close fd).1.info.lookup other =
      if other = fd then none else service.info.lookup other := by
  unfold close
  split
  · rename_i absent
    split
    · rename_i same
      rw [same]
      exact absent
    · rfl
  · split
    · change ((service.closeProxySocket fd).info.erase fd).lookup other = _
      rw [closeProxySocket_info]
      exact service.lookup_erase_info fd other
    · exact service.lookup_erase_info fd other

theorem close_outcome :
    service.Outcome (.close fd) (service.close fd).1 := by
  have info := service.lookup_info_close fd
  unfold close at info ⊢
  split
  · exact .unchanged rfl
  · rename_i entry found
    rw [found] at info
    dsimp only at info
    have used : service.uses (.close fd) = some fd := by
      simp [uses, tracked, found]
    split
    · rename_i proxied
      rw [if_pos proxied] at info
      refine .closed rfl used info ?_
      intro other differs
      change (service.closeProxySocket fd).sockets.lookup other = _
      rw [closeProxySocket_sockets, AList.lookup_erase_ne differs]
    · rename_i plain
      rw [if_neg plain] at info
      exact .closed rfl used info (fun _ _ => rfl)

/-- What the commands of a live session do. -/
theorem execute_outcome (command : Command)
    (live : ∀ session, command ≠ .destroy session) :
    service.Outcome command (service.execute command).1 := by
  cases command with
  | socket session type protocol reply =>
      exact service.track_outcome session type protocol reply rfl rfl
  | socketExempt session type protocol reply =>
      exact service.track_outcome session type protocol reply rfl rfl
  | bind fd buffer => exact service.bind_outcome fd buffer
  | connect fd buffer => exact service.connect_outcome fd buffer
  | sendTo fd buffer length delivered =>
      exact service.sendTo_outcome fd buffer length delivered
  | setSockOpt fd level option value =>
      exact service.setSockOpt_outcome fd level option value
  | fcntl fd command argument reply =>
      exact service.fcntl_outcome fd command argument reply
  | duplicateSocket fd reply => exact service.copyInfo_outcome fd reply rfl rfl
  | accept fd reply => exact service.copyInfo_outcome fd reply rfl rfl
  | close fd => exact service.close_outcome fd
  | destroy session => exact absurd rfl (live session)

variable {service fd}

/-- A descriptor that is neither used nor opened is left alone. -/
theorem Outcome.elsewhere {command : Command} {after : Service}
    (outcome : service.Outcome command after)
    (unused : service.uses command ≠ some fd)
    (unopened : service.opens command ≠ some fd) :
    after.info.lookup fd = service.info.lookup fd ∧
      after.sockets.lookup fd = service.sockets.lookup fd := by
  cases outcome with
  | unchanged => exact ⟨rfl, rfl⟩
  | @changed acted _ idle used within =>
      have differs : fd ≠ acted := by
        rintro rfl
        exact unused used
      exact ⟨within.info fd differs, within.sockets fd differs⟩
  | @opened acted entry new origin =>
      have differs : fd ≠ acted := by
        rintro rfl
        exact unopened new
      exact ⟨AList.lookup_insert_ne differs, rfl⟩
  | @closed acted _ closing used info sockets =>
      have differs : fd ≠ acted := by
        rintro rfl
        exact unused used
      refine ⟨?_, sockets fd differs⟩
      rw [info, if_neg differs]

end Outcomes

end Service

/-! ## Frames of the plane -/

namespace Plane

/-- The socket of `fd`: its entry, its proxy socket and its queue. -/
structure Same (before after : Plane) (fd : Int) : Prop where
  info : after.service.info.lookup fd = before.service.info.lookup fd
  sockets :
    after.service.sockets.lookup fd = before.service.sockets.lookup fd
  inbox :
    before.service.registered fd = true →
      after.inboxes fd = before.inboxes fd

theorem Same.refl (plane : Plane) (fd : Int) : plane.Same plane fd where
  info := rfl
  sockets := rfl
  inbox _ := rfl

theorem deliverPendingPackets_service (plane : Plane) (fd : Int)
    (port : UInt16) (protocol : ProtocolType) :
    (plane.deliverPendingPackets fd port protocol).1.service =
      plane.service := by
  unfold deliverPendingPackets
  split
  · rfl
  · exact foldl_place_service _ _

theorem deliverPendingPackets_inboxes (plane : Plane) {fd other : Int}
    (differs : fd ≠ other) (port : UInt16) (protocol : ProtocolType) :
    (plane.deliverPendingPackets other port protocol).1.inboxes fd =
      plane.inboxes fd := by
  unfold deliverPendingPackets
  split
  · rfl
  · rw [foldl_place_inboxes, List.filter_eq_nil_iff.mpr]
    · rfl
    · intro placement member
      rcases List.mem_map.mp member with ⟨packet, _, rfl⟩
      rw [beq_iff_eq]
      exact Ne.symm differs

theorem routeIncomingData_service (plane : Plane) (known : Bool)
    (order : WalkOrder) (incoming : Incoming) :
    (plane.routeIncomingData known order incoming).1.service =
      plane.service := by
  unfold routeIncomingData
  split
  · rfl
  · dsimp only
    split
    · rfl
    · exact foldl_place_service _ _

theorem execute_service (plane : Plane) (command : Service.Command) :
    (plane.execute command).1.service =
      (plane.service.execute command).1 := by
  unfold execute
  dsimp only
  split
  · rfl
  · exact deliverPendingPackets_service _ _ _ _

theorem renewed_same {plane : Plane} {service : Service} {fd : Int}
    (info : service.info.lookup fd = plane.service.info.lookup fd)
    (sockets :
      service.sockets.lookup fd = plane.service.sockets.lookup fd) :
    plane.Same (plane.renewed service) fd where
  info := info
  sockets := sockets
  inbox present := by
    have both :
        (plane.service.sockets.lookup fd).isSome ∧
          (service.sockets.lookup fd).isSome := by
      rw [sockets]
      exact ⟨present, present⟩
    exact if_pos both

/-- Only a bind that was taken over delivers packets. -/
theorem uses_of_delivers {service : Service} {command : Service.Command}
    {fd : Int} {bound : UInt16 × ProtocolType}
    (delivering : service.delivers command = some (fd, bound)) :
    service.uses command = some fd := by
  rcases Service.delivers_eq_some_iff.mp delivering with
    ⟨buffer, rfl, found⟩
  cases taken :
      service.intercepted fd buffer Service.promotes with
  | none =>
      unfold Service.boundAs Service.bind at found
      rw [taken] at found
      contradiction
  | some result => simp [Service.uses, taken]

/-- A command leaves the sockets alone that it neither uses nor opens. -/
theorem execute_same (plane : Plane) {command : Service.Command}
    {fd : Int}
    (info :
      (plane.service.execute command).1.info.lookup fd =
        plane.service.info.lookup fd)
    (sockets :
      (plane.service.execute command).1.sockets.lookup fd =
        plane.service.sockets.lookup fd)
    (unused : plane.service.uses command ≠ some fd) :
    plane.Same (plane.execute command).1 fd := by
  have renewed := renewed_same info sockets
  unfold execute
  dsimp only
  split
  · exact renewed
  · rename_i other port protocol delivering
    have differs : fd ≠ other := by
      rintro rfl
      exact unused (uses_of_delivers delivering)
    refine ⟨?_, ?_, ?_⟩
    · rw [deliverPendingPackets_service]
      exact renewed.info
    · rw [deliverPendingPackets_service]
      exact renewed.sockets
    · intro present
      rw [deliverPendingPackets_inboxes _ differs]
      exact renewed.inbox present

/-- A receive changes at most the queue it takes from. -/
theorem receive_same (plane : Plane) {fd other : Int}
    (unused :
      (plane.service.receiver other).map (fun _ => other) ≠ some fd)
    (ready : ProxySocket → Bool) (flags : UInt32) (capacity : Nat) :
    plane.Same (plane.receive other ready flags capacity).1 fd := by
  unfold receive
  split
  · exact .refl plane fd
  · rename_i socket found
    have differs : fd ≠ other := by
      rintro rfl
      exact unused (by rw [found]; rfl)
    split
    · refine ⟨rfl, rfl, fun _ => ?_⟩
      exact Function.update_of_ne differs _ _
    · exact .refl plane fd

end Plane

end SlpClient.Bsd
