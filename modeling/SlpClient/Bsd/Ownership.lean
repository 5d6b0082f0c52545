import SlpClient.Bsd.Calls
import SlpClient.Bsd.Frames

/-!
# Sessions and their sockets

The table of sockets and the registry of proxy sockets are shared by all
sessions and keyed by the bare descriptor, while descriptors are handed out
by the real session of each.  This module follows who has opened a socket
and says under which condition no session disturbs the sockets of another:
no command uses a descriptor that another session has open, and none is
handed out to two sessions at a time.
-/

namespace SlpClient.Bsd

open SlpClient.Lib
open SlpClient.Net

/-! ## Events -/

/--
What happens at the sessions of the socket service.  A query is one of the
commands that write neither table nor queue: `GetSockName`, `GetPeerName`,
`GetSockOpt`, `Listen`, `Shutdown`, and those that are forwarded as they are.
-/
inductive SessionEvent
  | call (session : Nat) (call : Call) (real : RealReply)
  | query (session : Nat)
  | destroy (session : Nat)
  | route (known : Bool) (order : WalkOrder) (incoming : Incoming)

namespace Call

/-- The command of a call, if it is one of those that write a table. -/
def command (session : Nat) (real : RealReply) (call : Call) :
    Option Service.Command :=
  match call.request session real with
  | some (.command command) => some command
  | _ => none

/-- The descriptor whose proxy socket a call receives from or sends with. -/
def transfers (plane : Plane) : Call → Option Int
  | .send fd _ _ => (plane.service.receiver fd).map fun _ => fd
  | .write fd _ _ => (plane.service.receiver fd).map fun _ => fd
  | .recv fd _ _ => (plane.service.receiver fd).map fun _ => fd
  | .recvFrom fd _ _ => (plane.service.receiver fd).map fun _ => fd
  | .read fd _ => (plane.service.receiver fd).map fun _ => fd
  | .sendTo fd addr _ _ =>
      if Service.toLan addr || plane.service.flagged fd then some fd
      else none
  | _ => none

/-- The descriptor that a call uses. -/
def uses (plane : Plane) (session : Nat) (real : RealReply) (call : Call) :
    Option Int :=
  ((call.command session real).bind plane.service.uses).or
    (call.transfers plane)

/-- The descriptor that a call opens. -/
def opens (plane : Plane) (session : Nat) (real : RealReply)
    (call : Call) : Option Int :=
  (call.command session real).bind plane.service.opens

end Call

/-! ## Owners -/

/-- The plane, and the session that has opened each descriptor. -/
structure Sessions where
  plane : Plane
  owner : Int → Option Nat

namespace Sessions

/-- No socket is open. -/
def initial (localIp : UInt32) : Sessions where
  plane := .initial localIp
  owner _ := none

/-- The owners after a call. -/
def ownersAfter (sessions : Sessions) (session : Nat) (call : Call)
    (real : RealReply) : Int → Option Nat :=
  match call, call.opens sessions.plane session real with
  | .close fd, _ => Function.update sessions.owner fd none
  | _, some fd => Function.update sessions.owner fd (some session)
  | _, none => sessions.owner

/-- A session ends: it has no open socket any more. -/
def ownersWithout (sessions : Sessions) (session : Nat) :
    Int → Option Nat :=
  fun fd =>
    if sessions.owner fd = some session then none else sessions.owner fd

/-- The sessions, driven by their games and by the tunnel. -/
def machine : Machine Sessions SessionEvent Unit where
  step sessions event :=
    match event with
    | .call session call real =>
        ({ plane := call.next sessions.plane session real
           owner := sessions.ownersAfter session call real }, ())
    | .query _ => (sessions, ())
    | .destroy session =>
        ({ plane :=
             Plane.machine.next sessions.plane
               (.request (.command (.destroy session)))
           owner := sessions.ownersWithout session }, ())
    | .route known order incoming =>
        ({ sessions with
           plane :=
             Plane.machine.next sessions.plane
               (.route known order incoming) }, ())

/-! ## Undisturbed sockets -/

/-- The session that acts. -/
def actor : SessionEvent → Option Nat
  | .call session _ _ => some session
  | .query session => some session
  | .destroy session => some session
  | .route _ _ _ => none

/-- The descriptor whose proxy socket the event receives from or sends by. -/
def transfers (sessions : Sessions) : SessionEvent → Option Int
  | .call _ call _ => call.transfers sessions.plane
  | _ => none

/-- What a session does leaves the sockets of the others alone. -/
def Undisturbed (sessions : Sessions) (event : SessionEvent) : Prop :=
  ∀ session fd other,
    actor event = some session → sessions.owner fd = some other →
      other ≠ session →
        sessions.plane.Same (machine.next sessions event).plane fd ∧
          sessions.transfers event ≠ some fd

/-- No call uses or opens a descriptor that another session has open. -/
def Apart (sessions : Sessions) : SessionEvent → Prop
  | .call session call real =>
      ∀ fd other,
        call.uses sessions.plane session real = some fd ∨
            call.opens sessions.plane session real = some fd →
          sessions.owner fd = some other → other = session
  | _ => True

/-- Every tracked entry carries the session that has the socket open. -/
def Attributed (sessions : Sessions) : Prop :=
  ∀ fd entry,
    sessions.plane.service.info.lookup fd = some entry →
      sessions.owner fd = some entry.sessionId

theorem initial_attributed (localIp : UInt32) :
    (initial localIp).Attributed := by
  intro fd entry found
  simp [initial, Plane.initial, Service.initial] at found

/-- A call that is a command does what the command does. -/
theorem next_of_command {plane : Plane} {session : Nat} {call : Call}
    {real : RealReply} {command : Service.Command}
    (is : call.command session real = some command) :
    call.next plane session real = (plane.execute command).1 := by
  unfold Call.command at is
  unfold Call.next
  split at is
  · rename_i other requested
    cases is
    rw [requested]
    rfl
  · contradiction

/-- The other calls change no table. -/
theorem next_service_of_no_command {plane : Plane} {session : Nat}
    {call : Call} {real : RealReply}
    (is : call.command session real = none) :
    (call.next plane session real).service = plane.service := by
  have received :
      ∀ fd ready flags capacity,
        (plane.receive fd ready flags capacity).1.service =
          plane.service := by
    intro fd ready flags capacity
    unfold Plane.receive
    split
    · rfl
    · split <;> rfl
  cases call with
  | recv fd flags capacity => exact received ..
  | recvFrom fd flags capacity => exact received ..
  | read fd capacity => exact received ..
  | send => rfl
  | write => rfl
  | select => rfl
  | poll => rfl
  | ioctl => rfl
  | recvMMsg => rfl
  | sendMMsg => rfl
  | _ => contradiction

/-- No call ends a session. -/
theorem live_of_command {session : Nat} {call : Call} {real : RealReply}
    {command : Service.Command}
    (is : call.command session real = some command) (ended : Nat) :
    command ≠ .destroy ended := by
  rintro rfl
  cases call <;> simp [Call.command, Call.request] at is

/-- A command with a session of its own was given it by its caller. -/
theorem session_of_command {session own : Nat} {call : Call}
    {real : RealReply} {command : Service.Command}
    (is : call.command session real = some command)
    (given : command.session = some own) : own = session := by
  cases call <;>
    simp only [Call.command, Call.request, Option.some.injEq,
      reduceCtorEq] at is <;>
    subst is <;>
    simp only [Service.Command.session, Option.some.injEq,
      reduceCtorEq] at given
  · exact given.symm
  · exact given.symm

/-- A call leaves a descriptor alone that it neither uses nor opens. -/
theorem call_same (plane : Plane) (session : Nat) (call : Call)
    (real : RealReply) {fd : Int}
    (unused : call.uses plane session real ≠ some fd)
    (unopened : call.opens plane session real ≠ some fd) :
    plane.Same (call.next plane session real) fd := by
  cases is : call.command session real with
  | some command =>
      simp only [Call.uses, Call.opens, is, Option.bind_some]
        at unused unopened
      have idle : plane.service.uses command ≠ some fd := by
        intro used
        rw [used] at unused
        exact unused rfl
      have frame :=
        (plane.service.execute_outcome command
          (live_of_command is)).elsewhere idle unopened
      rw [next_of_command is]
      exact plane.execute_same frame.1 frame.2 idle
  | none =>
      simp only [Call.uses, is, Option.bind_none, Option.none_or]
        at unused
      cases call with
      | recv other flags capacity =>
          exact plane.receive_same unused _ flags capacity
      | recvFrom other flags capacity =>
          exact plane.receive_same unused _ flags capacity
      | read other capacity => exact plane.receive_same unused _ 0 capacity
      | send => exact .refl plane fd
      | write => exact .refl plane fd
      | select => exact .refl plane fd
      | poll => exact .refl plane fd
      | ioctl => exact .refl plane fd
      | recvMMsg => exact .refl plane fd
      | sendMMsg => exact .refl plane fd
      | _ => contradiction

/-- The end of a session removes what carries its number. -/
theorem lookup_info_destroy (service : Service) (session : Nat)
    (fd : Int) :
    (service.destroy session).info.lookup fd =
      if fd ∈ (service.sessionEntries session).map Sigma.fst then none
      else service.info.lookup fd := by
  unfold Service.destroy
  rw [Service.foldl_closeProxySocket_info,
    Service.lookup_info_foldl_dropInfo]

theorem lookup_sockets_destroy (service : Service) (session : Nat)
    (fd : Int) :
    (service.destroy session).sockets.lookup fd =
      if fd ∈ service.sessionProxies session then none
      else service.sockets.lookup fd := by
  unfold Service.destroy
  rw [Service.lookup_sockets_foldl_closeProxySocket,
    Service.foldl_dropInfo_sockets]

section Steps

variable {sessions : Sessions}

theorem ownersAfter_opens {session : Nat} {call : Call}
    {real : RealReply} {fd : Int}
    (new : call.opens sessions.plane session real = some fd) :
    sessions.ownersAfter session call real =
      Function.update sessions.owner fd (some session) := by
  unfold ownersAfter
  rw [new]
  cases call <;> first | rfl | contradiction

theorem ownersAfter_idle {session : Nat} {call : Call} {real : RealReply}
    (idle : call.opens sessions.plane session real = none)
    (open_ : ∀ fd, call ≠ .close fd) :
    sessions.ownersAfter session call real = sessions.owner := by
  unfold ownersAfter
  rw [idle]
  cases call with
  | close fd => exact absurd rfl (open_ fd)
  | _ => rfl

variable (attributed : sessions.Attributed)

include attributed

theorem destroy_same {session other : Nat} {fd : Int}
    (owned : sessions.owner fd = some other) (differs : other ≠ session) :
    sessions.plane.Same (sessions.plane.execute (.destroy session)).1
      fd := by
  have foreign :
      ∀ entry, sessions.plane.service.info.lookup fd = some entry →
        entry.sessionId ≠ session := by
    intro entry found same
    have theirs := owned.symm.trans (attributed fd entry found)
    rw [Option.some.injEq] at theirs
    exact differs (theirs.trans same)
  apply sessions.plane.execute_same
  · change (sessions.plane.service.destroy session).info.lookup fd = _
    rw [lookup_info_destroy, if_neg]
    intro member
    rcases Service.mem_sessionDescriptors.mp member with
      ⟨entry, found, same⟩
    exact foreign entry found same
  · change (sessions.plane.service.destroy session).sockets.lookup fd = _
    rw [lookup_sockets_destroy, if_neg]
    intro member
    rcases Service.mem_sessionProxies.mp member with
      ⟨entry, found, same, -⟩
    exact foreign entry found same
  · exact nofun

/-- One step: sessions that stay apart do not disturb each other. -/
theorem undisturbed_of_apart {event : SessionEvent}
    (apart : sessions.Apart event) : sessions.Undisturbed event := by
  intro session fd other acting owned differs
  cases event with
  | call caller call real =>
      cases acting
      have unused :
          call.uses sessions.plane session real ≠ some fd :=
        fun used => differs (apart fd other (.inl used) owned)
      have unopened :
          call.opens sessions.plane session real ≠ some fd :=
        fun new => differs (apart fd other (.inr new) owned)
      refine ⟨call_same _ session call real unused unopened, ?_⟩
      intro transferring
      have through : call.transfers sessions.plane = some fd := transferring
      cases call with
      | sendTo named addr length delivered =>
          apply unused
          change
            (sessions.plane.service.uses
              (.sendTo named addr length delivered)).or _ = some fd
          have used :
              sessions.plane.service.uses
                (.sendTo named addr length delivered) = some fd :=
            transferring
          rw [used]
          rfl
      | send => exact unused through
      | write => exact unused through
      | recv => exact unused through
      | recvFrom => exact unused through
      | read => exact unused through
      | _ => contradiction
  | query => exact ⟨.refl _ fd, nofun⟩
  | destroy ended =>
      cases acting
      exact ⟨destroy_same attributed owned differs, nofun⟩
  | route => contradiction

theorem close_attributed {session : Nat} {fd : Int} {real : RealReply} :
    (machine.next sessions
      (.call session (.close fd) real)).Attributed := by
  intro other entry found
  change
    ((sessions.plane.execute (.close fd)).1.service.info.lookup other =
      some entry) at found
  change Function.update sessions.owner fd none other = _
  have closed := sessions.plane.service.lookup_info_close fd other
  rw [sessions.plane.execute_service] at found
  rw [show (sessions.plane.service.execute (.close fd)).1 =
    (sessions.plane.service.close fd).1 from rfl, closed] at found
  split at found
  · contradiction
  · rename_i differs
    rw [Function.update_of_ne differs]
    exact attributed other entry found

/-- One call: the entries stay with the sessions that opened them. -/
theorem call_attributed {session : Nat} {call : Call} {real : RealReply}
    (apart : sessions.Apart (.call session call real))
    (open_ : ∀ fd, call ≠ .close fd) :
    (machine.next sessions (.call session call real)).Attributed := by
  intro other entry found
  change
    (call.next sessions.plane session real).service.info.lookup other =
      some entry at found
  change sessions.ownersAfter session call real other = _
  cases is : call.command session real with
  | none =>
      have idle : call.opens sessions.plane session real = none := by
        simp [Call.opens, is]
      rw [next_service_of_no_command is] at found
      rw [ownersAfter_idle idle open_]
      exact attributed other entry found
  | some command =>
      have outcome :=
        sessions.plane.service.execute_outcome command (live_of_command is)
      have opening :
          call.opens sessions.plane session real =
            sessions.plane.service.opens command := by
        simp [Call.opens, is]
      rw [next_of_command is, Plane.execute_service] at found
      generalize (sessions.plane.service.execute command).1 = after
        at outcome found
      cases outcome with
      | unchanged idle =>
          rw [ownersAfter_idle (opening.trans idle) open_]
          exact attributed other entry found
      | @changed fd _ idle used within =>
          rw [ownersAfter_idle (opening.trans idle) open_]
          by_cases same : other = fd
          · subst same
            have kept := within.session
            rw [found] at kept
            rcases Option.map_eq_some_iff.mp kept.symm with
              ⟨old, before, equal⟩
            rw [attributed other old before, equal]
          · rw [within.info other same] at found
            exact attributed other entry found
      | @opened fd new opened origin =>
          rw [ownersAfter_opens (opening.trans opened)]
          by_cases same : other = fd
          · subst same
            rw [Service.putInfo, AList.lookup_insert,
              Option.some.injEq] at found
            subst found
            rw [Function.update_self]
            rcases origin with given | ⟨source, used, copied⟩
            · rw [session_of_command is given]
            · have owned := attributed source new copied
              have use :
                  call.uses sessions.plane session real = some source := by
                simp [Call.uses, is, used]
              rw [apart source new.sessionId (.inl use) owned]
          · rw [Function.update_of_ne same]
            rw [Service.putInfo, AList.lookup_insert_ne same] at found
            exact attributed other entry found
      | @closed fd _ closing used info sockets =>
          subst closing
          cases call <;>
            simp only [Call.command, Call.request, Option.some.injEq,
              reduceCtorEq] at is
          exact absurd rfl (open_ _)

theorem destroy_attributed {session : Nat} :
    (machine.next sessions (.destroy session)).Attributed := by
  intro fd entry found
  change
    (sessions.plane.execute (.destroy session)).1.service.info.lookup fd =
      some entry at found
  change sessions.ownersWithout session fd = _
  rw [Plane.execute_service] at found
  change (sessions.plane.service.destroy session).info.lookup fd = _
    at found
  rw [lookup_info_destroy] at found
  split at found
  · contradiction
  · rename_i foreign
    have owned := attributed fd entry found
    unfold ownersWithout
    rw [owned, if_neg]
    intro same
    rw [Option.some.injEq] at same
    exact foreign (Service.mem_sessionDescriptors.mpr ⟨entry, found, same⟩)

theorem attributed_next {event : SessionEvent}
    (apart : sessions.Apart event) :
    (machine.next sessions event).Attributed := by
  cases event with
  | call session call real =>
      by_cases closing : ∃ fd, call = .close fd
      · rcases closing with ⟨fd, rfl⟩
        exact close_attributed attributed
      · exact
          call_attributed attributed apart
            (fun fd same => closing ⟨fd, same⟩)
  | query => exact attributed
  | destroy session => exact destroy_attributed attributed
  | route known order incoming =>
      intro fd entry found
      change
        (sessions.plane.routeIncomingData known order
          incoming).1.service.info.lookup fd = some entry at found
      rw [Plane.routeIncomingData_service] at found
      exact attributed fd entry found

end Steps

/-- A reply of the real service with a descriptor. -/
def descriptorReply (fd : Int) : RealReply where
  ok := true
  words := ⟨fd, 0⟩
  pollFds := []
  pending _ := false

/-- Two sessions with a descriptor each, then the first one ends. -/
def separateSockets : List SessionEvent :=
  [.call 1 (.socket 2 17) (descriptorReply 3),
    .call 2 (.socket 2 17) (descriptorReply 4),
    .destroy 1]

/-- Two sessions are handed the same descriptor by their real sessions. -/
def equalDescriptors : List SessionEvent :=
  [.call 1 (.socket 2 17) (descriptorReply 3),
    .call 2 (.socket 2 17) (descriptorReply 3)]

end Sessions

end SlpClient.Bsd
