import SlpClient.Bsd.Calls

/-!
# The two words of a reply

A game takes the first word of a reply for the result of its call and the
second for the errno.  The handlers name their two words the other way round
and have to cross them by hand.  The main theorem says for every command, in
every state, exactly when its words are what the game takes them for.
-/

namespace SlpClient.Bsd

open SlpClient.Lib
open SlpClient.Net

/-! ## What a game expects -/

/-- The words report a result, which is an errno when it is negative. -/
def Words.Report (words : Words) (result : Int) : Prop :=
  (0 ≤ result ∧ words = ⟨result, 0⟩) ∨
    (result < 0 ∧ words.first = -1 ∧ 0 < words.second)

instance (words : Words) (result : Int) : Decidable (words.Report result) :=
  inferInstanceAs (Decidable (_ ∨ _))

/--
A response that is in order: the proxy reports the result of the call, and a
forwarded call has the words of the real service, unless the count of proxy
sockets was added to them.
-/
def Response.InOrder (response : Response) (real : RealReply)
    (result : Int) : Prop :=
  match response.source with
  | .proxy => response.ok = true ∧ response.words.Report result
  | .real => real.ok = true → response.words = real.words
  | .merged => True

namespace Response

variable {real : RealReply} {result : Int}

theorem forward_inOrder : (forward real).InOrder real result := by
  intro succeeded
  change real.out = real.words
  unfold RealReply.out
  rw [if_pos succeeded]

theorem crossed_inOrder_iff :
    (crossed real).InOrder real result ↔
      (real.ok = true → real.words.first = real.words.second) := by
  refine forall_congr' fun succeeded => ?_
  change Words.mk real.out.second real.out.first = real.words ↔ _
  unfold RealReply.out
  rw [if_pos succeeded]
  constructor
  · intro same
    exact (congrArg Words.second same)
  · intro same
    cases words : real.words with
    | mk first second =>
        rw [words] at same
        rw [Words.mk.injEq]
        exact ⟨same.symm, same⟩

theorem proxied_inOrder_iff {first second : Int} :
    (proxied first second).InOrder real result ↔
      (Words.mk first second).Report result :=
  and_iff_right rfl

/-- A result that is reported as `ofResult` does is in order. -/
theorem ofResult_inOrder : (ofResult result).InOrder real result := by
  unfold ofResult
  split
  · rename_i negative
    have positive : 0 < -result := by omega
    exact proxied_inOrder_iff.mpr (.inr ⟨negative, rfl, positive⟩)
  · rename_i natural
    exact proxied_inOrder_iff.mpr (.inl ⟨Int.not_lt.mp natural, rfl⟩)

/-- A result that is not reported as minus one has no errno. -/
theorem proxied_inOrder_iff_of_ne {first second : Int}
    (reported : first ≠ -1) :
    (proxied first second).InOrder real result ↔
      0 ≤ result ∧ first = result ∧ second = 0 := by
  rw [proxied_inOrder_iff]
  unfold Words.Report
  rw [Words.mk.injEq]
  constructor
  · rintro (told | ⟨_, failed, _⟩)
    · exact told
    · exact absurd failed reported
  · exact Or.inl

/-- An errno in the place of the result. -/
theorem netUnreach_not_inOrder :
    ¬(proxied BsdErrno.netUnreach.code 0).InOrder real
      (-BsdErrno.netUnreach.code) := by
  rw [proxied_inOrder_iff_of_ne (by decide)]
  decide

end Response

/-! ## Counting ready sockets -/

namespace Scan

variable {Entry : Type*} {names hasProxy : Entry → Bool}
  {ready : Entry → Nat}

/-- The loop adds up what the named proxy sockets contribute. -/
theorem foldl_readyCount (scan : Scan) (entries : List Entry) :
    (entries.foldl (round names hasProxy ready) scan).readyCount =
      scan.readyCount +
        ((entries.filter fun entry => names entry && hasProxy entry).map
          ready).sum := by
  induction entries generalizing scan with
  | nil => rfl
  | cons entry rest induction =>
      rw [List.foldl_cons, induction]
      cases named : names entry <;> cases proxied : hasProxy entry <;>
        simp [round, named, proxied, proxy, real, Nat.add_assoc]

/-- A proxy socket that was seen is not forgotten. -/
theorem foldl_hasProxySockets (scan : Scan) (entries : List Entry) :
    (entries.foldl (round names hasProxy ready) scan).hasProxySockets =
      (scan.hasProxySockets ||
        entries.any fun entry => names entry && hasProxy entry) := by
  induction entries generalizing scan with
  | nil => exact (Bool.or_false _).symm
  | cons entry rest induction =>
      rw [List.foldl_cons, induction, List.any_cons]
      cases named : names entry <;> cases proxied : hasProxy entry <;>
        simp [round, named, proxied, proxy, real]

/-- Only proxy sockets are counted. -/
theorem hasProxySockets_of_readyCount_pos {entries : List Entry}
    (counted :
      0 < (entries.foldl (round names hasProxy ready) start).readyCount) :
    (entries.foldl
      (round names hasProxy ready) start).hasProxySockets = true := by
  rw [foldl_readyCount, start, Nat.zero_add] at counted
  rw [foldl_hasProxySockets, Bool.or_eq_true]
  right
  rw [List.any_eq_true]
  by_contra none
  have unnamed :
      (entries.filter fun entry => names entry && hasProxy entry) = [] := by
    rw [List.filter_eq_nil_iff]
    intro entry member proxied
    exact none ⟨entry, member, proxied⟩
  rw [unnamed] at counted
  exact absurd counted (Nat.lt_irrefl 0)

/-- Nothing is ready exactly when no named proxy socket is. -/
theorem readyCount_eq_zero_iff {entries : List Entry} :
    (entries.foldl (round names hasProxy ready) start).readyCount = 0 ↔
      ∀ entry ∈ entries,
        names entry = true → hasProxy entry = true → ready entry = 0 := by
  rw [foldl_readyCount, start, Nat.zero_add, List.sum_eq_zero_iff_forall_eq_nat]
  simp only [List.mem_map, List.mem_filter, Bool.and_eq_true]
  constructor
  · intro zero entry member named proxied
    exact zero (ready entry) ⟨entry, ⟨member, named, proxied⟩, rfl⟩
  · rintro zero _ ⟨entry, ⟨member, named, proxied⟩, rfl⟩
    exact zero entry member named proxied

/-- The count has to be zero, because it is in the place of the errno. -/
theorem respond_inOrder_iff {scan : Scan} {real : RealReply} {merged : Nat}
    (counted : 0 < scan.readyCount → scan.hasProxySockets = true) :
    (scan.respond real merged).InOrder real scan.readyCount ↔
      scan.readyCount = 0 := by
  have reported :
      (Response.proxied 0 scan.readyCount).InOrder real scan.readyCount ↔
        scan.readyCount = 0 := by
    rw [Response.proxied_inOrder_iff_of_ne (by decide)]
    omega
  unfold respond
  split
  · exact reported
  · split
    · exact reported
    · rename_i unanswered
      have none : scan.readyCount = 0 := by
        by_contra some
        have positive := Nat.pos_of_ne_zero some
        apply unanswered
        rw [counted positive, decide_eq_true positive]
        rfl
      split
      · exact iff_of_true trivial none
      · exact iff_of_true Response.forward_inOrder none

end Scan

/-! ## `SendTo` -/

namespace Service

/-- A socket that is promoted has a proxy, unless the registry is full. -/
theorem promoteSender_registered
    (service : Service) (fd : Int) (buffer : List UInt8) :
    (service.promoteSender fd buffer).2 = none ∧
      (service.promoteSender fd buffer).1.registered fd =
        (service.registered fd ||
          ((service.intercepted fd buffer promotesSender).isSome &&
            !service.full)) := by
  unfold promoteSender
  cases taken : service.intercepted fd buffer promotesSender with
  | none => simp
  | some result =>
      rcases result with ⟨addr, entry⟩
      dsimp only
      cases present : service.registered fd with
      | true =>
          have untouched : service.autoBind fd entry = (service, none) := by
            rcases Option.isSome_iff_exists.mp present with ⟨socket, found⟩
            unfold autoBind
            rw [found]
          rw [untouched]
          refine ⟨rfl, ?_⟩
          dsimp only
          rw [registered, markProxy_sockets]
          exact present
      | false =>
          rw [autoBind_eq entry present]
          refine ⟨rfl, ?_⟩
          dsimp only
          rw [registered, markProxy_sockets]
          cases full : service.full with
          | true => exact present
          | false =>
              cases service.ports.allocatePort entry.protocol with
              | none => simp [putSocket]
              | some result => simp [putSocket]

end Service

/-! ## Results -/

namespace Call

/--
What a call does at the proxy sockets: the number of bytes, ready sockets or
flags, or minus the errno that it fails with.
-/
def result (plane : Plane) : Call → Int
  | .send fd length delivered =>
      (plane.service.receiver fd).elim 0 (·.send length delivered)
  | .write fd length delivered =>
      (plane.service.receiver fd).elim 0 (·.send length delivered)
  | .sendTo fd addr length delivered =>
      match
        (plane.service.promoteSender fd addr).1.sockets.lookup fd,
        SockAddrIn.read addr with
      | some proxy, some _ => proxy.sendTo length delivered
      | _, _ => -BsdErrno.netUnreach.code
  | .recv fd flags capacity =>
      (plane.recv fd flags capacity).2.result.getD 0
  | .recvFrom fd flags capacity =>
      (plane.recvFrom fd flags capacity).2.result.getD 0
  | .read fd capacity => (plane.recv fd 0 capacity).2.result.getD 0
  | .select nfds sets =>
      ((List.range nfds.toNat).foldl (plane.selectRound sets)
        .start).readyCount
  | .poll fdsIn fdsOut nfds =>
      ((PollFd.readAll (Plane.pollBuffer fdsIn fdsOut)
        (PollFd.numFds nfds fdsOut)).foldl plane.pollRound
          .start).readyCount
  | .ioctl _ request =>
      if request = Plane.fionread then 0 else -BsdErrno.inval.code
  | .fcntl fd command _ =>
      if command = 3 then
        if (plane.service.sockets.lookup fd).any ProxySocket.nonBlocking then
          4
        else 0
      else if command = 4 then 0
      else -BsdErrno.inval.code
  | .recvMMsg _ => -Plane.eopnotsupp
  | .sendMMsg _ => -Plane.eopnotsupp
  | _ => 0

/-- The game reads the reply of the call for what it is. -/
def InOrder (plane : Plane) (real : RealReply) (call : Call) : Prop :=
  (call.response plane real).InOrder real (call.result plane)

/-- The proxy socket that `SendTo` uses is there or can be made. -/
def CanSend (service : Service) (fd : Int) (addr : List UInt8) : Prop :=
  SockAddrIn.size ≤ addr.length ∧
    (service.registered fd = true ∨
      (service.intercepted fd addr Service.promotesSender).isSome = true ∧
        service.full = false)

/-- The calls whose words are where the game looks for them. -/
def KeepsOrder (plane : Plane) (real : RealReply) : Call → Prop
  | .accept _ => real.ok = true → real.words.first = real.words.second
  | .duplicateSocket _ =>
      real.ok = true → real.words.first = real.words.second
  | .sendTo fd addr _ _ =>
      Service.toLan addr = true ∨ plane.service.flagged fd = true →
        CanSend plane.service fd addr
  | .write fd length delivered =>
      ∀ socket, plane.service.receiver fd = some socket →
        socket.state = .connected ∧ length = 0 ∧ delivered = true
  | .select nfds sets =>
      ∀ fd < nfds.toNat, plane.service.registered fd = true →
        fdIsSet sets.writeFds fd = false ∧
          (fdIsSet sets.readFds fd = true → ¬plane.hasPendingData fd = true)
  | .poll fdsIn fdsOut nfds =>
      ∀ entry ∈
          PollFd.readAll (Plane.pollBuffer fdsIn fdsOut)
            (PollFd.numFds nfds fdsOut),
        plane.service.registered entry.fd = true →
          entry.wantsOut = false ∧
            (entry.wantsIn = true → ¬plane.hasPendingData entry.fd = true)
  | .ioctl fd request =>
      plane.service.registered fd = true → request = Plane.fionread
  | .fcntl fd command _ =>
      ∀ socket, plane.service.sockets.lookup fd = some socket →
        (command = 3 ∧ socket.nonBlocking = false) ∨ command = 4 ∨
          Service.isDuplication command = true
  | .recvMMsg fd => plane.service.flagged fd = false
  | .sendMMsg fd => plane.service.flagged fd = false
  | _ => True

section Commands

variable (plane : Plane) (real : RealReply)

theorem send_inOrder (fd : Int) (length : Nat) (delivered : Bool) :
    (Call.send fd length delivered).InOrder plane real := by
  change (plane.send fd length delivered real).InOrder real
    ((plane.service.receiver fd).elim 0 (·.send length delivered))
  unfold Plane.send
  cases plane.service.receiver fd with
  | none => exact Response.forward_inOrder
  | some socket => exact Response.ofResult_inOrder

/-- A receive reports its result, or the words of the real service. -/
theorem respond_inOrder (received : Received) :
    (received.respond real).InOrder real (received.result.getD 0) := by
  unfold Received.respond
  cases received.result with
  | none => exact Response.forward_inOrder
  | some result => exact Response.ofResult_inOrder

theorem multiMessage_inOrder_iff (fd : Int) :
    (plane.multiMessage fd real).InOrder real (-Plane.eopnotsupp) ↔
      plane.service.flagged fd = false := by
  unfold Plane.multiMessage
  cases plane.service.flagged fd with
  | false => exact iff_of_true Response.forward_inOrder rfl
  | true =>
      rw [if_pos rfl,
        Response.proxied_inOrder_iff_of_ne (by decide)]
      decide

/-- Nothing but an empty payload that is delivered reads alike. -/
theorem send_eq_zero_iff {socket : ProxySocket} {length : Nat}
    {delivered : Bool} :
    socket.send length delivered = 0 ↔
      socket.state = .connected ∧ length = 0 ∧ delivered = true := by
  unfold ProxySocket.send
  by_cases connected : socket.state = .connected
  · unfold ProxySocket.sendTo
    rw [if_neg (not_not.mpr connected), connected, if_neg (by decide)]
    split
    · rename_i long
      have some : length ≠ 0 := Nat.ne_zero_of_lt long
      exact iff_of_false (by decide) (fun both => some both.2.1)
    · cases delivered with
      | false => simp [BsdErrno.code]
      | true => simp
  · rw [if_pos connected]
    exact iff_of_false (by decide) (fun both => connected both.1)

theorem write_inOrder_iff (fd : Int) (length : Nat) (delivered : Bool) :
    (Call.write fd length delivered).InOrder plane real ↔
      (Call.write fd length delivered).KeepsOrder plane real := by
  change (plane.write fd length delivered real).InOrder real
      ((plane.service.receiver fd).elim 0 (·.send length delivered)) ↔
    ∀ socket, plane.service.receiver fd = some socket → _
  unfold Plane.write
  cases plane.service.receiver fd with
  | none =>
      exact iff_of_true Response.forward_inOrder (by simp)
  | some socket =>
      simp only [Option.elim_some, Option.some.injEq, forall_eq']
      rw [← send_eq_zero_iff]
      split
      · rename_i negative
        rw [Response.proxied_inOrder_iff_of_ne (by omega)]
        omega
      · rw [Response.proxied_inOrder_iff_of_ne (by omega)]
        omega

/-- A proxy socket counts unless it waits for data that is not there. -/
theorem ready_eq_zero_iff {sets : FdSets} {pending : Int → Bool}
    {fd : Nat} :
    sets.ready pending fd = 0 ↔
      fdIsSet sets.writeFds fd = false ∧
        (fdIsSet sets.readFds fd = true → ¬pending fd = true) := by
  unfold FdSets.ready
  cases fdIsSet sets.writeFds fd <;> cases fdIsSet sets.readFds fd <;>
    cases pending fd <;> decide

theorem select_inOrder_iff (nfds : Int) (sets : FdSets) :
    (Call.select nfds sets).InOrder plane real ↔
      (Call.select nfds sets).KeepsOrder plane real := by
  have ordered :
      (Call.select nfds sets).InOrder plane real ↔
        ((List.range nfds.toNat).foldl (plane.selectRound sets)
          Scan.start).readyCount = 0 :=
    Scan.respond_inOrder_iff Scan.hasProxySockets_of_readyCount_pos
  rw [ordered, Plane.selectRound, Scan.readyCount_eq_zero_iff]
  simp only [List.mem_range, KeepsOrder, ready_eq_zero_iff]
  constructor
  · intro quiet fd below proxied
    by_cases named : sets.names fd = true
    · exact quiet fd below named proxied
    · simp only [FdSets.names, Bool.or_eq_true, not_or,
        Bool.not_eq_true] at named
      exact ⟨named.1.2, fun reads => absurd reads (by simp [named.1.1])⟩
  · intro quiet fd below _ proxied
    exact quiet fd below proxied

theorem poll_ready_eq_zero_iff {entry : PollFd} {pending : Int → Bool} :
    entry.ready pending = 0 ↔
      entry.wantsOut = false ∧
        (entry.wantsIn = true → ¬pending entry.fd = true) := by
  unfold PollFd.ready
  cases entry.wantsOut <;> cases entry.wantsIn <;>
    cases pending entry.fd <;> decide

theorem poll_inOrder_iff (fdsIn fdsOut : List UInt8) (nfds : Int) :
    (Call.poll fdsIn fdsOut nfds).InOrder plane real ↔
      (Call.poll fdsIn fdsOut nfds).KeepsOrder plane real := by
  have ordered :
      (Call.poll fdsIn fdsOut nfds).InOrder plane real ↔
        ((PollFd.readAll (Plane.pollBuffer fdsIn fdsOut)
          (PollFd.numFds nfds fdsOut)).foldl plane.pollRound
            Scan.start).readyCount = 0 :=
    Scan.respond_inOrder_iff Scan.hasProxySockets_of_readyCount_pos
  rw [ordered, Plane.pollRound, Scan.readyCount_eq_zero_iff]
  simp only [KeepsOrder, poll_ready_eq_zero_iff, true_implies]

theorem ioctl_inOrder_iff (fd : Int) (request : UInt32) :
    (Call.ioctl fd request).InOrder plane real ↔
      (Call.ioctl fd request).KeepsOrder plane real := by
  change (plane.ioctl fd request real).InOrder real
      (if request = Plane.fionread then 0 else -BsdErrno.inval.code) ↔
    (plane.service.registered fd = true → request = Plane.fionread)
  unfold Plane.ioctl
  cases plane.service.registered fd with
  | false => exact iff_of_true Response.forward_inOrder nofun
  | true =>
      rw [if_pos rfl, forall_prop_of_true rfl]
      split
      · rename_i known
        rw [Response.proxied_inOrder_iff_of_ne (by decide)]
        exact iff_of_true (by decide) known
      · rename_i unknown
        rw [Response.proxied_inOrder_iff_of_ne (by decide)]
        exact iff_of_false (by decide) unknown

theorem fcntl_inOrder_iff (fd command argument : Int) :
    (Call.fcntl fd command argument).InOrder plane real ↔
      (Call.fcntl fd command argument).KeepsOrder plane real := by
  change
    (Response.ofAnswer real
      (plane.service.fcntl fd command argument
        (errnoFirst real)).2).InOrder real
        (Call.result plane (.fcntl fd command argument)) ↔
      ∀ socket, plane.service.sockets.lookup fd = some socket → _
  unfold Service.fcntl Call.result
  dsimp only
  cases plane.service.sockets.lookup fd with
  | none =>
      refine
        iff_of_true ?_ fun socket found =>
          absurd found.symm (Option.some_ne_none socket)
      dsimp only
      split <;> exact Response.forward_inOrder
  | some socket =>
      simp only [Option.any_some, Option.some.injEq, forall_eq']
      by_cases get : command = 3
      · subst get
        rw [if_pos rfl, if_pos rfl]
        refine
          (Response.proxied_inOrder_iff_of_ne (by decide)).trans ?_
        by_cases blocking : socket.nonBlocking = true <;>
          simp [blocking, Service.isDuplication]
      · rw [if_neg get, if_neg get]
        by_cases set : command = 4
        · subst set
          rw [if_pos rfl, if_pos rfl]
          refine
            (Response.proxied_inOrder_iff_of_ne (by decide)).trans ?_
          exact iff_of_true (by decide) (.inr (.inl rfl))
        · rw [if_neg set, if_neg set]
          split
          · rename_i duplication
            exact
              iff_of_true Response.forward_inOrder
                (.inr (.inr duplication))
          · rename_i other
            refine
              (Response.proxied_inOrder_iff_of_ne (by decide)).trans ?_
            refine iff_of_false (by decide) ?_
            rintro (⟨is, _⟩ | is | is)
            · exact get is
            · exact set is
            · exact other is

/-- `SendTo` reports what it sends, or that there is no proxy socket. -/
theorem sendProxy_inOrder_iff (fd : Int) (addr : List UInt8)
    (length : Nat) (delivered : Bool) :
    (Response.ofAnswer real
      ((plane.service.promoteSender fd addr).1.sendProxy fd addr length
        delivered)).InOrder real
        (Call.result plane (.sendTo fd addr length delivered)) ↔
      CanSend plane.service fd addr := by
  have promoted :=
    (plane.service.promoteSender_registered fd addr).2
  have usable :
      CanSend plane.service fd addr ↔
        SockAddrIn.size ≤ addr.length ∧
          (plane.service.promoteSender fd addr).1.registered fd = true := by
    rw [promoted]
    simp [CanSend]
  rw [usable]
  unfold Service.sendProxy Call.result Service.registered
  dsimp only
  cases (plane.service.promoteSender fd addr).1.sockets.lookup fd with
  | none =>
      exact iff_of_false Response.netUnreach_not_inOrder (by simp)
  | some proxy =>
      by_cases whole : SockAddrIn.size ≤ addr.length
      · unfold SockAddrIn.read
        rw [if_pos whole]
        refine iff_of_true ?_ ⟨whole, rfl⟩
        have told :
            (Response.ofResult (proxy.sendTo length delivered)).InOrder real
              (proxy.sendTo length delivered) :=
          Response.ofResult_inOrder
        unfold Response.ofResult at told
        dsimp only
        split
        · rename_i negative
          rwa [if_pos negative] at told
        · rename_i natural
          rwa [if_neg natural] at told
      · unfold SockAddrIn.read
        rw [if_neg whole]
        exact
          iff_of_false Response.netUnreach_not_inOrder
            (fun both => whole both.1)

theorem sendTo_inOrder_iff (fd : Int) (addr : List UInt8) (length : Nat)
    (delivered : Bool) :
    (Call.sendTo fd addr length delivered).InOrder plane real ↔
      (Call.sendTo fd addr length delivered).KeepsOrder plane real := by
  have unfailing :=
    (plane.service.promoteSender_registered fd addr).1
  have sent := sendProxy_inOrder_iff plane real fd addr length delivered
  change
    (Response.ofAnswer real
      (plane.service.sendTo fd addr length delivered).2).InOrder real _ ↔
      (Service.toLan addr = true ∨ plane.service.flagged fd = true → _)
  unfold Service.sendTo
  cases promoted : plane.service.promoteSender fd addr with
  | mk after failure =>
      rw [promoted] at unfailing sent
      cases unfailing
      dsimp only at sent ⊢
      rw [← Bool.or_eq_true]
      by_cases proxied :
          (Service.toLan addr || plane.service.flagged fd) = true
      · rw [forall_prop_of_true proxied, ← sent]
        unfold Service.flagged at proxied
        rw [if_pos proxied]
      · refine iff_of_true ?_ (fun is => absurd is proxied)
        unfold Service.flagged at proxied
        rw [if_neg proxied]
        exact Response.forward_inOrder

end Commands

/--
For every command with two words, in every state: the game reads the reply
for what it is exactly when the command keeps the words in order.
-/
theorem inOrder_iff_keepsOrder
    (plane : Plane) (real : RealReply) (call : Call)
    (two : call.twoWords = true) :
    call.InOrder plane real ↔ call.KeepsOrder plane real := by
  cases call with
  | socket => exact iff_of_true Response.forward_inOrder trivial
  | socketExempt => exact iff_of_true Response.forward_inOrder trivial
  | accept => exact Response.crossed_inOrder_iff
  | duplicateSocket => exact Response.crossed_inOrder_iff
  | send fd length delivered =>
      exact iff_of_true (send_inOrder plane real fd length delivered) trivial
  | sendTo fd addr length delivered =>
      exact sendTo_inOrder_iff plane real fd addr length delivered
  | recv => exact iff_of_true (respond_inOrder real _) trivial
  | recvFrom => exact iff_of_true (respond_inOrder real _) trivial
  | read => exact iff_of_true (respond_inOrder real _) trivial
  | write fd length delivered =>
      exact write_inOrder_iff plane real fd length delivered
  | select nfds sets => exact select_inOrder_iff plane real nfds sets
  | poll fdsIn fdsOut nfds =>
      exact poll_inOrder_iff plane real fdsIn fdsOut nfds
  | ioctl fd request => exact ioctl_inOrder_iff plane real fd request
  | fcntl fd command argument =>
      exact fcntl_inOrder_iff plane real fd command argument
  | recvMMsg fd => exact multiMessage_inOrder_iff plane real fd
  | sendMMsg fd => exact multiMessage_inOrder_iff plane real fd
  | bind => contradiction
  | connect => contradiction
  | setSockOpt => contradiction
  | close => contradiction

/-- Port 30000 of a peer in the virtual LAN. -/
def lanPeer : List UInt8 :=
  [16, 2, 117, 48, 10, 13, 0, 2, 0, 0, 0, 0, 0, 0, 0, 0]

/-- The plane after a datagram socket was connected to the virtual LAN. -/
def connectedPlane : Plane :=
  Plane.machine.run (.initial 0)
    [.request (.command (.socket 1 2 17 ⟨true, 3, 0⟩)),
      .request (.command (.connect 3 lanPeer))]

/-- The real service answers five and no errno. -/
def fiveReply : RealReply where
  ok := true
  words := ⟨5, 0⟩
  pollFds := []
  pending _ := false

/-- Seven bytes go to the peer, and the game reads a seven. -/
theorem sendToPeer_inOrder :
    (Call.sendTo 3 lanPeer 7 true).twoWords = true ∧
      (Call.sendTo 3 lanPeer 7 true).result connectedPlane = 7 ∧
        (Call.sendTo 3 lanPeer 7 true).InOrder connectedPlane fiveReply := by
  refine ⟨rfl, by decide, (inOrder_iff_keepsOrder _ _ _ rfl).mpr ?_⟩
  intro taken
  exact ⟨by decide, .inl (by decide)⟩

/-- A socket that is accepted as five reads as zero with the errno five. -/
theorem acceptedSocket_outOfOrder :
    (Call.accept 3).twoWords = true ∧
      ¬(Call.accept 3).InOrder connectedPlane fiveReply := by
  refine ⟨rfl, ?_⟩
  intro ordered
  have same := ordered rfl
  contradiction

end Call

end SlpClient.Bsd
