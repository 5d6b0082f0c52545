import SlpClient.Bsd.DirectDelivery
import SlpClient.Bsd.Replies
import SlpClient.Lib.Bitmap

/-!
# What `Select` and `Poll` flag

Beside the two words, `Select` and `Poll` fill buffers for the game: three
sets of descriptors, and the array of entries with their `revents`.  The game
takes the first word for the number of flags.  The proxy puts its count into
the second one, so the first word is right only where the proxy sockets have
nothing to add: when it answers by itself, no flag is set, and when it merges
its flags into the reply of the real service, it adds none.
-/

namespace SlpClient.Bsd

open SlpClient.Lib

/-- The proxy answers without the real service. -/
def Scan.answersItself (scan : Scan) : Bool :=
  scan.hasProxySockets &&
    (!scan.hasRealSockets || decide (0 < scan.readyCount))

/-- The first word and the success of each way out. -/
theorem Scan.respond_word (scan : Scan) (real : RealReply) (merged : Nat) :
    (scan.respond real merged).words.first =
        (if scan.answersItself then 0 else real.out.first) ∧
      (scan.respond real merged).ok =
        (scan.answersItself || real.ok) := by
  unfold respond answersItself
  cases scan.hasProxySockets with
  | false => exact ⟨rfl, rfl⟩
  | true =>
      cases scan.hasRealSockets with
      | false => exact ⟨rfl, rfl⟩
      | true =>
          cases decide (0 < scan.readyCount) with
          | true => exact ⟨rfl, rfl⟩
          | false =>
              simp only [Bool.not_true, Bool.and_false, Bool.or_false,
                Bool.true_and, Bool.false_eq_true, if_false]
              split <;> exact ⟨rfl, rfl⟩

/-! ## The sets of `Select` -/

namespace FdSets

/-- The sets after `memset`. -/
def zeroed (out : FdSets) : FdSets where
  readFds := List.replicate out.readFds.length 0
  writeFds := List.replicate out.writeFds.length 0
  errorFds := List.replicate out.errorFds.length 0

/-- `fd_set_bit` for what a proxy socket is ready for, as it was asked. -/
def flag (sets : FdSets) (pending : Int → Bool) (out : FdSets) (fd : Nat) :
    FdSets where
  readFds :=
    if fdIsSet sets.readFds fd && pending fd then
      Bitmap.insert out.readFds fd
    else out.readFds
  writeFds :=
    if fdIsSet sets.writeFds fd then Bitmap.insert out.writeFds fd
    else out.writeFds
  errorFds := out.errorFds

/-- The number of bits in the three sets. -/
def total (sets : FdSets) : Nat :=
  Bitmap.population sets.readFds + Bitmap.population sets.writeFds +
    Bitmap.population sets.errorFds

end FdSets

namespace Plane

/-- The loop over the descriptors that flags the proxy sockets. -/
def flagProxies (plane : Plane) (nfds : Int) (sets : FdSets)
    (pending : Int → Bool) (out : FdSets) : FdSets :=
  (List.range nfds.toNat).foldl
    (fun out (fd : Nat) =>
      if plane.service.registered fd then sets.flag pending out fd else out)
    out

/-- What the loop of `Select` has seen. -/
def selectScan (plane : Plane) (nfds : Int) (sets : FdSets) : Scan :=
  (List.range nfds.toNat).foldl (plane.selectRound sets) .start

/--
The three sets that the game gets; `out` is what they hold at first, and
`reply` what the real service makes of them.
-/
def selectSets (plane : Plane) (nfds : Int) (sets out : FdSets)
    (real : RealReply) (reply : FdSets) : FdSets :=
  let scan := plane.selectScan nfds sets
  if scan.answersItself then
    plane.flagProxies nfds sets plane.hasPendingData out.zeroed
  else if scan.hasProxySockets && real.ok then
    plane.flagProxies nfds sets real.pending reply
  else reply

end Plane

/-! ## The array of `Poll` -/

/-- `PollFd`, with the events that the service fills in. -/
structure PollEntry extends PollFd where
  revents : UInt16
deriving DecidableEq

namespace PollEntry

/-- One element of the array. -/
def read (bytes : List UInt8) : PollEntry where
  toPollFd := PollFd.read bytes
  revents := UInt16.ofNat (leValue ((bytes.drop 6).take 2))

/-- The first elements of the array. -/
def readAll (bytes : List UInt8) (count : Nat) : List PollEntry :=
  (List.range count).map fun index =>
    read (bytes.drop (PollFd.size * index))

/-- The entry of a proxy socket with the events that it is ready for. -/
def polled (entry : PollEntry) (pending : Int → Bool) : PollEntry :=
  { entry with
    revents :=
      (if entry.wantsIn && pending entry.fd then 0x0001 else 0) |||
        (if entry.wantsOut then 0x0004 else 0) }

/-- The entry without events. -/
def cleared (entry : PollEntry) : PollEntry :=
  { entry with revents := 0 }

/-- Some event is flagged. -/
def flagged (entry : PollEntry) : Bool :=
  entry.revents != 0

/-- `POLLIN` is flagged. -/
def readable (entry : PollEntry) : Bool :=
  entry.revents &&& 0x0001 != 0

/-- A proxy socket is ready for what it is asked for. -/
def due (entry : PollEntry) (pending : Int → Bool) : Bool :=
  entry.wantsIn && pending entry.fd || entry.wantsOut

theorem flagged_polled (entry : PollEntry) (pending : Int → Bool) :
    (entry.polled pending).flagged = entry.due pending := by
  unfold flagged polled due
  cases entry.wantsIn && pending entry.fd <;> cases entry.wantsOut <;> rfl

theorem readable_polled (entry : PollEntry) (pending : Int → Bool) :
    (entry.polled pending).readable =
      (entry.wantsIn && pending entry.fd) := by
  have bits :
      ∀ input output : Bool,
        (((if input then 0x0001 else 0) ||| (if output then 0x0004 else 0) :
          UInt16) &&& 0x0001 != 0) = input := by
    decide
  exact bits _ _

section Arrays

variable (registered pending : Int → Bool) (entries : List PollEntry)

/-- The flags of an array that the proxy fills by itself. -/
theorem countP_flagged_looked :
    (entries.map fun entry =>
        if registered entry.fd then entry.polled pending
        else entry.cleared).countP flagged =
      entries.countP fun entry =>
        registered entry.fd && entry.due pending := by
  rw [List.countP_map]
  apply List.countP_congr
  intro entry _
  cases hasProxy : registered entry.fd with
  | false => simp [hasProxy, cleared, flagged]
  | true => simp [hasProxy, flagged_polled]

/-- The flags of an array into which the proxy merges its own. -/
theorem countP_flagged_merged :
    (entries.map fun entry =>
          if registered entry.fd then entry.polled pending
          else entry).countP flagged +
        (entries.countP fun entry =>
          registered entry.fd && entry.flagged) =
      entries.countP flagged +
        entries.countP fun entry =>
          registered entry.fd && entry.due pending := by
  induction entries with
  | nil => rfl
  | cons entry rest induction =>
      rw [List.map_cons, List.countP_cons, List.countP_cons,
        List.countP_cons, List.countP_cons]
      cases hasProxy : registered entry.fd with
      | false =>
          simp only [Bool.false_and, Bool.false_eq_true, if_false]
          omega
      | true =>
          simp only [Bool.true_and, if_true, flagged_polled]
          omega

variable {registered pending entries}

/-- The proxy flags none of its sockets as readable without data. -/
theorem pending_of_readable {other : PollEntry → PollEntry}
    (keeps : ∀ entry, (other entry).fd = entry.fd) {final : PollEntry}
    (member :
      final ∈ entries.map fun entry =>
        if registered entry.fd then entry.polled pending else other entry)
    (hasProxy : registered final.fd = true)
    (flagged : final.readable = true) : pending final.fd = true := by
  rcases List.mem_map.mp member with ⟨entry, -, same⟩
  by_cases proxied : registered entry.fd = true
  · rw [if_pos proxied] at same
    rw [← same, readable_polled, Bool.and_eq_true] at flagged
    rw [← same]
    exact flagged.2
  · rw [if_neg proxied] at same
    rw [← same, keeps] at hasProxy
    exact absurd hasProxy proxied

end Arrays

end PollEntry

namespace Plane

/-- The array as `Poll` looks at it. -/
def pollEntries (fdsIn fdsOut : List UInt8) (nfds : Int) :
    List PollEntry :=
  PollEntry.readAll (pollBuffer fdsIn fdsOut) (PollFd.numFds nfds fdsOut)

/-- The array as the real service returns it. -/
def replyEntries (fdsOut : List UInt8) (nfds : Int) (real : RealReply) :
    List PollEntry :=
  PollEntry.readAll real.pollFds (PollFd.numFds nfds fdsOut)

/-- What the loop of `Poll` has seen. -/
def pollScan (plane : Plane) (fdsIn fdsOut : List UInt8) (nfds : Int) :
    Scan :=
  (PollFd.readAll (pollBuffer fdsIn fdsOut)
    (PollFd.numFds nfds fdsOut)).foldl plane.pollRound .start

/--
The array that the game gets.  An entry of another socket is cleared in the
first loop already, so that clearing it again changes nothing.
-/
def pollArray (plane : Plane) (fdsIn fdsOut : List UInt8) (nfds : Int)
    (real : RealReply) : List PollEntry :=
  let scan := plane.pollScan fdsIn fdsOut nfds
  if scan.answersItself then
    (pollEntries fdsIn fdsOut nfds).map fun entry =>
      if plane.service.registered entry.fd then
        entry.polled plane.hasPendingData
      else entry.cleared
  else if scan.hasProxySockets && real.ok then
    (replyEntries fdsOut nfds real).map fun entry =>
      if plane.service.registered entry.fd then entry.polled real.pending
      else entry
  else replyEntries fdsOut nfds real

end Plane

/-! ## Counting what is flagged -/

/--
A call of `Select` or `Poll`: the descriptors it asks for and what its output
buffers hold at first.
-/
inductive Wait
  | select (nfds : Int) (sets out : FdSets)
  | poll (fdsIn fdsOut : List UInt8) (nfds : Int)

namespace Wait

variable (plane : Plane) (real : RealReply) (reply : FdSets)

/-- What the loop over the descriptors has seen. -/
def scan : Wait → Scan
  | .select nfds sets _ => plane.selectScan nfds sets
  | .poll fdsIn fdsOut nfds => plane.pollScan fdsIn fdsOut nfds

/-- The two words of the answer. -/
def response : Wait → Response
  | .select nfds sets _ => plane.select nfds sets real
  | .poll fdsIn fdsOut nfds => plane.poll fdsIn fdsOut nfds real

/-- The number of flags in the reply of the real service. -/
def repliedFlags : Wait → Nat
  | .select _ _ _ => reply.total
  | .poll _ fdsOut nfds =>
      (Plane.replyEntries fdsOut nfds real).countP PollEntry.flagged

/-- The number of flags that the game gets. -/
def flags : Wait → Nat
  | .select nfds sets out =>
      (plane.selectSets nfds sets out real reply).total
  | .poll fdsIn fdsOut nfds =>
      (plane.pollArray fdsIn fdsOut nfds real).countP PollEntry.flagged

/-- The game gets a descriptor flagged as readable. -/
def FlagsReadable (fd : Int) : Wait → Prop
  | .select nfds sets out =>
      ∃ bit : Nat, fd = bit ∧
        fdIsSet (plane.selectSets nfds sets out real reply).readFds bit =
          true
  | .poll fdsIn fdsOut nfds =>
      ∃ entry ∈ plane.pollArray fdsIn fdsOut nfds real,
        entry.fd = fd ∧ entry.readable = true

/-- The data of a proxy socket when it is looked at for the last time. -/
def pending (wait : Wait) : Int → Bool :=
  if (wait.scan plane).answersItself then plane.hasPendingData
  else real.pending

/-- A successful reply of the real service counts what it flags. -/
def Consistent (wait : Wait) : Prop :=
  real.ok = true → real.words.first = wait.repliedFlags real reply

/--
When the call succeeds, its first word is the number of flags, and a proxy
socket is flagged as readable only if it has data.
-/
structure Counts (wait : Wait) : Prop where
  counted :
    (wait.response plane real).ok = true →
      (wait.response plane real).words.first =
        wait.flags plane real reply
  readable :
    (wait.response plane real).ok = true →
      ∀ fd, plane.service.registered fd = true →
        wait.FlagsReadable plane real reply fd →
          wait.pending plane real fd = true

end Wait

/-! ## Sets without new bits -/

namespace Plane

/-- What the proxy sockets would flag has no place or is flagged already. -/
def AddsNothing (plane : Plane) (nfds : Int) (sets : FdSets)
    (pending : Int → Bool) (out : FdSets) : Prop :=
  ∀ fd < nfds.toNat, plane.service.registered fd = true →
    (fdIsSet sets.readFds fd = true → pending fd = true →
        fd / 8 < out.readFds.length → fdIsSet out.readFds fd = true) ∧
      (fdIsSet sets.writeFds fd = true →
        fd / 8 < out.writeFds.length → fdIsSet out.writeFds fd = true)

section Flags

variable (plane : Plane) (nfds : Int) (sets : FdSets)
  (pending : Int → Bool) (out : FdSets)

/-- The proxy sockets that are flagged as readable, in order. -/
def flaggedRead : List Nat :=
  (List.range nfds.toNat).filter fun fd =>
    plane.service.registered fd &&
      (fdIsSet sets.readFds fd && pending fd)

/-- The proxy sockets that are flagged as writable, in order. -/
def flaggedWrite : List Nat :=
  (List.range nfds.toNat).filter fun fd =>
    plane.service.registered fd && fdIsSet sets.writeFds fd

/-- The loop inserts the ready sockets into each set. -/
theorem flagProxies_eq :
    plane.flagProxies nfds sets pending out =
      { readFds :=
          Bitmap.insertAll out.readFds
            (plane.flaggedRead nfds sets pending)
        writeFds :=
          Bitmap.insertAll out.writeFds (plane.flaggedWrite nfds sets)
        errorFds := out.errorFds } := by
  unfold flagProxies flaggedRead flaggedWrite
  induction List.range nfds.toNat generalizing out with
  | nil => rfl
  | cons fd rest induction =>
      rw [List.foldl_cons, induction, List.filter_cons, List.filter_cons]
      cases plane.service.registered fd with
      | false => rfl
      | true =>
          unfold FdSets.flag
          cases fdIsSet sets.readFds fd && pending fd <;>
            cases fdIsSet sets.writeFds fd <;> rfl

variable {plane nfds sets pending out}

theorem mem_flaggedRead {fd : Nat} :
    fd ∈ plane.flaggedRead nfds sets pending ↔
      fd < nfds.toNat ∧ plane.service.registered fd = true ∧
        fdIsSet sets.readFds fd = true ∧ pending fd = true := by
  unfold flaggedRead
  rw [List.mem_filter, List.mem_range, Bool.and_eq_true,
    Bool.and_eq_true]

theorem mem_flaggedWrite {fd : Nat} :
    fd ∈ plane.flaggedWrite nfds sets ↔
      fd < nfds.toNat ∧ plane.service.registered fd = true ∧
        fdIsSet sets.writeFds fd = true := by
  unfold flaggedWrite
  rw [List.mem_filter, List.mem_range, Bool.and_eq_true]

/-- The loop adds no flag exactly when there is none to add. -/
theorem total_flagProxies_iff :
    (plane.flagProxies nfds sets pending out).total = out.total ↔
      plane.AddsNothing nfds sets pending out := by
  have read :=
    Bitmap.population_le_insertAll out.readFds
      (plane.flaggedRead nfds sets pending)
  have write :=
    Bitmap.population_le_insertAll out.writeFds
      (plane.flaggedWrite nfds sets)
  have each :
      (plane.flagProxies nfds sets pending out).total = out.total ↔
        Bitmap.population
              (Bitmap.insertAll out.readFds
                (plane.flaggedRead nfds sets pending)) =
            Bitmap.population out.readFds ∧
          Bitmap.population
              (Bitmap.insertAll out.writeFds
                (plane.flaggedWrite nfds sets)) =
            Bitmap.population out.writeFds := by
    rw [flagProxies_eq]
    unfold FdSets.total
    dsimp only
    omega
  rw [each, Bitmap.population_insertAll_iff,
    Bitmap.population_insertAll_iff]
  constructor
  · rintro ⟨reads, writes⟩ fd below registered
    constructor
    · intro asked data
      exact reads fd (mem_flaggedRead.mpr ⟨below, registered, asked, data⟩)
    · intro asked
      exact writes fd (mem_flaggedWrite.mpr ⟨below, registered, asked⟩)
  · intro nothing
    constructor
    · intro fd flagged
      rcases mem_flaggedRead.mp flagged with
        ⟨below, registered, asked, data⟩
      exact (nothing fd below registered).1 asked data
    · intro fd flagged
      rcases mem_flaggedWrite.mp flagged with ⟨below, registered, asked⟩
      exact (nothing fd below registered).2 asked

/-- The loop flags nobody as readable who has no data. -/
theorem readable_flagProxies_iff :
    (∀ fd : Nat, plane.service.registered fd = true →
        fdIsSet (plane.flagProxies nfds sets pending out).readFds fd =
            true →
          pending fd = true) ↔
      ∀ fd : Nat, plane.service.registered fd = true →
        fdIsSet out.readFds fd = true → pending fd = true := by
  rw [flagProxies_eq]
  apply forall_congr'
  intro fd
  apply imp_congr_right
  intro registered
  change
    (Bitmap.isSet (Bitmap.insertAll _ _) fd = true → _) ↔
      (Bitmap.isSet _ fd = true → _)
  rw [Bitmap.isSet_insertAll, Bool.or_eq_true, or_imp]
  apply and_iff_left
  intro flagged
  rw [Bool.and_eq_true, decide_eq_true_eq] at flagged
  exact (mem_flaggedRead.mp flagged.1).2.2.2

/-- Without a proxy socket the loop flags nothing. -/
theorem flagProxies_of_no_proxy
    (none : (plane.selectScan nfds sets).hasProxySockets = false) :
    plane.flagProxies nfds sets pending out = out := by
  have unnamed : ∀ fd < nfds.toNat,
      plane.service.registered fd = true → sets.names fd = false := by
    intro fd below registered
    unfold selectScan selectRound at none
    rw [Scan.foldl_hasProxySockets, Bool.or_eq_false_iff,
      List.any_eq_false] at none
    have unseen := none.2 fd (List.mem_range.mpr below)
    rw [registered, Bool.and_true, Bool.not_eq_true] at unseen
    exact unseen
  have read : plane.flaggedRead nfds sets pending = [] := by
    rw [List.eq_nil_iff_forall_not_mem]
    intro fd flagged
    rcases mem_flaggedRead.mp flagged with ⟨below, registered, asked, -⟩
    have named := unnamed fd below registered
    rw [FdSets.names, asked] at named
    exact Bool.false_ne_true named.symm
  have write : plane.flaggedWrite nfds sets = [] := by
    rw [List.eq_nil_iff_forall_not_mem]
    intro fd flagged
    rcases mem_flaggedWrite.mp flagged with ⟨below, registered, asked⟩
    have named := unnamed fd below registered
    rw [FdSets.names, asked, Bool.or_true] at named
    exact Bool.false_ne_true named.symm
  rw [flagProxies_eq, read, write]
  rfl

end Flags

end Plane

/-! ## When the first word is right -/

namespace Plane

/--
The proxy sockets have nothing to add to the sets of a `Select`: where the
proxy answers by itself, it flags nothing, and where it merges, the reply has
all that it would flag.  The reply flags no proxy socket as readable without
data.
-/
def SelectAddsNothing (plane : Plane) (real : RealReply) (reply : FdSets)
    (nfds : Int) (sets out : FdSets) : Prop :=
  if (plane.selectScan nfds sets).answersItself then
    plane.AddsNothing nfds sets plane.hasPendingData out.zeroed
  else
    real.ok = true →
      plane.AddsNothing nfds sets real.pending reply ∧
        ∀ fd : Nat, plane.service.registered fd = true →
          fdIsSet reply.readFds fd = true → real.pending fd = true

/--
The proxy sockets have nothing to add to the array of a `Poll`: where the
proxy answers by itself, none of them is ready, and where it merges, the
reply has flagged as many of them as are ready.  A reply that the proxy does
not touch flags none of them as readable without data.
-/
def PollAddsNothing (plane : Plane) (real : RealReply)
    (fdsIn fdsOut : List UInt8) (nfds : Int) : Prop :=
  if (plane.pollScan fdsIn fdsOut nfds).answersItself then
    ∀ entry ∈ pollEntries fdsIn fdsOut nfds,
      plane.service.registered entry.fd = true →
        entry.due plane.hasPendingData = false
  else
    real.ok = true →
      if (plane.pollScan fdsIn fdsOut nfds).hasProxySockets then
        ((replyEntries fdsOut nfds real).countP fun entry =>
            plane.service.registered entry.fd && entry.flagged) =
          (replyEntries fdsOut nfds real).countP fun entry =>
            plane.service.registered entry.fd && entry.due real.pending
      else
        ∀ entry ∈ replyEntries fdsOut nfds real,
          plane.service.registered entry.fd = true →
            entry.readable = true → real.pending entry.fd = true

end Plane

namespace Wait

variable (plane : Plane) (real : RealReply) (reply : FdSets)

/-- The proxy sockets have nothing to add to what the game gets. -/
def NothingToAdd : Wait → Prop
  | .select nfds sets out =>
      plane.SelectAddsNothing real reply nfds sets out
  | .poll fdsIn fdsOut nfds => plane.PollAddsNothing real fdsIn fdsOut nfds

/-- The first word and the success of a call. -/
theorem response_word (wait : Wait) :
    (wait.response plane real).words.first =
        (if (wait.scan plane).answersItself then 0 else real.out.first) ∧
      (wait.response plane real).ok =
        ((wait.scan plane).answersItself || real.ok) := by
  cases wait with
  | select nfds sets out => exact Scan.respond_word _ _ _
  | poll fdsIn fdsOut nfds => exact Scan.respond_word _ _ _

/-- A call that the proxy answers by itself. -/
theorem counts_itself_iff (wait : Wait)
    (itself : (wait.scan plane).answersItself = true) :
    wait.Counts plane real reply ↔
      wait.flags plane real reply = 0 ∧
        ∀ fd, plane.service.registered fd = true →
          wait.FlagsReadable plane real reply fd →
            plane.hasPendingData fd = true := by
  have word := wait.response_word plane real
  rw [itself, if_pos rfl, Bool.true_or] at word
  have seen : wait.pending plane real = plane.hasPendingData :=
    if_pos itself
  constructor
  · rintro ⟨counted, readable⟩
    have zero := counted word.2
    rw [word.1] at zero
    rw [seen] at readable
    exact ⟨by omega, readable word.2⟩
  · rintro ⟨zero, readable⟩
    refine ⟨?_, ?_⟩
    · intro _
      rw [word.1, zero]
      rfl
    · intro _
      rw [seen]
      exact readable

/-- A call that is forwarded. -/
theorem counts_forwarded_iff {wait : Wait}
    (consistent : wait.Consistent real reply)
    (forwarded : (wait.scan plane).answersItself = false) :
    wait.Counts plane real reply ↔
      (real.ok = true →
        wait.flags plane real reply = wait.repliedFlags real reply ∧
          ∀ fd, plane.service.registered fd = true →
            wait.FlagsReadable plane real reply fd →
              real.pending fd = true) := by
  have word := wait.response_word plane real
  rw [forwarded, if_neg Bool.false_ne_true, Bool.false_or] at word
  have seen : wait.pending plane real = real.pending :=
    if_neg (by rw [forwarded]; exact Bool.false_ne_true)
  have told (ok : real.ok = true) :
      real.out.first = wait.repliedFlags real reply := by
    rw [RealReply.out, if_pos ok]
    exact consistent ok
  constructor
  · rintro ⟨counted, readable⟩ ok
    have answered := word.2.trans ok
    have same := counted answered
    rw [word.1, told ok] at same
    rw [seen] at readable
    exact ⟨by omega, readable answered⟩
  · intro agrees
    refine ⟨?_, ?_⟩
    · intro answered
      have ok := word.2.symm.trans answered
      rw [word.1, told ok, (agrees ok).1]
    · intro answered
      rw [seen]
      exact (agrees (word.2.symm.trans answered)).2

theorem selectSets_itself {nfds : Int} {sets out : FdSets}
    (itself : (plane.selectScan nfds sets).answersItself = true) :
    plane.selectSets nfds sets out real reply =
      plane.flagProxies nfds sets plane.hasPendingData out.zeroed := by
  unfold Plane.selectSets
  exact if_pos itself

/-- The sets of a `Select` that is forwarded with success. -/
theorem selectSets_forwarded {nfds : Int} {sets out : FdSets}
    (forwarded : (plane.selectScan nfds sets).answersItself = false)
    (ok : real.ok = true) :
    plane.selectSets nfds sets out real reply =
      plane.flagProxies nfds sets real.pending reply := by
  unfold Plane.selectSets
  dsimp only
  rw [forwarded, ok, if_neg Bool.false_ne_true, Bool.and_true]
  cases none : (plane.selectScan nfds sets).hasProxySockets with
  | false => exact (Plane.flagProxies_of_no_proxy none).symm
  | true => rfl

/-- A `Select` counts what it flags when there is nothing to add. -/
theorem select_counts_iff {nfds : Int} {sets out : FdSets}
    (consistent : (select nfds sets out).Consistent real reply) :
    (select nfds sets out).Counts plane real reply ↔
      plane.SelectAddsNothing real reply nfds sets out := by
  have asReadable (final : FdSets) (pending : Int → Bool) :
      (∀ fd : Int, plane.service.registered fd = true →
          (∃ bit : Nat, fd = bit ∧ fdIsSet final.readFds bit = true) →
            pending fd = true) ↔
        ∀ fd : Nat, plane.service.registered fd = true →
          fdIsSet final.readFds fd = true → pending fd = true := by
    constructor
    · intro all fd registered set
      exact all fd registered ⟨fd, rfl, set⟩
    · rintro all _ registered ⟨fd, rfl, set⟩
      exact all fd registered set
  unfold Plane.SelectAddsNothing
  cases itself : (plane.selectScan nfds sets).answersItself with
  | true =>
      have empty : out.zeroed.total = 0 := by
        unfold FdSets.total FdSets.zeroed
        rw [Bitmap.population_zeros, Bitmap.population_zeros,
          Bitmap.population_zeros]
      have silent : ∀ fd : Nat, plane.service.registered fd = true →
          fdIsSet out.zeroed.readFds fd = true →
            plane.hasPendingData fd = true := by
        intro fd _ set
        exact absurd set (by
          rw [show fdIsSet out.zeroed.readFds fd = false from
            Bitmap.isSet_zeros _ _]
          exact Bool.false_ne_true)
      rw [counts_itself_iff plane real reply (select nfds sets out) itself,
        if_pos rfl]
      show
        ((plane.selectSets nfds sets out real reply).total = 0 ∧ _) ↔ _
      unfold FlagsReadable
      rw [asReadable, selectSets_itself plane real reply itself,
        Plane.readable_flagProxies_iff, and_iff_left silent, ← empty,
        Plane.total_flagProxies_iff]
  | false =>
      rw [counts_forwarded_iff plane real reply consistent itself,
        if_neg Bool.false_ne_true]
      apply imp_congr_right
      intro ok
      show
        ((plane.selectSets nfds sets out real reply).total = reply.total ∧
          _) ↔ _
      unfold FlagsReadable
      rw [asReadable, selectSets_forwarded plane real reply itself ok,
        Plane.readable_flagProxies_iff, Plane.total_flagProxies_iff]

theorem pollArray_itself {fdsIn fdsOut : List UInt8} {nfds : Int}
    (itself : (plane.pollScan fdsIn fdsOut nfds).answersItself = true) :
    plane.pollArray fdsIn fdsOut nfds real =
      (Plane.pollEntries fdsIn fdsOut nfds).map fun entry =>
        if plane.service.registered entry.fd then
          entry.polled plane.hasPendingData
        else entry.cleared := by
  unfold Plane.pollArray
  exact if_pos itself

theorem pollArray_forwarded {fdsIn fdsOut : List UInt8} {nfds : Int}
    (forwarded : (plane.pollScan fdsIn fdsOut nfds).answersItself = false)
    (ok : real.ok = true) :
    plane.pollArray fdsIn fdsOut nfds real =
      if (plane.pollScan fdsIn fdsOut nfds).hasProxySockets then
        (Plane.replyEntries fdsOut nfds real).map fun entry =>
          if plane.service.registered entry.fd then
            entry.polled real.pending
          else entry
      else Plane.replyEntries fdsOut nfds real := by
  unfold Plane.pollArray
  dsimp only
  rw [forwarded, ok, if_neg Bool.false_ne_true, Bool.and_true]

/-- A `Poll` that the proxy answers counts none of what it flags. -/
theorem poll_counts_itself_iff {fdsIn fdsOut : List UInt8} {nfds : Int}
    (itself : (plane.pollScan fdsIn fdsOut nfds).answersItself = true) :
    (poll fdsIn fdsOut nfds).Counts plane real reply ↔
      ∀ entry ∈ Plane.pollEntries fdsIn fdsOut nfds,
        plane.service.registered entry.fd = true →
          entry.due plane.hasPendingData = false := by
  have final := pollArray_itself plane real itself
  rw [counts_itself_iff plane real reply (poll fdsIn fdsOut nfds) itself]
  show
    (List.countP PollEntry.flagged
      (plane.pollArray fdsIn fdsOut nfds real) = 0 ∧ _) ↔ _
  unfold FlagsReadable
  rw [final, PollEntry.countP_flagged_looked, List.countP_eq_zero,
    and_iff_left]
  · apply forall₂_congr
    intro entry _
    rw [Bool.and_eq_true, not_and, Bool.not_eq_true]
  · rintro _ registered ⟨entry, member, rfl, readable⟩
    rw [final] at member
    have keeps (entry : PollEntry) : entry.cleared.fd = entry.fd := rfl
    exact PollEntry.pending_of_readable keeps member registered readable

/-- A `Poll` that is forwarded counts what the reply had flagged. -/
theorem poll_counts_forwarded_iff {fdsIn fdsOut : List UInt8} {nfds : Int}
    (consistent : (poll fdsIn fdsOut nfds).Consistent real reply)
    (forwarded :
      (plane.pollScan fdsIn fdsOut nfds).answersItself = false) :
    (poll fdsIn fdsOut nfds).Counts plane real reply ↔
      (real.ok = true →
        if (plane.pollScan fdsIn fdsOut nfds).hasProxySockets then
          ((Plane.replyEntries fdsOut nfds real).countP fun entry =>
              plane.service.registered entry.fd && entry.flagged) =
            (Plane.replyEntries fdsOut nfds real).countP fun entry =>
              plane.service.registered entry.fd && entry.due real.pending
        else
          ∀ entry ∈ Plane.replyEntries fdsOut nfds real,
            plane.service.registered entry.fd = true →
              entry.readable = true → real.pending entry.fd = true) := by
  rw [counts_forwarded_iff plane real reply consistent forwarded]
  apply imp_congr_right
  intro ok
  show
    (List.countP PollEntry.flagged
        (plane.pollArray fdsIn fdsOut nfds real) =
      List.countP PollEntry.flagged
        (Plane.replyEntries fdsOut nfds real) ∧ _) ↔ _
  unfold FlagsReadable
  dsimp only
  rw [pollArray_forwarded plane real forwarded ok]
  cases (plane.pollScan fdsIn fdsOut nfds).hasProxySockets with
  | true =>
      have merged :=
        PollEntry.countP_flagged_merged
          (fun fd => plane.service.registered fd) real.pending
          (Plane.replyEntries fdsOut nfds real)
      rw [if_pos rfl, if_pos rfl, and_iff_left]
      · omega
      · rintro _ registered ⟨entry, member, rfl, readable⟩
        exact
          PollEntry.pending_of_readable (fun _ => rfl) member registered
            readable
  | false =>
      rw [if_neg Bool.false_ne_true, if_neg Bool.false_ne_true,
        and_iff_right rfl]
      constructor
      · intro all entry member registered readable
        exact all entry.fd registered ⟨entry, member, rfl, readable⟩
      · rintro all _ registered ⟨entry, member, rfl, readable⟩
        exact all entry member registered readable

/-- A `Poll` counts what it flags when there is nothing to add. -/
theorem poll_counts_iff {fdsIn fdsOut : List UInt8} {nfds : Int}
    (consistent : (poll fdsIn fdsOut nfds).Consistent real reply) :
    (poll fdsIn fdsOut nfds).Counts plane real reply ↔
      plane.PollAddsNothing real fdsIn fdsOut nfds := by
  unfold Plane.PollAddsNothing
  cases itself : (plane.pollScan fdsIn fdsOut nfds).answersItself with
  | true =>
      rw [if_pos rfl]
      exact poll_counts_itself_iff plane real reply itself
  | false =>
      rw [if_neg Bool.false_ne_true]
      exact poll_counts_forwarded_iff plane real reply consistent itself

/--
For every call of `Select` and `Poll`, in every state and for every
consistent reply of the real service: the first word counts what is flagged,
and nobody is flagged as readable without data, exactly when the proxy
sockets have nothing to add.
-/
theorem counts_iff_nothingToAdd {wait : Wait}
    (consistent : wait.Consistent real reply) :
    wait.Counts plane real reply ↔ wait.NothingToAdd plane real reply := by
  cases wait with
  | select nfds sets out =>
      exact select_counts_iff plane real reply consistent
  | poll fdsIn fdsOut nfds =>
      exact poll_counts_iff plane real reply consistent

/-! ### A proxy socket and a real one -/

/-- No bit is set. -/
def noFds : FdSets :=
  ⟨[], [], []⟩

/-- A game waits for data at a proxy socket and at a real one. -/
def awaitData : Wait :=
  .poll [0, 0, 0, 0, 1, 0, 0, 0, 7, 0, 0, 0, 1, 0, 0, 0]
    (List.replicate 16 0) 2

/-- The real service flags the real one. -/
def dataArrived : RealReply where
  ok := true
  words := ⟨1, 0⟩
  pollFds := [0, 0, 0, 0, 1, 0, 0, 0, 7, 0, 0, 0, 1, 0, 1, 0]
  pending _ := false

/-- The game is told of one flag. -/
theorem awaitData_counts :
    awaitData.Counts (Plane.crowd 1) dataArrived noFds := by
  apply (counts_iff_nothingToAdd (Plane.crowd 1) dataArrived noFds _).mpr
  · show Plane.PollAddsNothing ..
    unfold Plane.PollAddsNothing
    rw [if_neg (by decide)]
    intro _
    rw [if_pos (by decide)]
    decide
  · intro _
    decide

/-- A game asks whether the proxy socket is writable. -/
def askWritable : Wait :=
  .poll [0, 0, 0, 0, 4, 0, 0, 0] (List.replicate 8 0) 1

/-- The real service, which is not asked, would flag nothing. -/
def nothingFlagged : RealReply where
  ok := true
  words := ⟨0, 0⟩
  pollFds := [0, 0, 0, 0, 4, 0, 0, 0]
  pending _ := false

/-- The socket is flagged, and the game is told of no flag. -/
theorem askWritable_miscounts :
    askWritable.Consistent nothingFlagged noFds ∧
      ¬ askWritable.Counts (Plane.crowd 1) nothingFlagged noFds := by
  constructor
  · intro _
    decide
  · intro counts
    have counted := counts.counted (by decide)
    exact absurd counted (by decide)

end Wait

end SlpClient.Bsd
