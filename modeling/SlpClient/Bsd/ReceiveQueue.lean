import SlpClient.Bsd.Datagrams

/-!
# The receive queue of a proxy socket

A proxy socket that is neither shut down nor closed is used by two threads:
the tunnel hands it datagrams, and the game receives, looks at what waits and
asks how much it is.  Every section under `m_queue_mutex` is a step here.  A
receive that finds nothing and may block gives the mutex back and waits for
the event; what it does after the wait is a step of its own.

The specification is a queue of at most 32 datagrams, each cut to 2000 bytes,
that gives up its oldest one for a new one.
-/

namespace SlpClient.Bsd

open SlpClient.Lib

/-! ## Sections of a receive -/

namespace Inbox

/-- `MSG_DONTWAIT`. -/
def isDontwait (flags : UInt32) : Bool :=
  flags &&& 0x80 != 0

/--
The first section of `RecvFrom`, without an answer if it goes on to wait;
`nonBlocking` is `m_non_blocking`.
-/
def recvBegin (inbox : Inbox) (nonBlocking : Bool) (flags : UInt32)
    (capacity : Nat) : Inbox × Option Received :=
  if occupied : 0 < inbox.ring.count then
    ((inbox.consumeFront occupied capacity (isPeek flags)).1,
      some (inbox.consumeFront occupied capacity (isPeek flags)).2)
  else if isDontwait flags || nonBlocking then
    (inbox, some (.failed .again))
  else (inbox, none)

/-- The end of `RecvFrom`, when `TimedWait` has returned. -/
def recvResume (inbox : Inbox) (flags : UInt32) (capacity : Nat) :
    Inbox × Received :=
  if inbox.receiveEvent then inbox.recvFrom flags capacity
  else (inbox, .failed .again)

/-- `GetPendingDataSize`. -/
def getPendingDataSize (inbox : Inbox) : Nat :=
  inbox.ring.fold (fun total packet => total + packet.data.length) 0

end Inbox

/-- Sections of the calls on one proxy socket. -/
inductive InboxCall
  | incomingData (source : SockAddrIn) (data : List UInt8)
  | recvBegin (nonBlocking : Bool) (flags : UInt32) (capacity : Nat)
  | recvResume (flags : UInt32) (capacity : Nat)
  | hasPendingData
  | getPendingDataSize

/-- What a section returns; a receive that has to wait returns nothing. -/
inductive InboxAnswer
  | done
  | waiting
  | received (received : Received)
  | hasPending (pending : Bool)
  | pendingSize (size : Nat)
deriving DecidableEq

/-- The answer of the first section of a receive. -/
def InboxAnswer.ofBegin : Option Received → InboxAnswer
  | none => .waiting
  | some answer => .received answer

namespace Inbox

/-- The receive queue of one proxy socket. -/
def machine : Machine Inbox InboxCall InboxAnswer where
  step inbox call :=
    match call with
    | .incomingData source data => (inbox.incomingData source data, .done)
    | .recvBegin nonBlocking flags capacity =>
        let received := inbox.recvBegin nonBlocking flags capacity
        (received.1, .ofBegin received.2)
    | .recvResume flags capacity =>
        let received := inbox.recvResume flags capacity
        (received.1, .received received.2)
    | .hasPendingData => (inbox, .hasPending inbox.hasPendingData)
    | .getPendingDataSize => (inbox, .pendingSize inbox.getPendingDataSize)

end Inbox

/-! ## The queue it is -/

/-- A source address and a payload. -/
abbrev Datagram := SockAddrIn × List UInt8

namespace ReceiveQueue

/-- A receive takes the oldest datagram, unless it only looks at it. -/
def take (oldest : Datagram) (rest : List Datagram) (flags : UInt32)
    (capacity : Nat) : List Datagram × InboxAnswer :=
  (if Inbox.isPeek flags then oldest :: rest else rest,
    .received (.packet oldest.1 (oldest.2.take capacity)))

/-- A queue of 32 datagrams that drops its oldest one when it is full. -/
def machine : Machine (List Datagram) InboxCall InboxAnswer where
  step queue call :=
    match call, queue with
    | .incomingData source data, queue =>
        (pushBounded 32 queue (source, data.take 2000), .done)
    | .recvBegin nonBlocking flags _, [] =>
        ([],
          if Inbox.isDontwait flags || nonBlocking then
            .received (.failed .again)
          else .waiting)
    | .recvBegin _ flags capacity, oldest :: rest =>
        take oldest rest flags capacity
    | .recvResume _ _, [] => ([], .received (.failed .again))
    | .recvResume flags capacity, oldest :: rest =>
        take oldest rest flags capacity
    | .hasPendingData, queue => (queue, .hasPending (!queue.isEmpty))
    | .getPendingDataSize, queue =>
        (queue,
          .pendingSize (queue.map fun datagram => datagram.2.length).sum)

end ReceiveQueue

/-! ## The ring implements the queue -/

namespace ReceivedPacket

def datagram (packet : ReceivedPacket) : Datagram :=
  (packet.source, packet.data)

end ReceivedPacket

namespace Inbox

/-- The datagrams of the ring, the oldest one first. -/
def queue (inbox : Inbox) : List Datagram :=
  inbox.ring.toList.map ReceivedPacket.datagram

/-- The ring holds the queue, and the event says whether it is empty. -/
structure Implements (inbox : Inbox) (queue : List Datagram) : Prop where
  contents : inbox.queue = queue
  event : inbox.receiveEvent = true ↔ queue ≠ []

theorem empty_implements : empty.Implements [] where
  contents := rfl
  event := iff_of_false Bool.false_ne_true (not_not.mpr rfl)

variable {inbox : Inbox} {queue : List Datagram}

theorem Implements.length (implements : inbox.Implements queue) :
    queue.length = inbox.ring.count := by
  rw [← implements.contents, Inbox.queue, List.length_map,
    Ring.length_toList]

theorem Implements.incomingData (implements : inbox.Implements queue)
    (source : SockAddrIn) (data : List UInt8) :
    (inbox.incomingData source data).Implements
      (pushBounded 32 queue (source, data.take 2000)) where
  contents := by
    show
      (inbox.ring.push (.clamped source data)).toList.map
          ReceivedPacket.datagram =
        pushBounded 32 queue (source, data.take 2000)
    rw [Ring.toList_push, map_pushBounded]
    exact
      congrArg (pushBounded 32 · (source, data.take 2000))
        implements.contents
  event := by
    refine iff_of_true rfl ?_
    exact List.append_ne_nil_of_right_ne_nil _ (List.cons_ne_nil _ _)

theorem Implements.occupied {oldest : Datagram} {rest : List Datagram}
    (implements : inbox.Implements (oldest :: rest)) :
    0 < inbox.ring.count := by
  rw [← implements.length, List.length_cons]
  exact Nat.succ_pos _

theorem Implements.vacant (implements : inbox.Implements []) :
    ¬ 0 < inbox.ring.count := by
  rw [← implements.length, List.length_nil]
  exact lt_irrefl 0

/-- The ring after its oldest packet was taken or only looked at. -/
theorem Implements.front {oldest : Datagram} {rest : List Datagram}
    (implements : inbox.Implements (oldest :: rest))
    (occupied : 0 < inbox.ring.count) :
    (inbox.ring.slots inbox.ring.head).datagram = oldest ∧
      (inbox.ring.pop occupied).toList.map ReceivedPacket.datagram =
        rest := by
  have contents := implements.contents
  rw [Inbox.queue, inbox.ring.toList_eq_cons occupied, List.map_cons,
    List.cons.injEq] at contents
  exact contents

/-- Taking the oldest datagram out of the ring. -/
theorem Implements.consumeFront {oldest : Datagram}
    {rest : List Datagram} (implements : inbox.Implements (oldest :: rest))
    (occupied : 0 < inbox.ring.count) (flags : UInt32) (capacity : Nat) :
    (inbox.consumeFront occupied capacity (isPeek flags)).1.Implements
        (ReceiveQueue.take oldest rest flags capacity).1 ∧
      InboxAnswer.received
          (inbox.consumeFront occupied capacity (isPeek flags)).2 =
        (ReceiveQueue.take oldest rest flags capacity).2 := by
  rcases implements.front occupied with ⟨front, behind⟩
  have signalled : inbox.receiveEvent = true :=
    implements.event.mpr (List.cons_ne_nil _ _)
  constructor
  · unfold Inbox.consumeFront ReceiveQueue.take
    cases isPeek flags with
    | true =>
        constructor
        · exact implements.contents
        · show
            (if inbox.ring.count = 0 then false
              else inbox.receiveEvent) = true ↔ oldest :: rest ≠ []
          rw [if_neg occupied.ne']
          exact implements.event
    | false =>
        constructor
        · exact behind
        · show
            (if (inbox.ring.pop occupied).count = 0 then false
              else inbox.receiveEvent) = true ↔ rest ≠ []
          have length := congrArg List.length behind
          rw [List.length_map, Ring.length_toList] at length
          rw [length, signalled]
          cases rest with
          | nil => exact iff_of_false Bool.false_ne_true (not_not.mpr rfl)
          | cons next others => exact iff_of_true rfl (List.cons_ne_nil _ _)
  · rw [← front]
    rfl

/-! ## Runs -/

theorem Implements.recvResume (implements : inbox.Implements queue)
    (flags : UInt32) (capacity : Nat) :
    (machine.next inbox (.recvResume flags capacity)).Implements
        (ReceiveQueue.machine.next queue (.recvResume flags capacity)) ∧
      machine.output inbox (.recvResume flags capacity) =
        ReceiveQueue.machine.output queue (.recvResume flags capacity) := by
  change
    (inbox.recvResume flags capacity).1.Implements _ ∧
      InboxAnswer.received (inbox.recvResume flags capacity).2 = _
  unfold Inbox.recvResume
  cases queue with
  | nil =>
      have silent : ¬ inbox.receiveEvent = true :=
        fun signalled => implements.event.mp signalled rfl
      rw [if_neg silent]
      exact ⟨implements, rfl⟩
  | cons oldest rest =>
      have signalled := implements.event.mpr (List.cons_ne_nil _ _)
      rw [if_pos signalled, Inbox.recvFrom, dif_pos implements.occupied]
      exact implements.consumeFront implements.occupied flags capacity

theorem Implements.recvBegin (implements : inbox.Implements queue)
    (nonBlocking : Bool) (flags : UInt32) (capacity : Nat) :
    (machine.next inbox
        (.recvBegin nonBlocking flags capacity)).Implements
        (ReceiveQueue.machine.next queue
          (.recvBegin nonBlocking flags capacity)) ∧
      machine.output inbox (.recvBegin nonBlocking flags capacity) =
        ReceiveQueue.machine.output queue
          (.recvBegin nonBlocking flags capacity) := by
  change
    (inbox.recvBegin nonBlocking flags capacity).1.Implements _ ∧
      InboxAnswer.ofBegin
        (inbox.recvBegin nonBlocking flags capacity).2 = _
  unfold Inbox.recvBegin
  cases queue with
  | nil =>
      rw [dif_neg implements.vacant]
      refine ⟨?_, ?_⟩
      · split
        · exact implements
        · exact implements
      · show
          _ =
            if isDontwait flags || nonBlocking then
              InboxAnswer.received (.failed .again)
            else .waiting
        split <;> rfl
  | cons oldest rest =>
      rw [dif_pos implements.occupied]
      exact implements.consumeFront implements.occupied flags capacity

/-- The loop adds up the lengths of the queued datagrams. -/
theorem Implements.getPendingDataSize (implements : inbox.Implements queue) :
    inbox.getPendingDataSize =
      (queue.map fun datagram => datagram.2.length).sum := by
  rw [Inbox.getPendingDataSize, Ring.fold_eq, ← implements.contents,
    Inbox.queue, List.map_map, List.sum_eq_foldl, List.foldl_map]
  rfl

theorem Implements.hasPendingData (implements : inbox.Implements queue) :
    inbox.hasPendingData = !queue.isEmpty := by
  unfold Inbox.hasPendingData
  rw [← implements.length]
  cases queue <;> rfl

/-- Every section does to the ring what it does to the queue. -/
theorem Implements.step (implements : inbox.Implements queue)
    (call : InboxCall) :
    (machine.next inbox call).Implements
        (ReceiveQueue.machine.next queue call) ∧
      machine.output inbox call =
        ReceiveQueue.machine.output queue call := by
  cases call with
  | incomingData source data =>
      exact ⟨implements.incomingData source data, rfl⟩
  | recvBegin nonBlocking flags capacity =>
      exact implements.recvBegin nonBlocking flags capacity
  | recvResume flags capacity =>
      exact implements.recvResume flags capacity
  | hasPendingData =>
      exact
        ⟨implements,
          congrArg InboxAnswer.hasPending implements.hasPendingData⟩
  | getPendingDataSize =>
      exact
        ⟨implements,
          congrArg InboxAnswer.pendingSize implements.getPendingDataSize⟩

/-- The indices agree, and the event tells whether a datagram waits. -/
def Consistent (inbox : Inbox) : Prop :=
  inbox.ring.tail.val = (inbox.ring.head.val + inbox.ring.count) % 32 ∧
    inbox.ring.count ≤ 32 ∧
    (inbox.receiveEvent = true ↔ inbox.queue ≠ [])

theorem Implements.consistent (implements : inbox.Implements queue) :
    inbox.Consistent := by
  refine ⟨congrArg Fin.val inbox.ring.tail_eq, inbox.ring.count_le, ?_⟩
  rw [implements.contents]
  exact implements.event

/--
Whatever is called on a proxy socket, in whatever order, the answers are those
of a queue of 32 datagrams that drops its oldest one for a new one.  The ring
holds that queue, its indices agree, and the event is signalled exactly while
a datagram waits, so that a receive that waited returns the oldest one.
-/
theorem ring_refines_queue (calls : List InboxCall) :
    machine.outputs empty calls =
        ReceiveQueue.machine.outputs [] calls ∧
      (machine.run empty calls).queue =
        ReceiveQueue.machine.run [] calls ∧
      machine.EachState Consistent empty calls := by
  have refined :=
    Machine.refinement
      (fun inbox queue call (implements : inbox.Implements queue)
        (_ : True) => implements.step call)
      empty_implements fun call (_ : call ∈ calls) => trivial
  refine ⟨refined.2, refined.1.contents, ?_⟩
  let invariant : Inbox → Prop := fun inbox =>
    ∃ queue, inbox.Implements queue
  have keeps (inbox : Inbox) (call : InboxCall)
      (holds : invariant inbox) (_ : True) :
      invariant (machine.next inbox call) := by
    rcases holds with ⟨queue, implements⟩
    exact ⟨_, (implements.step call).1⟩
  have always : machine.EachState invariant empty calls :=
    Machine.eachState_of_eachStep keeps ⟨[], empty_implements⟩
      (machine.eachStep_of_forall (fun _ _ => trivial) empty calls)
  apply always.mono
  rintro inbox ⟨queue, implements⟩
  exact implements.consistent

/-- A receive that waits gets the first datagram that comes in. -/
example (source : SockAddrIn) :
    machine.outputs empty
        [.recvBegin false 0 4, .incomingData source [1, 2, 3, 4, 5],
          .incomingData source [6], .getPendingDataSize,
          .recvResume 2 4, .recvResume 0 4, .recvBegin true 0 4,
          .recvBegin true 0 4] =
      [.waiting, .done, .done, .pendingSize 6,
        .received (.packet source [1, 2, 3, 4]),
        .received (.packet source [1, 2, 3, 4]),
        .received (.packet source [6]), .received (.failed .again)] := by
  rfl

end Inbox

end SlpClient.Bsd
