import Mathlib.Data.Finset.Card
import SlpClient.Bsd.PortPool
import SlpClient.Lib.Machine

/-!
# Histories of the port pool

A book keeps, for each of the two pools, the ports that were handed out and
not given back, from the calls and their answers alone.  Whatever is called,
in whatever order, the bits of the pool agree with the book.  A port that was
handed out is the last one that the search comes to, until another port of
the pool has been handed out by a search.
-/

namespace SlpClient.Bsd

open SlpClient.Lib

/-! ## Calls -/

namespace EphemeralPortPool

/-- `GetAvailableCount`. -/
def getAvailableCount (pool : EphemeralPortPool)
    (protocol : ProtocolType) : Nat :=
  ephemeralPortCount -
    (List.finRange ephemeralPortCount).countP (pool.getBitset protocol)

/-- `ReleaseAll`. -/
def releaseAll (pool : EphemeralPortPool) : EphemeralPortPool :=
  { pool with
    udpPorts := fun _ => false
    tcpPorts := fun _ => false
    udpHint := 0
    tcpHint := 0 }

end EphemeralPortPool

/-- Calls that change the pool. -/
inductive PoolCall
  | allocatePort (protocol : ProtocolType)
  | allocateSpecificPort (port : UInt16) (protocol : ProtocolType)
  | releasePort (port : UInt16) (protocol : ProtocolType)
  | releaseAll

/-- What a call returns. -/
inductive PoolAnswer
  | port (port : UInt16)
  | granted (granted : Bool)
  | done
deriving DecidableEq

namespace EphemeralPortPool

/-- The pool under any sequence of calls. -/
def machine : Machine EphemeralPortPool PoolCall PoolAnswer where
  step pool call :=
    match call with
    | .allocatePort protocol =>
        match pool.allocatePort protocol with
        | none => (pool, .port 0)
        | some (after, port) => (after, .port port)
    | .allocateSpecificPort port protocol =>
        match pool.allocateSpecificPort port protocol with
        | none => (pool, .granted false)
        | some after => (after, .granted true)
    | .releasePort port protocol => (pool.releasePort port protocol, .done)
    | .releaseAll => (pool.releaseAll, .done)

end EphemeralPortPool

/-! ## The book -/

/-- The pool of TCP and that of every other protocol. -/
inductive PoolKind
  | tcp
  | udp
deriving DecidableEq

/-- The pool of a protocol. -/
def ProtocolType.poolKind (protocol : ProtocolType) : PoolKind :=
  if protocol = .tcp then .tcp else .udp

theorem samePool_iff_poolKind {left right : ProtocolType} :
    EphemeralPortPool.samePool left right ↔
      left.poolKind = right.poolKind := by
  unfold EphemeralPortPool.samePool ProtocolType.poolKind
  by_cases first : left = .tcp <;> by_cases second : right = .tcp <;>
    simp [first, second]

/-- The ports of each pool that are handed out. -/
abbrev PortBook : Type := PoolKind → Finset UInt16

namespace PortBook

/-- Nothing is handed out. -/
def blank : PortBook :=
  fun _ => ∅

/-- A port is handed out. -/
def enter (book : PortBook) (kind : PoolKind) (port : UInt16) : PortBook :=
  Function.update book kind (insert port (book kind))

/-- The book after a call with its answer; other ports are not kept. -/
def record (book : PortBook) : PoolCall → PoolAnswer → PortBook
  | .allocatePort protocol, .port port =>
      if port = 0 then book else book.enter protocol.poolKind port
  | .allocateSpecificPort port protocol, .granted true =>
      if isEphemeral port then book.enter protocol.poolKind port else book
  | .releasePort port protocol, _ =>
      Function.update book protocol.poolKind
        ((book protocol.poolKind).erase port)
  | .releaseAll, _ => blank
  | _, _ => book

end PortBook

/-- The pool, with its book beside it. -/
structure BookedPool where
  pool : EphemeralPortPool
  book : PortBook

namespace BookedPool

/-- Before the first call. -/
def fresh : BookedPool :=
  ⟨.empty, .blank⟩

/-- The pool under any sequence of calls, with its book. -/
def machine : Machine BookedPool PoolCall PoolAnswer where
  step booked call :=
    (⟨EphemeralPortPool.machine.next booked.pool call,
        booked.book.record call
          (EphemeralPortPool.machine.output booked.pool call)⟩,
      EphemeralPortPool.machine.output booked.pool call)

/-- The bits of the pool are those of the book. -/
def Agrees (booked : BookedPool) : Prop :=
  ∀ protocol port,
    port ∈ booked.book protocol.poolKind ↔
      booked.pool.isPortAllocated port protocol = true

/-- The free ports of each protocol are counted. -/
def CountsFree (booked : BookedPool) : Prop :=
  ∀ protocol,
    booked.pool.getAvailableCount protocol =
      16384 - (booked.book protocol.poolKind).card

/--
An `AllocatePort` returns zero exactly when every port of the pool is handed
out, and a port that was free and is taken now otherwise.
-/
def AllocatesFree (booked : BookedPool) (call : PoolCall) : Prop :=
  ∀ protocol, call = .allocatePort protocol →
    ∃ port, machine.output booked call = .port port ∧
      (port = 0 ↔
        ∀ other, isEphemeral other →
          other ∈ booked.book protocol.poolKind) ∧
      (port ≠ 0 →
        49152 ≤ port.toNat ∧ port.toNat ≤ 65535 ∧
          port ∉ booked.book protocol.poolKind ∧
          booked.pool.isPortAllocated port protocol = false ∧
          port ∈ (machine.next booked call).book protocol.poolKind ∧
          (machine.next booked call).pool.isPortAllocated port protocol =
            true)

end BookedPool

/-- Specific allocations, releases, and searches in the other pool. -/
def PoolCall.LeavesHint (kind : PoolKind) : PoolCall → Prop
  | .allocatePort protocol => protocol.poolKind ≠ kind
  | .allocateSpecificPort _ _ => True
  | .releasePort _ _ => True
  | .releaseAll => False

namespace BookedPool

/--
A port that an `AllocatePort` returned is returned by the next one of the pool
only if no other port is free.
-/
def Rotates (booked : BookedPool) : Prop :=
  ∀ protocol again port between,
    again.poolKind = protocol.poolKind →
    (∀ call ∈ between, PoolCall.LeavesHint protocol.poolKind call) →
    port ≠ 0 →
    machine.output booked (.allocatePort protocol) = .port port →
    machine.output
        (machine.run (machine.next booked (.allocatePort protocol)) between)
        (.allocatePort again) =
      .port port →
    ∀ other, isEphemeral other → other ≠ port →
      other ∈
        (machine.run (machine.next booked (.allocatePort protocol))
          between).book protocol.poolKind

end BookedPool

/-! ## The search -/

theorem indexToPort_injective : Function.Injective indexToPort := by
  intro first second same
  apply Fin.ext
  have numbers := congrArg UInt16.toNat same
  rw [indexToPort_toNat, indexToPort_toNat] at numbers
  exact Nat.add_left_cancel numbers

namespace EphemeralPortPool

/-- The search passes over taken indices only. -/
theorem findFree_passes
    {taken : Fin ephemeralPortCount → Bool} {start left offset : Nat}
    {index : Fin ephemeralPortCount}
    (found : findFree taken start left offset = some index) :
    ∃ round, round < offset + left ∧ wrappedIndex start round = index ∧
      ∀ earlier, offset ≤ earlier → earlier < round →
        taken (wrappedIndex start earlier) = true := by
  induction left generalizing offset with
  | zero => contradiction
  | succ left induction =>
      unfold findFree at found
      split at found
      · refine ⟨offset, by omega, Option.some.inj found, ?_⟩
        intro earlier begun before
        omega
      · rename_i busy
        rcases induction found with ⟨round, bounded, reached, passed⟩
        refine ⟨round, by omega, reached, ?_⟩
        intro earlier begun before
        rcases Nat.eq_or_lt_of_le begun with rfl | later
        · simpa using busy
        · exact passed earlier later before

/-- A search that starts behind an index comes to it last. -/
theorem findFree_behind
    {taken : Fin ephemeralPortCount → Bool}
    {index other : Fin ephemeralPortCount}
    (found :
      findFree taken ((index + 1) % ephemeralPortCount) ephemeralPortCount
        0 = some index)
    (differs : other ≠ index) : taken other = true := by
  rcases findFree_passes found with ⟨round, bounded, reached, passed⟩
  rcases
    exists_wrappedIndex ((index + 1) % ephemeralPortCount) other with
    ⟨offset, near, rfl⟩
  have last :
      ((index.val + 1) % 16384 + round) % 16384 = index.val :=
    congrArg Fin.val reached
  have place : index.val < 16384 := index.isLt
  have range : round < 16384 := by
    simpa [ephemeralPortCount] using bounded
  have inside : offset < 16384 := near
  apply passed offset (Nat.zero_le _)
  by_contra late
  have same : offset = round := by omega
  rw [same] at differs
  exact differs reached

theorem hint_setBit
    (pool : EphemeralPortPool) (protocol other : ProtocolType)
    (index : Fin ephemeralPortCount) (taken : Bool) :
    (pool.setBit protocol index taken).hint other = pool.hint other := by
  unfold setBit hint
  by_cases left : protocol = .tcp <;> simp [left]

theorem hint_setHint
    (pool : EphemeralPortPool) (protocol other : ProtocolType)
    (position : Nat) :
    (pool.setHint protocol position).hint other =
      if samePool protocol other then position else pool.hint other := by
  unfold setHint hint samePool
  by_cases left : protocol = .tcp <;> by_cases right : other = .tcp <;>
    simp [left, right]

/-- What an allocation leaves behind. -/
theorem allocatePort_eq_some
    {pool after : EphemeralPortPool} {protocol : ProtocolType}
    {port : UInt16}
    (allocated : pool.allocatePort protocol = some (after, port)) :
    ∃ index,
      findFree (pool.getBitset protocol) (pool.hint protocol)
          ephemeralPortCount 0 = some index ∧
        port = indexToPort index ∧
        after =
          (pool.setBit protocol index true).setHint protocol
            ((index + 1) % ephemeralPortCount) := by
  unfold allocatePort at allocated
  split at allocated
  · contradiction
  · rename_i index found
    cases allocated
    exact ⟨index, found, rfl, rfl⟩

/-- What the allocation of a port leaves behind. -/
theorem allocateSpecificPort_eq_some
    {pool after : EphemeralPortPool} {protocol : ProtocolType}
    {port : UInt16}
    (reserved : pool.allocateSpecificPort port protocol = some after) :
    portToIndex port = none ∧ after = pool ∨
      ∃ index,
        portToIndex port = some index ∧
          pool.getBitset protocol index = false ∧
          after = pool.setBit protocol index true := by
  unfold allocateSpecificPort at reserved
  split at reserved
  · rename_i untracked
    exact .inl ⟨untracked, (Option.some.inj reserved).symm⟩
  · rename_i index located
    split at reserved
    · contradiction
    · rename_i free
      cases reserved
      exact .inr ⟨index, located, by simpa using free, rfl⟩

/-- Specific allocations and releases leave the hints alone. -/
theorem hint_next
    (pool : EphemeralPortPool) {call : PoolCall} {protocol : ProtocolType}
    (leaves : call.LeavesHint protocol.poolKind) :
    (machine.next pool call).hint protocol = pool.hint protocol := by
  cases call with
  | allocatePort other =>
      have apart : ¬ samePool other protocol :=
        mt samePool_iff_poolKind.mp leaves
      unfold Machine.next machine
      dsimp only
      cases allocated : pool.allocatePort other with
      | none => rfl
      | some pair =>
          rcases allocatePort_eq_some allocated with ⟨index, -, -, later⟩
          show pair.1.hint protocol = _
          rw [later, hint_setHint, if_neg apart, hint_setBit]
  | allocateSpecificPort port other =>
      unfold Machine.next machine
      dsimp only
      cases reserved : pool.allocateSpecificPort port other with
      | none => rfl
      | some after =>
          rcases allocateSpecificPort_eq_some reserved with
            ⟨-, rfl⟩ | ⟨index, -, -, rfl⟩
          · rfl
          · exact hint_setBit ..
  | releasePort port other =>
      show (pool.releasePort port other).hint protocol = _
      unfold releasePort
      split
      · rfl
      · exact hint_setBit ..
  | releaseAll => exact leaves.elim

theorem hint_run
    (pool : EphemeralPortPool) {calls : List PoolCall}
    {protocol : ProtocolType}
    (leave : ∀ call ∈ calls, call.LeavesHint protocol.poolKind) :
    (machine.run pool calls).hint protocol = pool.hint protocol := by
  induction calls generalizing pool with
  | nil => rfl
  | cons call rest induction =>
      rw [Machine.run_cons, induction _ fun later member =>
        leave later (List.mem_cons_of_mem _ member)]
      exact hint_next pool (leave call List.mem_cons_self)

end EphemeralPortPool

/-! ## The book agrees with the bits -/

namespace PortBook

theorem mem_enter
    {book : PortBook} {kind other : PoolKind} {port number : UInt16} :
    number ∈ book.enter kind port other ↔
      number = port ∧ kind = other ∨ number ∈ book other := by
  unfold enter
  by_cases same : other = kind
  · subst same
    simp
  · rw [Function.update_of_ne same]
    simp [Ne.symm same]

end PortBook

namespace EphemeralPortPool

theorem Marks.iff_enter
    {before after : EphemeralPortPool} {port : UInt16}
    {protocol : ProtocolType} (marks : Marks before port protocol after)
    {book : PortBook}
    (agrees :
      ∀ protocol port,
        port ∈ book protocol.poolKind ↔
          before.isPortAllocated port protocol = true)
    (other : ProtocolType) (number : UInt16) :
    number ∈ book.enter protocol.poolKind port other.poolKind ↔
      after.isPortAllocated number other = true := by
  rw [PortBook.mem_enter, marks.marked, agrees, ← samePool_iff_poolKind]
  split
  · rename_i same
    simp [same]
  · rename_i differs
    simp only [differs, false_or]

theorem Marks.port_ne_zero
    {before after : EphemeralPortPool} {port : UInt16}
    {protocol : ProtocolType} (marks : Marks before port protocol after) :
    port ≠ 0 := by
  rintro rfl
  exact absurd marks.ephemeral (by decide)

end EphemeralPortPool

namespace BookedPool

open EphemeralPortPool

/-- A search leaves the book as it is, or enters the port it marks. -/
theorem next_allocatePort_cases (booked : BookedPool)
    (protocol : ProtocolType) :
    (booked.pool.allocatePort protocol = none ∧
        machine.step booked (.allocatePort protocol) =
          (booked, .port 0)) ∨
      ∃ after port,
        booked.pool.allocatePort protocol = some (after, port) ∧
          machine.step booked (.allocatePort protocol) =
            (⟨after, booked.book.enter protocol.poolKind port⟩,
              .port port) := by
  unfold machine Machine.next Machine.output EphemeralPortPool.machine
  dsimp only
  cases allocated : booked.pool.allocatePort protocol with
  | none => exact .inl ⟨rfl, rfl⟩
  | some pair =>
      rcases pair with ⟨after, port⟩
      have named := (allocatePort_marks allocated).port_ne_zero
      refine .inr ⟨after, port, rfl, ?_⟩
      simp [PortBook.record, named]

theorem agrees_fresh : fresh.Agrees := by
  intro protocol port
  have free : EphemeralPortPool.empty.isPortAllocated port protocol =
      false := by
    unfold isPortAllocated getBitset EphemeralPortPool.empty
    cases portToIndex port <;> simp
  unfold fresh
  dsimp only
  rw [free]
  simp [PortBook.blank]

theorem agrees_next (booked : BookedPool) (call : PoolCall)
    (agrees : booked.Agrees) : (machine.next booked call).Agrees := by
  cases call with
  | allocatePort protocol =>
      unfold Machine.next
      rcases next_allocatePort_cases booked protocol with
        ⟨-, stays⟩ | ⟨after, port, allocated, moves⟩
      · rw [stays]
        exact agrees
      · rw [moves]
        exact (allocatePort_marks allocated).iff_enter agrees
  | allocateSpecificPort port protocol =>
      unfold Machine.next machine Machine.next Machine.output
        EphemeralPortPool.machine
      dsimp only
      cases reserved :
          booked.pool.allocateSpecificPort port protocol with
      | none => exact agrees
      | some after =>
          rcases allocateSpecificPort_cases reserved with
            ⟨untracked, rfl⟩ | marks
          · simpa [Agrees, PortBook.record, untracked] using agrees
          · have entered := marks.iff_enter agrees
            simpa [Agrees, PortBook.record, marks.ephemeral] using entered
  | releasePort port protocol =>
      intro other number
      show number ∈ Function.update booked.book _ _ _ ↔
        (booked.pool.releasePort port protocol).isPortAllocated number
          other = true
      rw [isPortAllocated_releasePort]
      by_cases same : other.poolKind = protocol.poolKind
      · have shared : samePool protocol other :=
          samePool_iff_poolKind.mpr same.symm
        rw [same, Function.update_self, Finset.mem_erase, ← same,
          agrees other number]
        by_cases equal : number = port <;> simp [equal, shared]
      · have apart : ¬ samePool protocol other := by
          intro shared
          exact same (samePool_iff_poolKind.mp shared).symm
        rw [Function.update_of_ne same, agrees other number,
          if_neg fun both => apart both.2]
  | releaseAll => exact agrees_fresh

theorem CountsFree.of_agrees {booked : BookedPool}
    (agrees : booked.Agrees) : booked.CountsFree := by
  intro protocol
  have image :
      booked.book protocol.poolKind =
        (Finset.univ.filter fun index =>
          booked.pool.getBitset protocol index = true).image
            indexToPort := by
    ext port
    rw [agrees, Finset.mem_image]
    constructor
    · intro allocated
      unfold isPortAllocated at allocated
      cases located : portToIndex port with
      | none => simp [located] at allocated
      | some index =>
          rw [located] at allocated
          exact ⟨index, by simpa using allocated,
            (portToIndex_eq_some.mp located).symm⟩
    · rintro ⟨index, taken, rfl⟩
      rw [isPortAllocated_indexToPort]
      simpa using taken
  have counted :
      (booked.book protocol.poolKind).card =
        (List.finRange ephemeralPortCount).countP
          (booked.pool.getBitset protocol) := by
    rw [image, Finset.card_image_of_injective _ indexToPort_injective,
      Fin.univ_def, List.countP_eq_length_filter]
    simp [Finset.card]
  unfold getAvailableCount
  rw [counted]
  rfl

end BookedPool

/-! ## Searches -/

namespace EphemeralPortPool

theorem hint_congr (pool : EphemeralPortPool) {left right : ProtocolType}
    (same : left.poolKind = right.poolKind) :
    pool.hint left = pool.hint right :=
  if_congr (samePool_iff_poolKind.mpr same) rfl rfl

end EphemeralPortPool

namespace BookedPool

open EphemeralPortPool

theorem AllocatesFree.of_agrees {booked : BookedPool} (call : PoolCall)
    (agrees : booked.Agrees) : booked.AllocatesFree call := by
  rintro protocol rfl
  have full :
      (∀ other, isEphemeral other →
          other ∈ booked.book protocol.poolKind) ↔
        booked.pool.allocatePort protocol = none := by
    rw [allocatePort_eq_none]
    apply forall₂_congr
    intro port _
    exact agrees protocol port
  rw [full]
  unfold Machine.output Machine.next
  rcases next_allocatePort_cases booked protocol with
    ⟨failed, stays⟩ | ⟨after, port, allocated, moves⟩
  · rw [stays]
    exact ⟨0, rfl, by simp [failed], fun named => absurd rfl named⟩
  · have marks := allocatePort_marks allocated
    have upper : port.toNat < 65536 := port.toNat_lt
    have entered := marks.iff_enter agrees protocol port
    have taken : after.isPortAllocated port protocol = true := by
      rw [marks.marked, if_pos ⟨rfl, Iff.rfl⟩]
    rw [moves]
    refine ⟨port, rfl, by simp [allocated, marks.port_ne_zero], ?_⟩
    intro named
    refine ⟨marks.ephemeral, by omega, ?_, marks.free, ?_, taken⟩
    · rw [agrees, marks.free]
      exact Bool.false_ne_true
    · exact entered.mpr taken

theorem pool_run (booked : BookedPool) (calls : List PoolCall) :
    (machine.run booked calls).pool =
      EphemeralPortPool.machine.run booked.pool calls := by
  have keeps :
      ∀ (booked : BookedPool) (pool : EphemeralPortPool)
        (call : PoolCall), booked.pool = pool →
          (machine.next booked call).pool =
            EphemeralPortPool.machine.next pool call := by
    rintro booked pool call rfl
    rfl
  exact Machine.run_simulation keeps rfl calls

theorem agrees_run {booked : BookedPool} (agrees : booked.Agrees)
    (calls : List PoolCall) : (machine.run booked calls).Agrees :=
  Machine.Reachable.invariant ⟨calls, rfl⟩ agrees agrees_next

/-- A port that a search returned is the last one that the next comes to. -/
theorem Rotates.of_agrees {booked : BookedPool} (agrees : booked.Agrees) :
    booked.Rotates := by
  intro protocol again port between same leave named first second other
    tracked differs
  have known := agrees_run (agrees_next booked (.allocatePort protocol)
    agrees) between
  have place := pool_run (machine.next booked (.allocatePort protocol))
    between
  generalize
    machine.run (machine.next booked (.allocatePort protocol)) between =
      later at *
  rcases next_allocatePort_cases booked protocol with
    ⟨failed, stays⟩ | ⟨after, found, allocated, moves⟩
  · unfold Machine.output at first
    rw [stays, PoolAnswer.port.injEq] at first
    exact absurd first.symm named
  · unfold Machine.output at first
    rw [moves, PoolAnswer.port.injEq] at first
    subst first
    rcases allocatePort_eq_some allocated with ⟨index, -, rfl, rfl⟩
    have position :
        later.pool.hint again = (index + 1) % ephemeralPortCount := by
      rw [hint_congr later.pool same, place, hint_run _ leave]
      unfold Machine.next
      rw [moves]
      show (EphemeralPortPool.setHint _ _ _).hint protocol = _
      rw [hint_setHint]
      exact if_pos Iff.rfl
    rcases next_allocatePort_cases later again with
      ⟨failed, stays⟩ | ⟨next, final, allocated, moves⟩
    · unfold Machine.output at second
      rw [stays, PoolAnswer.port.injEq] at second
      exact absurd second.symm named
    · unfold Machine.output at second
      rw [moves, PoolAnswer.port.injEq] at second
      subst second
      rcases allocatePort_eq_some allocated with ⟨back, search, equal, -⟩
      rw [indexToPort_injective equal.symm, position] at search
      rcases Option.ne_none_iff_exists'.mp
          (mt portToIndex_eq_none.mp (not_not.mpr tracked)) with
        ⟨place, located⟩
      rw [portToIndex_eq_some.mp located] at differs ⊢
      rw [← same, known again, isPortAllocated_indexToPort]
      apply findFree_behind search
      rintro rfl
      exact differs rfl

end BookedPool

/-! ## The two pools -/

/-- The call is made to the pool, or to both. -/
def PoolCall.concerns (kind : PoolKind) : PoolCall → Bool
  | .allocatePort protocol => protocol.poolKind = kind
  | .allocateSpecificPort _ protocol => protocol.poolKind = kind
  | .releasePort _ protocol => protocol.poolKind = kind
  | .releaseAll => true

namespace EphemeralPortPool

/-- The bits and the hint of one of the pools. -/
def half (kind : PoolKind) (pool : EphemeralPortPool) :
    (Fin ephemeralPortCount → Bool) × Nat :=
  match kind with
  | .tcp => (pool.tcpPorts, pool.tcpHint)
  | .udp => (pool.udpPorts, pool.udpHint)

theorem half_poolKind (pool : EphemeralPortPool)
    (protocol : ProtocolType) :
    pool.half protocol.poolKind =
      (pool.getBitset protocol, pool.hint protocol) := by
  unfold half ProtocolType.poolKind getBitset hint
  by_cases stream : protocol = .tcp <;> simp [stream]

theorem half_setBit (pool : EphemeralPortPool) (protocol : ProtocolType)
    (index : Fin ephemeralPortCount) (taken : Bool) (kind : PoolKind) :
    (pool.setBit protocol index taken).half kind =
      if protocol.poolKind = kind then
        (Function.update (pool.half kind).1 index taken,
          (pool.half kind).2)
      else pool.half kind := by
  unfold setBit half ProtocolType.poolKind
  cases kind <;> by_cases stream : protocol = .tcp <;> simp [stream]

theorem half_setHint (pool : EphemeralPortPool) (protocol : ProtocolType)
    (position : Nat) (kind : PoolKind) :
    (pool.setHint protocol position).half kind =
      if protocol.poolKind = kind then ((pool.half kind).1, position)
      else pool.half kind := by
  unfold setHint half ProtocolType.poolKind
  cases kind <;> by_cases stream : protocol = .tcp <;> simp [stream]

end EphemeralPortPool

namespace EphemeralPortPool

/-- A call to the other pool leaves this one alone. -/
theorem half_next_of_apart (kind : PoolKind) (pool : EphemeralPortPool)
    (call : PoolCall) (apart : call.concerns kind = false) :
    (machine.next pool call).half kind = pool.half kind := by
  cases call with
  | allocatePort protocol =>
      have differs : protocol.poolKind ≠ kind :=
        of_decide_eq_false apart
      unfold Machine.next machine
      dsimp only
      cases allocated : pool.allocatePort protocol with
      | none => rfl
      | some pair =>
          rcases allocatePort_eq_some allocated with ⟨index, -, -, later⟩
          show pair.1.half kind = _
          rw [later, half_setHint, if_neg differs, half_setBit,
            if_neg differs]
  | allocateSpecificPort port protocol =>
      have differs : protocol.poolKind ≠ kind :=
        of_decide_eq_false apart
      unfold Machine.next machine
      dsimp only
      cases reserved : pool.allocateSpecificPort port protocol with
      | none => rfl
      | some after =>
          rcases allocateSpecificPort_eq_some reserved with
            ⟨-, rfl⟩ | ⟨index, -, -, rfl⟩
          · rfl
          · show (pool.setBit protocol index true).half kind = _
            rw [half_setBit, if_neg differs]
  | releasePort port protocol =>
      have differs : protocol.poolKind ≠ kind :=
        of_decide_eq_false apart
      show (pool.releasePort port protocol).half kind = _
      unfold releasePort
      split
      · rfl
      · rw [half_setBit, if_neg differs]
  | releaseAll => exact absurd apart (by simp [PoolCall.concerns])

/-- What a call to the pool does is decided by the bits and the hint. -/
theorem half_next_congr (kind : PoolKind)
    (first second : EphemeralPortPool) (call : PoolCall)
    (made : call.concerns kind = true)
    (same : first.half kind = second.half kind) :
    (machine.next first call).half kind =
        (machine.next second call).half kind ∧
      machine.output first call = machine.output second call := by
  cases call with
  | allocatePort protocol =>
      have here : protocol.poolKind = kind := of_decide_eq_true made
      have equal := same
      rw [← here, half_poolKind, half_poolKind, Prod.mk.injEq] at equal
      unfold Machine.next Machine.output machine allocatePort
      dsimp only
      rw [equal.1, equal.2]
      cases
        findFree (second.getBitset protocol) (second.hint protocol)
          ephemeralPortCount 0 with
      | none => exact ⟨same, rfl⟩
      | some index =>
          refine ⟨?_, rfl⟩
          dsimp only
          rw [half_setHint, half_setHint, half_setBit, half_setBit, same]
  | allocateSpecificPort port protocol =>
      have here : protocol.poolKind = kind := of_decide_eq_true made
      have equal := same
      rw [← here, half_poolKind, half_poolKind, Prod.mk.injEq] at equal
      unfold Machine.next Machine.output machine allocateSpecificPort
      dsimp only
      rw [equal.1]
      cases portToIndex port with
      | none => exact ⟨same, rfl⟩
      | some index =>
          dsimp only
          cases second.getBitset protocol index with
          | true => exact ⟨same, rfl⟩
          | false =>
              refine ⟨?_, rfl⟩
              show (first.setBit protocol index true).half kind =
                (second.setBit protocol index true).half kind
              rw [half_setBit, half_setBit, same]
  | releasePort port protocol =>
      refine ⟨?_, rfl⟩
      show (first.releasePort port protocol).half kind =
        (second.releasePort port protocol).half kind
      unfold releasePort
      split
      · exact same
      · rw [half_setBit, half_setBit, same]
  | releaseAll => exact ⟨rfl, rfl⟩

end EphemeralPortPool

/--
The port pool under any calls: the book is what is marked, free ports are
counted, searches take a free port while there is one, a port that was just
returned is the last to be returned again, and one pool is as if the other
had not been called.
-/
theorem portPool_serves (calls : List PoolCall) :
    BookedPool.machine.EachState
        (fun booked =>
          booked.Agrees ∧ booked.CountsFree ∧ booked.Rotates)
        BookedPool.fresh calls ∧
      BookedPool.machine.EachStep BookedPool.AllocatesFree
        BookedPool.fresh calls ∧
      ∀ kind,
        (EphemeralPortPool.machine.run .empty calls).half kind =
            (EphemeralPortPool.machine.run .empty
              (calls.filter (PoolCall.concerns kind))).half kind ∧
          (EphemeralPortPool.machine.observed (PoolCall.concerns kind)
              .empty calls).map Prod.snd =
            EphemeralPortPool.machine.outputs .empty
              (calls.filter (PoolCall.concerns kind)) := by
  have unconditional :
      BookedPool.machine.EachStep (fun _ _ => True) BookedPool.fresh
        calls :=
    Machine.eachStep_of_forall (fun _ _ => trivial) _ _
  have keeps :
      ∀ booked call, booked.Agrees → True →
        (BookedPool.machine.next booked call).Agrees := by
    intro booked call agrees _
    exact BookedPool.agrees_next booked call agrees
  refine ⟨?_, ?_, ?_⟩
  · have always :=
      Machine.eachState_of_eachStep keeps BookedPool.agrees_fresh
        unconditional
    apply always.mono
    intro booked agrees
    exact ⟨agrees, .of_agrees agrees, .of_agrees agrees⟩
  · apply
      Machine.eachStep_of_invariant keeps ?_ BookedPool.agrees_fresh
        unconditional
    intro booked call agrees _
    exact .of_agrees call agrees
  · intro kind
    exact
      Machine.separation
        (EphemeralPortPool.half_next_of_apart kind)
        (EphemeralPortPool.half_next_congr kind) calls rfl

end SlpClient.Bsd
