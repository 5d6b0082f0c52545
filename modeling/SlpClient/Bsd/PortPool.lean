import Mathlib.Data.Fintype.Basic
import SlpClient.Bsd.Types

/-!
# Ephemeral ports

`EphemeralPortPool` marks the ports 49152 to 65535 that are taken, once for
TCP and once for every other protocol.  What a caller needs to know of an
allocation is said by `Marks`: one port was free and is now taken, and
nothing else changed.
-/

namespace SlpClient.Bsd

/-- `EPHEMERAL_PORT_MIN`. -/
def ephemeralPortMin : Nat := 49152

/-- `EPHEMERAL_PORT_COUNT`. -/
def ephemeralPortCount : Nat := 16384

/-- `EphemeralPortPool`. -/
structure EphemeralPortPool where
  udpPorts : Fin ephemeralPortCount → Bool
  tcpPorts : Fin ephemeralPortCount → Bool
  udpHint : Nat
  tcpHint : Nat

/-- Ports that the pool keeps track of. -/
def isEphemeral (port : UInt16) : Prop :=
  ephemeralPortMin ≤ port.toNat

instance (port : UInt16) : Decidable (isEphemeral port) :=
  inferInstanceAs (Decidable (ephemeralPortMin ≤ port.toNat))

/-- `PortToIndex`; ports below the range have no index. -/
def portToIndex (port : UInt16) : Option (Fin ephemeralPortCount) :=
  if tracked : isEphemeral port then
    some
      ⟨port.toNat - ephemeralPortMin, by
        have bound : port.toNat < 65536 := port.toNat_lt
        have lower : 49152 ≤ port.toNat := tracked
        change port.toNat - 49152 < 16384
        omega⟩
  else none

/-- `IndexToPort`. -/
def indexToPort (index : Fin ephemeralPortCount) : UInt16 :=
  UInt16.ofNat (ephemeralPortMin + index)

theorem indexToPort_toNat (index : Fin ephemeralPortCount) :
    (indexToPort index).toNat = ephemeralPortMin + index := by
  have bound : index.val < 16384 := index.isLt
  unfold indexToPort
  rw [UInt16.toNat_ofNat']
  apply Nat.mod_eq_of_lt
  change 49152 + index.val < 65536
  omega

theorem isEphemeral_indexToPort (index : Fin ephemeralPortCount) :
    isEphemeral (indexToPort index) := by
  unfold isEphemeral
  rw [indexToPort_toNat]
  exact Nat.le_add_right ..

/-- Every tracked port is the port of one index. -/
theorem portToIndex_eq_some
    {port : UInt16} {index : Fin ephemeralPortCount} :
    portToIndex port = some index ↔ port = indexToPort index := by
  constructor
  · intro found
    unfold portToIndex at found
    split at found
    · rename_i tracked
      have lower : ephemeralPortMin ≤ port.toNat := tracked
      rw [Option.some.injEq, Fin.ext_iff] at found
      have offset : port.toNat - ephemeralPortMin = index := found
      apply UInt16.toNat_inj.mp
      rw [indexToPort_toNat, ← offset, Nat.add_sub_cancel' lower]
    · contradiction
  · rintro rfl
    have offset :
        (indexToPort index).toNat - ephemeralPortMin = index := by
      rw [indexToPort_toNat, Nat.add_sub_cancel_left]
    unfold portToIndex
    rw [dif_pos (isEphemeral_indexToPort index)]
    exact congrArg some (Fin.ext offset)

theorem portToIndex_eq_none {port : UInt16} :
    portToIndex port = none ↔ ¬isEphemeral port := by
  unfold portToIndex
  split
  · rename_i tracked
    simp [tracked]
  · rename_i untracked
    simp [untracked]

namespace EphemeralPortPool

/-- The pool before the first allocation. -/
def empty : EphemeralPortPool where
  udpPorts := fun _ => false
  tcpPorts := fun _ => false
  udpHint := 0
  tcpHint := 0

/-- `GetBitset`: every protocol but TCP shares the UDP ports. -/
def getBitset (pool : EphemeralPortPool) (protocol : ProtocolType) :
    Fin ephemeralPortCount → Bool :=
  if protocol = .tcp then pool.tcpPorts else pool.udpPorts

/-- Writes one bit of the protocol's bitset. -/
def setBit (pool : EphemeralPortPool) (protocol : ProtocolType)
    (index : Fin ephemeralPortCount) (taken : Bool) : EphemeralPortPool :=
  if protocol = .tcp then
    { pool with tcpPorts := Function.update pool.tcpPorts index taken }
  else
    { pool with udpPorts := Function.update pool.udpPorts index taken }

/-- The protocol's round-robin position. -/
def hint (pool : EphemeralPortPool) (protocol : ProtocolType) : Nat :=
  if protocol = .tcp then pool.tcpHint else pool.udpHint

def setHint (pool : EphemeralPortPool) (protocol : ProtocolType)
    (position : Nat) : EphemeralPortPool :=
  if protocol = .tcp then { pool with tcpHint := position }
  else { pool with udpHint := position }

/-- The index that the search from `start` looks at next. -/
def wrappedIndex (start offset : Nat) : Fin ephemeralPortCount :=
  ⟨(start + offset) % ephemeralPortCount, Nat.mod_lt _ (by decide)⟩

/-- The loop of `AllocatePort` with `left` rounds to go. -/
def findFree (taken : Fin ephemeralPortCount → Bool) (start : Nat) :
    Nat → Nat → Option (Fin ephemeralPortCount)
  | 0, _ => none
  | left + 1, offset =>
      if !taken (wrappedIndex start offset) then
        some (wrappedIndex start offset)
      else findFree taken start left (offset + 1)

/-- `AllocatePort`; no result stands for the port zero. -/
def allocatePort (pool : EphemeralPortPool) (protocol : ProtocolType) :
    Option (EphemeralPortPool × UInt16) :=
  match
    findFree (pool.getBitset protocol) (pool.hint protocol)
      ephemeralPortCount 0 with
  | none => none
  | some index =>
      some
        ((pool.setBit protocol index true).setHint protocol
            ((index + 1) % ephemeralPortCount),
          indexToPort index)

/-- `AllocateSpecificPort`; no result stands for a port in use. -/
def allocateSpecificPort (pool : EphemeralPortPool) (port : UInt16)
    (protocol : ProtocolType) : Option EphemeralPortPool :=
  match portToIndex port with
  | none => some pool
  | some index =>
      if pool.getBitset protocol index then none
      else some (pool.setBit protocol index true)

/-- `ReleasePort`. -/
def releasePort (pool : EphemeralPortPool) (port : UInt16)
    (protocol : ProtocolType) : EphemeralPortPool :=
  match portToIndex port with
  | none => pool
  | some index => pool.setBit protocol index false

/-- `IsPortAllocated`. -/
def isPortAllocated (pool : EphemeralPortPool) (port : UInt16)
    (protocol : ProtocolType) : Bool :=
  match portToIndex port with
  | none => false
  | some index => pool.getBitset protocol index

/-! ## What the operations do -/

/-- Two protocols share a bitset. -/
def samePool (left right : ProtocolType) : Prop :=
  left = .tcp ↔ right = .tcp

instance (left right : ProtocolType) : Decidable (samePool left right) :=
  inferInstanceAs (Decidable (left = .tcp ↔ right = .tcp))

theorem getBitset_setBit
    (pool : EphemeralPortPool) (protocol other : ProtocolType)
    (index : Fin ephemeralPortCount) (taken : Bool) :
    (pool.setBit protocol index taken).getBitset other =
      if samePool protocol other then
        Function.update (pool.getBitset other) index taken
      else pool.getBitset other := by
  unfold setBit getBitset samePool
  by_cases left : protocol = .tcp <;> by_cases right : other = .tcp <;>
    simp [left, right]

theorem getBitset_setHint
    (pool : EphemeralPortPool) (protocol other : ProtocolType)
    (position : Nat) :
    (pool.setHint protocol position).getBitset other =
      pool.getBitset other := by
  unfold setHint
  split <;> rfl

theorem isPortAllocated_indexToPort
    (pool : EphemeralPortPool) (index : Fin ephemeralPortCount)
    (protocol : ProtocolType) :
    pool.isPortAllocated (indexToPort index) protocol =
      pool.getBitset protocol index := by
  unfold isPortAllocated
  rw [portToIndex_eq_some.mpr rfl]

theorem isPortAllocated_untracked
    (pool : EphemeralPortPool) {port : UInt16}
    (untracked : ¬isEphemeral port) (protocol : ProtocolType) :
    pool.isPortAllocated port protocol = false := by
  unfold isPortAllocated
  rw [portToIndex_eq_none.mpr untracked]

theorem isPortAllocated_setBit
    (pool : EphemeralPortPool) (protocol other : ProtocolType)
    (index : Fin ephemeralPortCount) (taken : Bool) (port : UInt16) :
    (pool.setBit protocol index taken).isPortAllocated port other =
      if port = indexToPort index ∧ samePool protocol other then taken
      else pool.isPortAllocated port other := by
  by_cases tracked : isEphemeral port
  · rcases Option.ne_none_iff_exists'.mp
        (mt portToIndex_eq_none.mp (not_not.mpr tracked)) with
      ⟨found, located⟩
    have named := portToIndex_eq_some.mp located
    have same : port = indexToPort index ↔ found = index := by
      rw [← portToIndex_eq_some, located, Option.some.injEq]
    unfold isPortAllocated
    rw [located]
    dsimp only
    rw [getBitset_setBit]
    by_cases shared : samePool protocol other
    · simp only [shared, if_true, and_true, same]
      exact Function.update_apply ..
    · simp [shared]
  · have differs : port ≠ indexToPort index := by
      rintro rfl
      exact tracked (isEphemeral_indexToPort index)
    rw [isPortAllocated_untracked _ tracked,
      isPortAllocated_untracked _ tracked, if_neg (fun both => differs both.1)]

/-- The search ends at a free index. -/
theorem findFree_some
    {taken : Fin ephemeralPortCount → Bool} {start left offset : Nat}
    {index : Fin ephemeralPortCount}
    (found : findFree taken start left offset = some index) :
    taken index = false := by
  induction left generalizing offset with
  | zero => contradiction
  | succ left induction =>
      unfold findFree at found
      split at found
      · rename_i free
        rw [← Option.some.inj found]
        simpa using free
      · exact induction found

/-- A search that fails has seen every index it looked at taken. -/
theorem findFree_none
    {taken : Fin ephemeralPortCount → Bool} {start left offset : Nat}
    (failed : findFree taken start left offset = none)
    {round : Nat} (begun : offset ≤ round) (bounded : round < offset + left) :
    taken (wrappedIndex start round) = true := by
  induction left generalizing offset with
  | zero => omega
  | succ left induction =>
      unfold findFree at failed
      split at failed
      · contradiction
      · rename_i busy
        rcases Nat.eq_or_lt_of_le begun with rfl | later
        · simpa using busy
        · exact induction failed later (by omega)

/-- Every index is looked at within one round of the ports. -/
theorem exists_wrappedIndex
    (start : Nat) (index : Fin ephemeralPortCount) :
    ∃ offset < ephemeralPortCount, wrappedIndex start offset = index := by
  have bound : index.val < 16384 := index.isLt
  have wrapped : start % 16384 < 16384 := Nat.mod_lt _ (by decide)
  by_cases ahead : start % 16384 ≤ index
  · refine ⟨index - start % 16384, ?_, Fin.ext ?_⟩
    · change index.val - start % 16384 < 16384
      omega
    · change (start + (index.val - start % 16384)) % 16384 = index
      omega
  · refine ⟨index + 16384 - start % 16384, ?_, Fin.ext ?_⟩
    · change index.val + 16384 - start % 16384 < 16384
      omega
    · change (start + (index.val + 16384 - start % 16384)) % 16384 = index
      omega

/-- `after` is `before` with one more ephemeral port taken. -/
structure Marks (before : EphemeralPortPool) (port : UInt16)
    (protocol : ProtocolType) (after : EphemeralPortPool) : Prop where
  ephemeral : isEphemeral port
  free : before.isPortAllocated port protocol = false
  marked :
    ∀ other anyProtocol,
      after.isPortAllocated other anyProtocol =
        if other = port ∧ samePool protocol anyProtocol then true
        else before.isPortAllocated other anyProtocol

theorem allocatePort_marks
    {pool after : EphemeralPortPool} {protocol : ProtocolType}
    {port : UInt16}
    (allocated : pool.allocatePort protocol = some (after, port)) :
    Marks pool port protocol after := by
  unfold allocatePort at allocated
  split at allocated
  · contradiction
  · rename_i index found
    cases allocated
    refine ⟨isEphemeral_indexToPort index, ?_, ?_⟩
    · rw [isPortAllocated_indexToPort]
      exact findFree_some found
    · intro other anyProtocol
      have unhinted :
          ∀ marked : EphemeralPortPool,
            (marked.setHint protocol
              ((index + 1) % ephemeralPortCount)).isPortAllocated other
                anyProtocol =
              marked.isPortAllocated other anyProtocol := by
        intro marked
        unfold isPortAllocated
        rw [getBitset_setHint]
      rw [unhinted, isPortAllocated_setBit]

/-- Allocation fails only when every port of the protocol is taken. -/
theorem allocatePort_eq_none
    {pool : EphemeralPortPool} {protocol : ProtocolType} :
    pool.allocatePort protocol = none ↔
      ∀ port, isEphemeral port →
        pool.isPortAllocated port protocol = true := by
  unfold allocatePort
  constructor
  · intro failed port tracked
    split at failed
    · rename_i exhausted
      rcases Option.ne_none_iff_exists'.mp
          (mt portToIndex_eq_none.mp (not_not.mpr tracked)) with
        ⟨index, located⟩
      rcases exists_wrappedIndex (pool.hint protocol) index with
        ⟨offset, bounded, rfl⟩
      rw [portToIndex_eq_some.mp located, isPortAllocated_indexToPort]
      exact findFree_none exhausted (Nat.zero_le _) (by omega)
    · contradiction
  · intro full
    split
    · rfl
    · rename_i index found
      have free := findFree_some found
      have taken := full (indexToPort index) (isEphemeral_indexToPort index)
      rw [isPortAllocated_indexToPort, free] at taken
      contradiction

theorem allocateSpecificPort_cases
    {pool after : EphemeralPortPool} {protocol : ProtocolType}
    {port : UInt16}
    (reserved : pool.allocateSpecificPort port protocol = some after) :
    ¬isEphemeral port ∧ after = pool ∨ Marks pool port protocol after := by
  unfold allocateSpecificPort at reserved
  split at reserved
  · rename_i untracked
    exact
      Or.inl
        ⟨portToIndex_eq_none.mp untracked, (Option.some.inj reserved).symm⟩
  · rename_i index located
    have named := portToIndex_eq_some.mp located
    split at reserved
    · contradiction
    · rename_i free
      cases reserved
      subst named
      refine Or.inr ⟨isEphemeral_indexToPort index, ?_, ?_⟩
      · rw [isPortAllocated_indexToPort]
        simpa using free
      · intro other anyProtocol
        exact isPortAllocated_setBit ..

/-- A specific port is refused exactly when it is taken. -/
theorem allocateSpecificPort_eq_none
    {pool : EphemeralPortPool} {protocol : ProtocolType}
    {port : UInt16} :
    pool.allocateSpecificPort port protocol = none ↔
      pool.isPortAllocated port protocol = true := by
  unfold allocateSpecificPort isPortAllocated
  cases portToIndex port with
  | none => simp
  | some index => simp

/-- Releasing a port clears it and nothing else. -/
theorem isPortAllocated_releasePort
    (pool : EphemeralPortPool) (port other : UInt16)
    (protocol anyProtocol : ProtocolType) :
    (pool.releasePort port protocol).isPortAllocated other anyProtocol =
      if other = port ∧ samePool protocol anyProtocol then false
      else pool.isPortAllocated other anyProtocol := by
  unfold releasePort
  split
  · rename_i untracked
    split
    · rename_i same
      rw [same.1]
      exact
        isPortAllocated_untracked _ (portToIndex_eq_none.mp untracked) _
    · rfl
  · rename_i index located
    rw [isPortAllocated_setBit, portToIndex_eq_some.mp located]

/-! ## The port part of `Bind` -/

/-- Port zero asks for any free port, another port for itself. -/
def claimPort (pool : EphemeralPortPool) (port : UInt16)
    (protocol : ProtocolType) : Option (EphemeralPortPool × UInt16) :=
  if port = 0 then pool.allocatePort protocol
  else
    match pool.allocateSpecificPort port protocol with
    | none => none
    | some after => some (after, port)

/-- There is a port to have. -/
def CanClaim (pool : EphemeralPortPool) (port : UInt16)
    (protocol : ProtocolType) : Prop :=
  if port = 0 then
    ∃ free, isEphemeral free ∧ pool.isPortAllocated free protocol = false
  else pool.isPortAllocated port protocol = false

theorem claimPort_eq_none
    {pool : EphemeralPortPool} {port : UInt16}
    {protocol : ProtocolType} :
    pool.claimPort port protocol = none ↔
      ¬pool.CanClaim port protocol := by
  unfold claimPort CanClaim
  by_cases unnamed : port = 0
  · rw [if_pos unnamed, if_pos unnamed, allocatePort_eq_none]
    simp
  · rw [if_neg unnamed, if_neg unnamed, Bool.not_eq_false,
      ← allocateSpecificPort_eq_none]
    cases pool.allocateSpecificPort port protocol with
    | none => simp
    | some after => simp

/-- The port that is asked for comes from the pool. -/
def fromPool (port : UInt16) : Prop :=
  port = 0 ∨ isEphemeral port

/-- A claimed port is the untracked one asked for, or newly marked. -/
theorem claimPort_cases
    {pool after : EphemeralPortPool} {port claimed : UInt16}
    {protocol : ProtocolType}
    (success : pool.claimPort port protocol = some (after, claimed)) :
    (¬fromPool port ∧ ¬isEphemeral claimed ∧ after = pool) ∨
      fromPool port ∧ Marks pool claimed protocol after := by
  unfold claimPort at success
  split at success
  · rename_i unnamed
    exact Or.inr ⟨Or.inl unnamed, allocatePort_marks success⟩
  · rename_i named
    split at success
    · contradiction
    · rename_i reserved
      cases success
      rcases allocateSpecificPort_cases reserved with
        ⟨untracked, same⟩ | marks
      · exact Or.inl ⟨not_or.mpr ⟨named, untracked⟩, untracked, same⟩
      · exact Or.inr ⟨Or.inr marks.ephemeral, marks⟩

end EphemeralPortPool

end SlpClient.Bsd
