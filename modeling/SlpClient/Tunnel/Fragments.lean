import Mathlib.Data.Finset.Basic
import Mathlib.Data.Fintype.Basic
import SlpClient.Lib.Machine
import SlpClient.Tunnel.Packets

/-!
# Reassembly of fragmented packets

`OnFrag` collects the parts of a packet in one of four entries.  An entry is
named by the source and the identification of its packet, expires when it has
not been updated for a while, and gives way to new packets when all four are
taken.
-/

namespace SlpClient.Tunnel

open SlpClient.Lib

def maxFragEntries : Nat := 4

def maxTotalParts : Nat := 4

/-- `FragTimeoutTicks`. -/
def fragTimeoutTicks : Nat := 19200000

/-- Above every tick: `INT64_MAX`. -/
def int64Max : Nat := 2 ^ 63 - 1

/-- `sizeof(FragEntry::data)`. -/
def fragCapacity : Nat := maxTotalParts * slpMtu

/-! ## Parts -/

/-- A part that passed the checks at the head of `OnFrag`. -/
structure FragPart where
  src : UInt32
  id : UInt16
  part : Fin maxTotalParts
  total : Nat
  pmtu : Nat
  bytes : List UInt8
  part_lt : part < total
  total_le : total ≤ maxTotalParts
  pmtu_pos : 0 < pmtu
  pmtu_le : pmtu ≤ slpMtu
  bytes_le : bytes.length ≤ pmtu

/-- The slot of the last part. -/
def FragPart.last (part : FragPart) : Fin maxTotalParts :=
  ⟨part.total - 1, by
    have below := part.part_lt
    have bounded := part.total_le
    omega⟩

/-- The head of `OnFrag`: reading a part off the frame and checking it. -/
def openFrag (payload : List UInt8) : Option FragPart :=
  let part := (payload.getD 10 0).toNat
  let total := (payload.getD 11 0).toNat
  let clen := (rd16be payload 12).toNat
  let pmtu := (rd16be payload 14).toNat
  if payload.length < 16 then none
  else if counted : total = 0 ∨ part ≥ total ∨ total > maxTotalParts then
    none
  else if strided : pmtu = 0 ∨ pmtu > slpMtu then none
  else if sized : clen > pmtu ∨ payload.length < 16 + clen then none
  else
    some
      { src := rd32be payload 0
        id := rd16be payload 8
        part := ⟨part, by omega⟩
        total := total
        pmtu := pmtu
        bytes := (payload.drop 16).take clen
        part_lt := by
          simp only [not_or, not_le] at counted
          exact counted.2.1
        total_le := by omega
        pmtu_pos := by omega
        pmtu_le := by omega
        bytes_le := by
          simp only [List.length_take, List.length_drop]
          omega }

/-- A part framed by `slpFrameIpv4Frag` is opened as that part. -/
theorem openFrag_fragBody
    (part : FragPart) (dst : UInt32) (strided : part.pmtu = slpMtu) :
    openFrag
        (fragBody part.src dst part.id (UInt8.ofNat part.part)
          (UInt8.ofNat part.total) part.bytes) =
      some part := by
  rcases part with
    ⟨src, id, part, total, pmtu, bytes, part_lt, total_le, pmtu_pos,
      pmtu_le, bytes_le⟩
  dsimp only at strided
  subst strided
  have small : total ≤ 4 := total_le
  have short : bytes.length ≤ 1400 := bytes_le
  have partByte : (UInt8.ofNat part).toNat = part := by
    rw [UInt8.toNat_ofNat']
    exact Nat.mod_eq_of_lt (by omega)
  have totalByte : (UInt8.ofNat total).toNat = total := by
    rw [UInt8.toNat_ofNat']
    exact Nat.mod_eq_of_lt (by omega)
  have sizeWord : (UInt16.ofNat bytes.length).toNat = bytes.length := by
    rw [UInt16.toNat_ofNat']
    exact Nat.mod_eq_of_lt (by omega)
  have strideWord : (UInt16.ofNat slpMtu).toNat = slpMtu := rfl
  generalize built :
    fragBody src dst id (UInt8.ofNat part) (UInt8.ofNat total) bytes = body
  have length : body.length = 16 + bytes.length := by
    rw [← built]
    simp [fragBody]
    omega
  have srcField : rd32be body 0 = src := rd32be_of_take (by rw [← built]; rfl)
  have idField : rd16be body 8 = id := rd16be_of_take (by rw [← built]; rfl)
  have partField : (body.getD 10 0).toNat = part := by
    rw [← partByte, ← built]
    rfl
  have totalField : (body.getD 11 0).toNat = total := by
    rw [← totalByte, ← built]
    rfl
  have sizeField : (rd16be body 12).toNat = bytes.length := by
    rw [← sizeWord]
    exact congrArg UInt16.toNat (rd16be_of_take (by rw [← built]; rfl))
  have strideField : (rd16be body 14).toNat = slpMtu := by
    rw [← strideWord]
    exact congrArg UInt16.toNat (rd16be_of_take (by rw [← built]; rfl))
  have bytesField : (body.drop 16).take bytes.length = bytes := by
    rw [← built]
    exact List.take_length
  unfold openFrag
  dsimp only
  rw [if_neg (by omega), dif_neg (by omega), dif_neg (by omega),
    dif_neg (by omega)]
  simp only [srcField, idField, partField, totalField, sizeField,
    strideField, bytesField]

/-! ## Entries -/

/-- `FragEntry`.  The bitmap `seen` is the set of the parts received. -/
structure FragEntry where
  active : Bool
  src : UInt32
  id : UInt16
  seen : Finset (Fin maxTotalParts)
  lens : Fin maxTotalParts → Nat
  pmtu : Nat
  totalParts : Nat
  lastTick : Nat
  data : Fin fragCapacity → UInt8

namespace FragEntry

/-- An entry of the zeroed table. -/
def free : FragEntry where
  active := false
  src := 0
  id := 0
  seen := ∅
  lens := fun _ => 0
  pmtu := 0
  totalParts := 0
  lastTick := 0
  data := fun _ => 0

/-- An entry that `FindFragEntry` has just claimed for a packet. -/
def claimed (src : UInt32) (id : UInt16) (now : Nat) : FragEntry :=
  { free with active := true, src := src, id := id, lastTick := now }

/-- The entry is in use for the packet with this source and id. -/
def holdsKey (entry : FragEntry) (src : UInt32) (id : UInt16) : Bool :=
  entry.active && entry.src == src && entry.id == id

/-- The entry has not been updated for longer than the timeout. -/
def stale (entry : FragEntry) (now : Nat) : Bool :=
  entry.active && fragTimeoutTicks < now - entry.lastTick

/-- The first loop of `FindFragEntry` on one entry. -/
def expire (entry : FragEntry) (now : Nat) : FragEntry :=
  if entry.stale now then { entry with active := false } else entry

/-- The first part fixes the stride and the number of parts. -/
def fixGeometry (entry : FragEntry) (part : FragPart) : FragEntry :=
  if entry.seen = ∅ then
    { entry with pmtu := part.pmtu, totalParts := part.total }
  else entry

/-- Copies a part that was not there into its place. -/
def store (entry : FragEntry) (part : FragPart) (tick : Nat) : FragEntry :=
  { entry with
    data := blit entry.data (part.part * part.pmtu) part.bytes
    lens := Function.update entry.lens part.part part.bytes.length
    seen := insert part.part entry.seen
    lastTick := tick }

/-- The bitmap of a complete packet: `(1u << total) - 1`. -/
def want (total : Nat) : Finset (Fin maxTotalParts) :=
  Finset.univ.filter (fun part => part.val < total)

/-- Retires a complete entry; the buffer is the packet handed up. -/
def complete (entry : FragEntry) (part : FragPart) :
    FragEntry × Option (List UInt8) :=
  let rebuilt := (part.total - 1) * part.pmtu + entry.lens part.last
  ({ entry with active := false },
    if rebuilt ≤ fragCapacity then
      some ((List.ofFn entry.data).take rebuilt)
    else none)

/-- The rest of `OnFrag` once an entry is found. -/
def accept (entry : FragEntry) (part : FragPart) (tick : Nat) :
    FragEntry × Option (List UInt8) :=
  if entry.seen ≠ ∅ ∧
      (entry.pmtu ≠ part.pmtu ∨ entry.totalParts ≠ part.total) then
    (entry, none)
  else
    let fixed := entry.fixGeometry part
    if part.part ∈ fixed.seen then (fixed, none)
    else
      let stored := fixed.store part tick
      if stored.seen = want part.total then stored.complete part
      else (stored, none)

end FragEntry

/-! ## The table -/

/-- `g_frags`. -/
abbrev FragTable := Fin maxFragEntries → FragEntry

namespace FragTable

/-- The table before the first fragment. -/
def empty : FragTable := fun _ => FragEntry.free

/-- The first loop of `FindFragEntry`. -/
def expire (table : FragTable) (now : Nat) : FragTable :=
  fun slot => (table slot).expire now

/-- The second loop of `FindFragEntry`. -/
def matchingSlot (table : FragTable) (src : UInt32) (id : UInt16) :
    Option (Fin maxFragEntries) :=
  (List.finRange maxFragEntries).find?
    (fun slot => (table slot).holdsKey src id)

/--
The third loop of `FindFragEntry` over the remaining slots: any free slot,
else the one with the least tick below `oldest`.
-/
def reuseSlot (table : FragTable) :
    List (Fin maxFragEntries) → Option (Fin maxFragEntries) → Nat →
      Option (Fin maxFragEntries)
  | [], reuse, _ => reuse
  | slot :: rest, reuse, oldest =>
      if !(table slot).active then some slot
      else if (table slot).lastTick < oldest then
        reuseSlot table rest (some slot) (table slot).lastTick
      else reuseSlot table rest reuse oldest

/-- `FindFragEntry`: the table afterwards and the slot found, if any. -/
def findFragEntry
    (table : FragTable) (now : Nat) (src : UInt32) (id : UInt16) :
    FragTable × Option (Fin maxFragEntries) :=
  let live := table.expire now
  match live.matchingSlot src id with
  | some slot => (live, some slot)
  | none =>
      match live.reuseSlot (List.finRange maxFragEntries) none int64Max with
      | none => (live, none)
      | some slot =>
          (Function.update live slot (FragEntry.claimed src id now),
            some slot)

/-- `OnFrag` of a part that passed the checks. -/
def onPart (table : FragTable) (now later : Nat) (part : FragPart) :
    FragTable × Option (List UInt8) :=
  match table.findFragEntry now part.src part.id with
  | (found, none) => (found, none)
  | (found, some slot) =>
      let accepted := (found slot).accept part later
      (Function.update found slot accepted.1, accepted.2)

/--
`OnFrag` with the two ticks it may read; the result is the buffer that it
hands to `ProcessIpv4`.
-/
def onFrag (table : FragTable) (now later : Nat) (payload : List UInt8) :
    FragTable × Option (List UInt8) :=
  match openFrag payload with
  | none => (table, none)
  | some part => table.onPart now later part

/-- `OnFrame`. -/
def onFrame (table : FragTable) (now later : Nat) (type : UInt8)
    (payload : List UInt8) : FragTable × Option Upcall :=
  if type = slpTypeIpv4 then (table, processIpv4 payload)
  else if type = slpTypeIpv4Frag then
    let handed := table.onFrag now later payload
    (handed.1, handed.2.bind processIpv4)
  else (table, none)

/-- What `RunLoop` does with a datagram of the relay. -/
def onDatagram (table : FragTable) (now later : Nat) :
    List UInt8 → FragTable × Option Upcall
  | [] => (table, none)
  | first :: payload =>
      let type := first &&& 0x7F
      if type = slpTypePing then (table, none)
      else if type = slpTypeAuthMe then (table, none)
      else if payload = [] then (table, none)
      else table.onFrame now later type payload

/-! ### What `FindFragEntry` finds -/

/-- A free slot is taken before any entry gives way. -/
theorem reuseSlot_free
    {table : FragTable} {slots : List (Fin maxFragEntries)}
    (reuse : Option (Fin maxFragEntries)) (oldest : Nat)
    (room : ∃ slot ∈ slots, (table slot).active = false) :
    ∃ slot,
      table.reuseSlot slots reuse oldest = some slot ∧
        (table slot).active = false := by
  induction slots generalizing reuse oldest with
  | nil =>
      rcases room with ⟨slot, member, free⟩
      simp at member
  | cons slot rest induction =>
      by_cases free : (table slot).active = false
      · refine ⟨slot, ?_, free⟩
        simp [reuseSlot, free]
      · have taken : (table slot).active = true := by
          simpa using free
        have roomLater : ∃ other ∈ rest, (table other).active = false := by
          rcases room with ⟨other, member, otherFree⟩
          rcases List.mem_cons.mp member with rfl | later
          · exact absurd otherFree free
          · exact ⟨other, later, otherFree⟩
        simp only [reuseSlot, taken, Bool.not_true, Bool.false_eq_true,
          if_false]
        split
        · exact induction _ _ roomLater
        · exact induction _ _ roomLater

/-- Some slot is found when one is free or older than the sentinel. -/
theorem reuseSlot_isSome
    {table : FragTable} {slots : List (Fin maxFragEntries)}
    {reuse : Option (Fin maxFragEntries)} {oldest : Nat}
    (room :
      reuse.isSome ∨
        ∃ slot ∈ slots,
          (table slot).active = false ∨ (table slot).lastTick < oldest) :
    (table.reuseSlot slots reuse oldest).isSome := by
  induction slots generalizing reuse oldest with
  | nil =>
      rcases room with found | ⟨slot, member, _⟩
      · exact found
      · simp at member
  | cons slot rest induction =>
      unfold reuseSlot
      split
      · rfl
      · rename_i active
        split
        · exact induction (Or.inl rfl)
        · rename_i recent
          apply induction
          rcases room with found | ⟨other, member, candidate⟩
          · exact Or.inl found
          · rcases List.mem_cons.mp member with rfl | later
            · simp_all
            · exact Or.inr ⟨other, later, candidate⟩

/-- The matching slot, if there is one, is in use for the key. -/
theorem matchingSlot_some
    {table : FragTable} {src : UInt32} {id : UInt16}
    {slot : Fin maxFragEntries}
    (found : table.matchingSlot src id = some slot) :
    (table slot).holdsKey src id = true := by
  have holds := List.find?_some found
  exact holds

/-- No slot matches exactly when none is in use for the key. -/
theorem matchingSlot_none
    {table : FragTable} {src : UInt32} {id : UInt16} :
    table.matchingSlot src id = none ↔
      ∀ slot, (table slot).holdsKey src id = false := by
  simp [matchingSlot]

/-- `OnFrag` of a part whose packet has a live entry. -/
theorem onPart_matching
    {table : FragTable} {now later : Nat} {part : FragPart}
    {slot : Fin maxFragEntries}
    (found :
      (table.expire now).matchingSlot part.src part.id = some slot) :
    table.onPart now later part =
      (Function.update (table.expire now) slot
          ((table.expire now slot).accept part later).1,
        ((table.expire now slot).accept part later).2) := by
  simp [onPart, findFragEntry, found]

/-- `OnFrag` of a part that claims a slot for its packet. -/
theorem onPart_claiming
    {table : FragTable} {now later : Nat} {part : FragPart}
    {slot : Fin maxFragEntries}
    (absent : (table.expire now).matchingSlot part.src part.id = none)
    (reused :
      (table.expire now).reuseSlot (List.finRange maxFragEntries) none
        int64Max = some slot) :
    table.onPart now later part =
      (Function.update (table.expire now) slot
          ((FragEntry.claimed part.src part.id now).accept part later).1,
        ((FragEntry.claimed part.src part.id now).accept part later).2) := by
  simp [onPart, findFragEntry, absent, reused]

/-- `OnFrag` of a part for which no slot is found. -/
theorem onPart_dropped
    {table : FragTable} {now later : Nat} {part : FragPart}
    (absent : (table.expire now).matchingSlot part.src part.id = none)
    (full :
      (table.expire now).reuseSlot (List.finRange maxFragEntries) none
        int64Max = none) :
    table.onPart now later part = (table.expire now, none) := by
  simp [onPart, findFragEntry, absent, full]

end FragTable

/-! ## Runs -/

/-- Bytes from the relay and the two ticks that may be read for them. -/
structure Arrival where
  now : Nat
  later : Nat
  bytes : List UInt8

/-- One `OnFrag` after another; each hands up a buffer or nothing. -/
def fragMachine : Machine FragTable Arrival (Option (List UInt8)) where
  step table arrival :=
    table.onFrag arrival.now arrival.later arrival.bytes

/-- One relay datagram after another; each makes an upcall or none. -/
def relayMachine : Machine FragTable Arrival (Option Upcall) where
  step table arrival :=
    table.onDatagram arrival.now arrival.later arrival.bytes

end SlpClient.Tunnel
