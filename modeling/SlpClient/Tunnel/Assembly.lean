import SlpClient.Tunnel.Fragments

/-!
# Assembly of one datagram

A datagram is cut by `slpClientSendIpv4` and collected by `OnFrag`.  An entry
`Carries` a datagram when everything it has stored is a piece of it.  The
table `Tracks` a datagram when exactly one live entry is in use for it; the
lemmas below say what each kind of arriving part does to such a table.
-/

namespace SlpClient.Tunnel

open SlpClient.Lib

/-- An IPv4 datagram that is sent in parts and fits an entry of the table. -/
@[ext]
structure Datagram where
  bytes : List UInt8
  long : slpMtu < bytes.length
  fits : bytes.length ≤ fragCapacity

namespace Datagram

def src (datagram : Datagram) : UInt32 :=
  slpIpv4Src datagram.bytes

def id (datagram : Datagram) : UInt16 :=
  rd16be datagram.bytes 4

/-- The reassembly key: source address and IP identification. -/
def key (datagram : Datagram) : UInt32 × UInt16 :=
  (datagram.src, datagram.id)

/-- The number of parts. -/
def parts (datagram : Datagram) : Nat :=
  chunkCount slpMtu datagram.bytes

/-- The payloads that `slpClientSendIpv4` cuts the datagram into. -/
def fragments (datagram : Datagram) : List (List UInt8) :=
  (slpClientSendIpv4 (fun _ => true) datagram.bytes).datagrams.map
    List.tail

theorem one_lt_parts (datagram : Datagram) : 1 < datagram.parts :=
  one_lt_chunkCount (by decide) datagram.long

theorem parts_le (datagram : Datagram) :
    datagram.parts ≤ maxTotalParts := by
  have fits : datagram.bytes.length ≤ 5600 := datagram.fits
  have bound : (datagram.bytes.length + 1400 - 1) / 1400 ≤ 4 := by
    omega
  exact bound

/-- A part of the datagram as `OnFrag` opens it. -/
def fragPart (datagram : Datagram) (part : Fin maxTotalParts)
    (inside : part < datagram.parts) : FragPart where
  src := datagram.src
  id := datagram.id
  part := part
  total := datagram.parts
  pmtu := slpMtu
  bytes := chunk slpMtu datagram.bytes part
  part_lt := inside
  total_le := datagram.parts_le
  pmtu_pos := by decide
  pmtu_le := le_rfl
  bytes_le := chunk_length_le ..

theorem fragments_eq (datagram : Datagram) :
    datagram.fragments =
      (List.range datagram.parts).map (partBody datagram.bytes) := by
  have counted : chunkCount slpMtu datagram.bytes ≤ 255 :=
    datagram.parts_le.trans (by decide)
  have sent :=
    remainingParts_datagrams
      (remainingParts_ok (fun _ => rfl) datagram.bytes 0)
  unfold fragments
  rw [slpClientSendIpv4_parts _ datagram.long counted, sent, List.map_map,
    Nat.sub_zero, ← List.range_eq_range']
  rfl

/-- The fragments are the bodies of the parts. -/
theorem mem_fragments {datagram : Datagram} {payload : List UInt8} :
    payload ∈ datagram.fragments ↔
      ∃ part : Fin maxTotalParts,
        part < datagram.parts ∧ partBody datagram.bytes part = payload := by
  rw [fragments_eq, List.mem_map]
  constructor
  · rintro ⟨part, member, equal⟩
    have inside := List.mem_range.mp member
    exact ⟨⟨part, inside.trans_le datagram.parts_le⟩, inside, equal⟩
  · rintro ⟨part, inside, equal⟩
    exact ⟨part, List.mem_range.mpr inside, equal⟩

/-- `OnFrag` opens the body of a part as that part. -/
theorem openFrag_partBody
    (datagram : Datagram) (part : Fin maxTotalParts)
    (inside : part < datagram.parts) :
    openFrag (partBody datagram.bytes part) =
      some (datagram.fragPart part inside) :=
  openFrag_fragBody (datagram.fragPart part inside)
    (slpIpv4Dst datagram.bytes) rfl

/-- Different parts have different bodies. -/
theorem partBody_injective
    {datagram : Datagram} {left right : Fin maxTotalParts}
    (leftInside : left < datagram.parts)
    (rightInside : right < datagram.parts)
    (equal :
      partBody datagram.bytes left = partBody datagram.bytes right) :
    left = right := by
  have opened := datagram.openFrag_partBody left leftInside
  rw [equal, datagram.openFrag_partBody right rightInside] at opened
  exact (congrArg FragPart.part (Option.some.inj opened)).symm

theorem fragments_nodup (datagram : Datagram) :
    datagram.fragments.Nodup := by
  rw [fragments_eq]
  apply List.Nodup.map_on _ List.nodup_range
  intro left leftMember right rightMember equal
  have leftInside := List.mem_range.mp leftMember
  have rightInside := List.mem_range.mp rightMember
  have parted :
      (⟨left, leftInside.trans_le datagram.parts_le⟩ :
          Fin maxTotalParts) =
        ⟨right, rightInside.trans_le datagram.parts_le⟩ :=
    partBody_injective leftInside rightInside equal
  exact congrArg Fin.val parted

end Datagram

/-! ## Entries that carry a datagram -/

open FragEntry in
/-- Everything the entry has stored is a piece of the datagram. -/
structure Carries (entry : FragEntry) (datagram : Datagram) : Prop where
  src : entry.src = datagram.src
  id : entry.id = datagram.id
  pmtu : entry.seen ≠ ∅ → entry.pmtu = slpMtu
  totalParts : entry.seen ≠ ∅ → entry.totalParts = datagram.parts
  seen : entry.seen ⊆ want datagram.parts
  lens :
    ∀ part ∈ entry.seen,
      entry.lens part = (chunk slpMtu datagram.bytes part).length
  data :
    ∀ part ∈ entry.seen,
      CarriesChunk entry.data slpMtu datagram.bytes part

namespace Carries

open FragEntry

variable
    {entry : FragEntry}
    {datagram : Datagram}
    {part : Fin maxTotalParts}
    {inside : part < datagram.parts}
    {tick : Nat}

/-- A freshly claimed entry has stored nothing. -/
theorem claimed (datagram : Datagram) (now : Nat) :
    Carries (FragEntry.claimed datagram.src datagram.id now) datagram where
  src := rfl
  id := rfl
  pmtu started := absurd rfl started
  totalParts started := absurd rfl started
  seen := Finset.empty_subset _
  lens _ member := absurd member (Finset.notMem_empty _)
  data _ member := absurd member (Finset.notMem_empty _)

/-- An entry that carries the datagram is in use for its key when active. -/
theorem holdsKey_eq_active (carried : Carries entry datagram) :
    entry.holdsKey datagram.src datagram.id = entry.active := by
  simp [holdsKey, carried.src, carried.id]

/-- The geometry of the parts of one datagram never disagrees. -/
theorem geometry (carried : Carries entry datagram) :
    ¬(entry.seen ≠ ∅ ∧
      (entry.pmtu ≠ (datagram.fragPart part inside).pmtu ∨
        entry.totalParts ≠ (datagram.fragPart part inside).total)) := by
  rintro ⟨started, disagree | disagree⟩
  · exact disagree (carried.pmtu started)
  · exact disagree (carried.totalParts started)

/-- The entry after one more part of the datagram is copied in. -/
def stored (entry : FragEntry) (datagram : Datagram)
    (part : Fin maxTotalParts) (inside : part < datagram.parts)
    (tick : Nat) : FragEntry :=
  (entry.fixGeometry (datagram.fragPart part inside)).store
    (datagram.fragPart part inside) tick

theorem fixGeometry_seen (entry : FragEntry) (part : FragPart) :
    (entry.fixGeometry part).seen = entry.seen := by
  unfold fixGeometry
  split <;> rfl

theorem stored_seen :
    (stored entry datagram part inside tick).seen =
      insert part entry.seen :=
  congrArg (insert part) (fixGeometry_seen ..)

theorem stored_active :
    (stored entry datagram part inside tick).active = entry.active := by
  unfold stored fixGeometry
  split <;> rfl

theorem stored_lastTick :
    (stored entry datagram part inside tick).lastTick = tick :=
  rfl

theorem stored_data :
    (stored entry datagram part inside tick).data =
      blit entry.data (slpMtu * part)
        (chunk slpMtu datagram.bytes part) := by
  rw [Nat.mul_comm]
  unfold stored fixGeometry
  split <;> rfl

theorem stored_lens :
    (stored entry datagram part inside tick).lens =
      Function.update entry.lens part
        (chunk slpMtu datagram.bytes part).length := by
  unfold stored fixGeometry
  split <;> rfl

theorem stored_key (carried : Carries entry datagram) :
    (stored entry datagram part inside tick).src = datagram.src ∧
      (stored entry datagram part inside tick).id = datagram.id := by
  rw [← carried.src, ← carried.id]
  unfold stored fixGeometry
  split <;> exact ⟨rfl, rfl⟩

theorem stored_geometry (carried : Carries entry datagram) :
    (stored entry datagram part inside tick).pmtu = slpMtu ∧
      (stored entry datagram part inside tick).totalParts =
        datagram.parts := by
  unfold stored fixGeometry
  split
  · exact ⟨rfl, rfl⟩
  · rename_i started
    exact ⟨carried.pmtu started, carried.totalParts started⟩

/-- Copying in one more part keeps the entry a piece of the datagram. -/
theorem stored_carries (carried : Carries entry datagram) :
    Carries (stored entry datagram part inside tick) datagram where
  src := carried.stored_key.1
  id := carried.stored_key.2
  pmtu _ := carried.stored_geometry.1
  totalParts _ := carried.stored_geometry.2
  seen := by
    rw [stored_seen]
    apply Finset.insert_subset _ carried.seen
    simpa [want] using inside
  lens := by
    intro other member
    rw [stored_seen] at member
    rw [stored_lens]
    by_cases same : other = part
    · subst same
      exact Function.update_self ..
    · rw [Function.update_of_ne same]
      exact carried.lens other (Finset.mem_of_mem_insert_of_ne member same)
  data := by
    intro other member
    rw [stored_seen] at member
    rw [stored_data]
    by_cases same : other = part
    · subst same
      exact blit_carriesChunk entry.data (by decide) datagram.bytes other
    · apply CarriesChunk.blit_other
      · exact
          carried.data other (Finset.mem_of_mem_insert_of_ne member same)
      · exact fun equal => same (Fin.ext equal)

/-- An entry with every part hands up the datagram. -/
theorem complete (carried : Carries entry datagram)
    (full : entry.seen = want datagram.parts) :
    entry.complete (datagram.fragPart part inside) =
      ({ entry with active := false }, some datagram.bytes) := by
  have everyPart :
      ∀ index (counted : index < datagram.parts),
        (⟨index, counted.trans_le datagram.parts_le⟩ :
          Fin maxTotalParts) ∈ entry.seen := by
    intro index counted
    rw [full]
    simpa [want] using counted
  have parted := datagram.one_lt_parts
  have lastLength :
      entry.lens (datagram.fragPart part inside).last =
        (chunk slpMtu datagram.bytes (datagram.parts - 1)).length :=
    carried.lens _
      (everyPart (datagram.parts - 1) (Nat.sub_lt (by omega) Nat.one_pos))
  have rebuilt :
      ((datagram.fragPart part inside).total - 1) *
            (datagram.fragPart part inside).pmtu +
          entry.lens (datagram.fragPart part inside).last =
        datagram.bytes.length := by
    have nonempty : 0 < datagram.bytes.length :=
      Nat.zero_lt_of_lt datagram.long
    have ends := chunk_last_end (by decide : 0 < slpMtu) nonempty
    rw [lastLength, Nat.mul_comm]
    exact ends
  have copied :=
    take_ofFn_of_carriesChunk (by decide) datagram.fits
      (fun index counted => carried.data _ (everyPart index counted))
  unfold FragEntry.complete
  rw [rebuilt]
  dsimp only
  rw [if_pos datagram.fits, copied]

/-- A part that is already there changes nothing. -/
theorem accept_seen (carried : Carries entry datagram)
    (present : part ∈ entry.seen) :
    entry.accept (datagram.fragPart part inside) tick = (entry, none) := by
  have started : entry.seen ≠ ∅ := Finset.ne_empty_of_mem present
  have fixed :
      entry.fixGeometry (datagram.fragPart part inside) = entry :=
    if_neg started
  unfold accept
  rw [if_neg carried.geometry, fixed]
  exact if_pos present

/-- A part that was missing is copied in; the last one completes. -/
theorem accept_unseen (carried : Carries entry datagram)
    (missing : part ∉ entry.seen) :
    entry.accept (datagram.fragPart part inside) tick =
      if insert part entry.seen = want datagram.parts then
        ({ stored entry datagram part inside tick with active := false },
          some datagram.bytes)
      else (stored entry datagram part inside tick, none) := by
  have unfolded :
      entry.accept (datagram.fragPart part inside) tick =
        if (stored entry datagram part inside tick).seen =
            want datagram.parts then
          (stored entry datagram part inside tick).complete
            (datagram.fragPart part inside)
        else (stored entry datagram part inside tick, none) := by
    unfold accept
    rw [if_neg carried.geometry]
    apply if_neg
    rw [fixGeometry_seen]
    exact missing
  rw [unfolded, stored_seen]
  split
  · rename_i full
    exact carried.stored_carries.complete (stored_seen.trans full)
  · rfl

/-- Whatever a part of the datagram does, it mixes in nothing else. -/
theorem accept (carried : Carries entry datagram) :
    Carries (entry.accept (datagram.fragPart part inside) tick).1
        datagram ∧
      ∀ buffer,
        (entry.accept (datagram.fragPart part inside) tick).2 =
            some buffer →
          buffer = datagram.bytes := by
  by_cases present : part ∈ entry.seen
  · rw [carried.accept_seen present]
    refine ⟨carried, ?_⟩
    intro buffer handed
    contradiction
  · have kept :
        Carries (stored entry datagram part inside tick) datagram :=
      carried.stored_carries
    rw [carried.accept_unseen present]
    split
    · refine ⟨⟨kept.1, kept.2, kept.3, kept.4, kept.5, kept.6, kept.7⟩, ?_⟩
      intro buffer handed
      exact (Option.some.inj handed).symm
    · refine ⟨kept, ?_⟩
      intro buffer handed
      contradiction

end Carries

/-! ## Tables that track a datagram -/

namespace FragTable

/-- No entry is in use for the datagram. -/
def Absent (datagram : Datagram) (table : FragTable) : Prop :=
  ∀ slot, (table slot).holdsKey datagram.src datagram.id = false

/--
`slot` is the one entry in use for the datagram.  It has the parts `seen` and
was last updated at `last`.
-/
structure Tracks (datagram : Datagram) (slot : Fin maxFragEntries)
    (seen : Finset (Fin maxTotalParts)) (last : Nat)
    (table : FragTable) : Prop where
  active : (table slot).active = true
  carries : Carries (table slot) datagram
  seen_eq : (table slot).seen = seen
  lastTick_eq : (table slot).lastTick = last
  only :
    ∀ other,
      (table other).holdsKey datagram.src datagram.id = true →
        other = slot

theorem holdsKey_expire
    {entry : FragEntry} {now : Nat} {src : UInt32} {id : UInt16}
    (holds : (entry.expire now).holdsKey src id = true) :
    entry.holdsKey src id = true := by
  unfold FragEntry.expire at holds
  split at holds
  · simp [FragEntry.holdsKey] at holds
  · exact holds

/-- Expiry brings no entry back. -/
theorem Absent.expire
    {datagram : Datagram} {table : FragTable}
    (absent : Absent datagram table) (now : Nat) :
    Absent datagram (table.expire now) := by
  intro slot
  by_contra holds
  rw [Bool.not_eq_false] at holds
  have before := holdsKey_expire holds
  rw [absent slot] at before
  contradiction

section Steps

variable
    {datagram : Datagram}
    {table : FragTable}
    {slot : Fin maxFragEntries}
    {seen : Finset (Fin maxTotalParts)}
    {last now later : Nat}
    {part : Fin maxTotalParts}
    {inside : part < datagram.parts}

/-- An entry updated recently enough does not expire. -/
theorem Tracks.expire
    (tracked : Tracks datagram slot seen last table)
    (timely : now - last ≤ fragTimeoutTicks) :
    Tracks datagram slot seen last (table.expire now) := by
  have kept : table.expire now slot = table slot := by
    apply if_neg
    simp [FragEntry.stale, tracked.lastTick_eq, timely]
  constructor
  · rw [kept]
    exact tracked.active
  · rw [kept]
    exact tracked.carries
  · rw [kept]
    exact tracked.seen_eq
  · rw [kept]
    exact tracked.lastTick_eq
  · intro other holds
    exact tracked.only other (holdsKey_expire holds)

/-- An entry not updated for longer than the timeout is given up. -/
theorem Tracks.stale
    (tracked : Tracks datagram slot seen last table)
    (late : fragTimeoutTicks < now - last) :
    Absent datagram (table.expire now) ∧
      (table.expire now slot).active = false := by
  have retired : (table.expire now slot).active = false := by
    have stale : (table slot).stale now = true := by
      simp [FragEntry.stale, tracked.active, tracked.lastTick_eq, late]
    unfold FragTable.expire FragEntry.expire
    rw [if_pos stale]
  refine ⟨?_, retired⟩
  intro other
  by_contra holds
  rw [Bool.not_eq_false] at holds
  have same := tracked.only other (holdsKey_expire holds)
  subst same
  simp [FragEntry.holdsKey, retired] at holds

/-- The tracked entry is the one that `FindFragEntry` finds. -/
theorem Tracks.matchingSlot
    (tracked : Tracks datagram slot seen last table) :
    table.matchingSlot datagram.src datagram.id = some slot := by
  have holds : (table slot).holdsKey datagram.src datagram.id = true := by
    rw [tracked.carries.holdsKey_eq_active]
    exact tracked.active
  cases found : table.matchingSlot datagram.src datagram.id with
  | none =>
      rw [matchingSlot_none.mp found slot] at holds
      contradiction
  | some other =>
      rw [tracked.only other (matchingSlot_some found)]

/-- Replacing a slot by an entry of another key disturbs nothing. -/
theorem Tracks.update
    (tracked : Tracks datagram slot seen last table)
    {other : Fin maxFragEntries} (distinct : other ≠ slot)
    {entry : FragEntry}
    (foreign : entry.holdsKey datagram.src datagram.id = false) :
    Tracks datagram slot seen last (Function.update table other entry) := by
  have kept : Function.update table other entry slot = table slot :=
    Function.update_of_ne distinct.symm ..
  constructor
  · rw [kept]
    exact tracked.active
  · rw [kept]
    exact tracked.carries
  · rw [kept]
    exact tracked.seen_eq
  · rw [kept]
    exact tracked.lastTick_eq
  · intro third holds
    by_cases same : third = other
    · subst same
      rw [Function.update_self, foreign] at holds
      contradiction
    · rw [Function.update_of_ne same] at holds
      exact tracked.only third holds

/-- A slot that receives an entry for the datagram tracks it. -/
theorem tracks_update
    (only :
      ∀ other,
        (table other).holdsKey datagram.src datagram.id = true →
          other = slot)
    {entry : FragEntry} (active : entry.active = true)
    (carried : Carries entry datagram) :
    Tracks datagram slot entry.seen entry.lastTick
      (Function.update table slot entry) := by
  have placed : Function.update table slot entry slot = entry :=
    Function.update_self ..
  constructor
  · rw [placed]
    exact active
  · rw [placed]
    exact carried
  · rw [placed]
  · rw [placed]
  · intro other holds
    by_contra distinct
    rw [Function.update_of_ne distinct] at holds
    exact distinct (only other holds)

/-- One part alone is never the whole datagram. -/
theorem singleton_ne_want (datagram : Datagram)
    (part : Fin maxTotalParts) :
    {part} ≠ FragEntry.want datagram.parts := by
  intro full
  have parted := datagram.one_lt_parts
  have single :
      ∀ other : Fin maxTotalParts, other < datagram.parts →
        other = part := by
    intro other counted
    have member : other ∈ FragEntry.want datagram.parts := by
      simpa [FragEntry.want] using counted
    rw [← full] at member
    exact Finset.mem_singleton.mp member
  have zero := single ⟨0, by decide⟩ (Nat.zero_lt_of_lt parted)
  have one := single ⟨1, by decide⟩ parted
  have equal := congrArg Fin.val (zero.trans one.symm)
  contradiction

section Accepting

variable
    {entry : FragEntry}
    (only :
      ∀ other,
        (table other).holdsKey datagram.src datagram.id = true →
          other = slot)
    (active : entry.active = true)
    (carried : Carries entry datagram)
    (missing : part ∉ entry.seen)

include only active carried missing

/-- A missing part is added to the entry of the datagram. -/
theorem accept_tracks
    (unfinished :
      insert part entry.seen ≠ FragEntry.want datagram.parts) :
    Tracks datagram slot (insert part entry.seen) later
        (Function.update table slot
          (entry.accept (datagram.fragPart part inside) later).1) ∧
      (entry.accept (datagram.fragPart part inside) later).2 = none := by
  rw [carried.accept_unseen missing, if_neg unfinished]
  have tracked :
      Tracks datagram slot
        (Carries.stored entry datagram part inside later).seen
        (Carries.stored entry datagram part inside later).lastTick
        (Function.update table slot
          (Carries.stored entry datagram part inside later)) :=
    tracks_update only (Carries.stored_active.trans active)
      carried.stored_carries
  rw [Carries.stored_seen, Carries.stored_lastTick] at tracked
  exact ⟨tracked, rfl⟩

omit active in
/-- The last missing part hands the datagram up and frees the entry. -/
theorem accept_completes
    (full : insert part entry.seen = FragEntry.want datagram.parts) :
    Absent datagram
        (Function.update table slot
          (entry.accept (datagram.fragPart part inside) later).1) ∧
      (entry.accept (datagram.fragPart part inside) later).2 =
        some datagram.bytes := by
  rw [carried.accept_unseen missing, if_pos full]
  refine ⟨?_, rfl⟩
  intro other
  by_cases same : other = slot
  · subst same
    rw [Function.update_self]
    rfl
  · rw [Function.update_of_ne same]
    by_contra holds
    rw [Bool.not_eq_false] at holds
    exact same (only other holds)

end Accepting

/-- A part of the datagram that meets a live entry. -/
theorem onPart_met
    (found :
      (table.expire now).matchingSlot datagram.src datagram.id =
        some slot) :
    table.onPart now later (datagram.fragPart part inside) =
      (Function.update (table.expire now) slot
          ((table.expire now slot).accept (datagram.fragPart part inside)
            later).1,
        ((table.expire now slot).accept (datagram.fragPart part inside)
          later).2) :=
  onPart_matching found

/-- A part of the datagram that claims a slot. -/
theorem onPart_claimed
    (absent : Absent datagram (table.expire now))
    (reused :
      (table.expire now).reuseSlot (List.finRange maxFragEntries) none
        int64Max = some slot) :
    table.onPart now later (datagram.fragPart part inside) =
      (Function.update (table.expire now) slot
          ((FragEntry.claimed datagram.src datagram.id now).accept
            (datagram.fragPart part inside) later).1,
        ((FragEntry.claimed datagram.src datagram.id now).accept
          (datagram.fragPart part inside) later).2) :=
  onPart_claiming (matchingSlot_none.mpr absent) reused

/-- A part of the datagram that finds no slot. -/
theorem onPart_lost
    (absent : Absent datagram (table.expire now))
    (full :
      (table.expire now).reuseSlot (List.finRange maxFragEntries) none
        int64Max = none) :
    table.onPart now later (datagram.fragPart part inside) =
      (table.expire now, none) :=
  onPart_dropped (matchingSlot_none.mpr absent) full

/-- The first part of a datagram starts an entry for it. -/
theorem onPart_first
    (absent : Absent datagram (table.expire now))
    (reused :
      (table.expire now).reuseSlot (List.finRange maxFragEntries) none
        int64Max = some slot) :
    Tracks datagram slot {part} later
        (table.onPart now later (datagram.fragPart part inside)).1 ∧
      (table.onPart now later (datagram.fragPart part inside)).2 =
        none := by
  rw [onPart_claimed absent reused]
  apply accept_tracks _ rfl (Carries.claimed datagram now)
    (Finset.notMem_empty part) (singleton_ne_want datagram part)
  intro other holds
  rw [absent other] at holds
  contradiction

/-- A repeated part of a tracked datagram is dropped. -/
theorem Tracks.onPart_repeated
    (tracked : Tracks datagram slot seen last table)
    (timely : now - last ≤ fragTimeoutTicks) (present : part ∈ seen) :
    Tracks datagram slot seen last
        (table.onPart now later (datagram.fragPart part inside)).1 ∧
      (table.onPart now later (datagram.fragPart part inside)).2 =
        none := by
  have live := tracked.expire timely
  rw [onPart_met live.matchingSlot,
    live.carries.accept_seen (live.seen_eq ▸ present),
    Function.update_eq_self]
  exact ⟨live, rfl⟩

/-- A missing part of a tracked datagram is stored. -/
theorem Tracks.onPart_missing
    (tracked : Tracks datagram slot seen last table)
    (timely : now - last ≤ fragTimeoutTicks) (missing : part ∉ seen)
    (unfinished : insert part seen ≠ FragEntry.want datagram.parts) :
    Tracks datagram slot (insert part seen) later
        (table.onPart now later (datagram.fragPart part inside)).1 ∧
      (table.onPart now later (datagram.fragPart part inside)).2 =
        none := by
  have live := tracked.expire timely
  rw [onPart_met live.matchingSlot]
  rw [← live.seen_eq] at missing unfinished ⊢
  exact
    accept_tracks live.only live.active live.carries missing unfinished

/-- The last missing part of a tracked datagram hands it up. -/
theorem Tracks.onPart_last
    (tracked : Tracks datagram slot seen last table)
    (timely : now - last ≤ fragTimeoutTicks) (missing : part ∉ seen)
    (full : insert part seen = FragEntry.want datagram.parts) :
    Absent datagram
        (table.onPart now later (datagram.fragPart part inside)).1 ∧
      (table.onPart now later (datagram.fragPart part inside)).2 =
        some datagram.bytes := by
  have live := tracked.expire timely
  rw [onPart_met live.matchingSlot]
  rw [← live.seen_eq] at missing full
  exact accept_completes live.only live.carries missing full

end Steps

end FragTable

end SlpClient.Tunnel
