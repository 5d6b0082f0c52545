import SlpClient.Tunnel.Assembly

/-!
# Soundness of the reassembly table

Fed with the parts of a family of datagrams, every live entry of the table
carries one of them and no two entries carry the same one.  Expiry, eviction
and completion keep it so.
-/

namespace SlpClient.Tunnel

open SlpClient.Lib

namespace FragTable

/-! ## Soundness of the table -/

/-- Every live entry carries a datagram of the family, no two the same. -/
structure Sound (family : Set Datagram) (table : FragTable) : Prop where
  carried :
    ∀ slot, (table slot).active = true →
      ∃ datagram ∈ family, Carries (table slot) datagram
  unique :
    ∀ left right,
      (table left).active = true → (table right).active = true →
        (table left).src = (table right).src →
          (table left).id = (table right).id → left = right

section Sound

variable
    {family : Set Datagram}
    {table : FragTable}
    {datagram : Datagram}

theorem Sound.empty : Sound family empty where
  carried _ active := by contradiction
  unique _ _ active := by contradiction

theorem expire_of_active
    {now : Nat} {slot : Fin maxFragEntries}
    (active : (table.expire now slot).active = true) :
    table.expire now slot = table slot ∧ (table slot).active = true := by
  unfold expire FragEntry.expire at active ⊢
  split
  · rename_i stale
    rw [if_pos stale] at active
    contradiction
  · rename_i fresh
    rw [if_neg fresh] at active
    exact ⟨rfl, active⟩

theorem Sound.expire (sound : Sound family table) (now : Nat) :
    Sound family (table.expire now) where
  carried := by
    intro slot active
    rcases expire_of_active active with ⟨kept, before⟩
    rw [kept]
    exact sound.carried slot before
  unique := by
    intro left right leftActive rightActive
    rcases expire_of_active leftActive with ⟨leftKept, leftBefore⟩
    rcases expire_of_active rightActive with ⟨rightKept, rightBefore⟩
    rw [leftKept, rightKept]
    exact sound.unique left right leftBefore rightBefore

/-- Putting an entry for a datagram where no other slot has one. -/
theorem Sound.update
    (sound : Sound family table) (member : datagram ∈ family)
    {slot : Fin maxFragEntries} {entry : FragEntry}
    (carried : Carries entry datagram)
    (only :
      ∀ other,
        (table other).holdsKey datagram.src datagram.id = true →
          other = slot) :
    Sound family (Function.update table slot entry) := by
  have elsewhere :
      ∀ other, other ≠ slot → (table other).active = true →
        ¬((table other).src = entry.src ∧ (table other).id = entry.id) := by
    intro other distinct active same
    apply distinct
    apply only other
    simp [FragEntry.holdsKey, active, same.1, same.2, carried.src,
      carried.id]
  constructor
  · intro other active
    by_cases same : other = slot
    · subst same
      rw [Function.update_self]
      exact ⟨datagram, member, carried⟩
    · rw [Function.update_of_ne same] at active ⊢
      exact sound.carried other active
  · intro left right leftActive rightActive srcEqual idEqual
    by_cases leftSame : left = slot
    · by_cases rightSame : right = slot
      · rw [leftSame, rightSame]
      · subst leftSame
        rw [Function.update_of_ne rightSame] at rightActive srcEqual idEqual
        rw [Function.update_self] at srcEqual idEqual
        exact
          absurd ⟨srcEqual.symm, idEqual.symm⟩
            (elsewhere right rightSame rightActive)
    · by_cases rightSame : right = slot
      · subst rightSame
        rw [Function.update_of_ne leftSame] at leftActive srcEqual idEqual
        rw [Function.update_self] at srcEqual idEqual
        exact
          absurd ⟨srcEqual, idEqual⟩ (elsewhere left leftSame leftActive)
      · rw [Function.update_of_ne leftSame] at leftActive srcEqual idEqual
        rw [Function.update_of_ne rightSame] at rightActive srcEqual idEqual
        exact
          sound.unique left right leftActive rightActive srcEqual idEqual

/-- A slot in use for the key of a datagram carries that datagram. -/
theorem Sound.carries_of_holdsKey
    (keyed : Set.InjOn Datagram.key family)
    (sound : Sound family table) (member : datagram ∈ family)
    {slot : Fin maxFragEntries}
    (holds : (table slot).holdsKey datagram.src datagram.id = true) :
    (table slot).active = true ∧ Carries (table slot) datagram := by
  simp only [FragEntry.holdsKey, Bool.and_eq_true, beq_iff_eq] at holds
  rcases holds with ⟨⟨active, srcEqual⟩, idEqual⟩
  rcases sound.carried slot active with ⟨other, otherMember, carried⟩
  have sameKey : other.key = datagram.key :=
    Prod.ext (carried.src.symm.trans srcEqual)
      (carried.id.symm.trans idEqual)
  rw [keyed otherMember member sameKey] at carried
  exact ⟨active, carried⟩

/-- At most one slot is in use for a datagram. -/
theorem Sound.only
    (sound : Sound family table) {slot : Fin maxFragEntries}
    (holds : (table slot).holdsKey datagram.src datagram.id = true)
    (other : Fin maxFragEntries)
    (otherHolds :
      (table other).holdsKey datagram.src datagram.id = true) :
    other = slot := by
  simp only [FragEntry.holdsKey, Bool.and_eq_true, beq_iff_eq] at holds
  simp only [FragEntry.holdsKey, Bool.and_eq_true, beq_iff_eq] at otherHolds
  exact
    sound.unique other slot otherHolds.1.1 holds.1.1
      (otherHolds.1.2.trans holds.1.2.symm)
      (otherHolds.2.trans holds.2.symm)

/-- A part keeps the table sound and hands up nothing but its datagram. -/
theorem Sound.onPart
    (keyed : Set.InjOn Datagram.key family)
    (sound : Sound family table) (member : datagram ∈ family)
    (now later : Nat) (part : Fin maxTotalParts)
    (inside : part < datagram.parts) :
    Sound family
        (table.onPart now later (datagram.fragPart part inside)).1 ∧
      ∀ buffer,
        (table.onPart now later (datagram.fragPart part inside)).2 =
            some buffer →
          buffer = datagram.bytes := by
  have live := sound.expire now
  cases found :
      (table.expire now).matchingSlot datagram.src datagram.id with
  | some slot =>
      have holds := matchingSlot_some found
      have carried := (live.carries_of_holdsKey keyed member holds).2
      rw [onPart_met found]
      exact
        ⟨live.update member carried.accept.1 (live.only holds),
          carried.accept.2⟩
  | none =>
      have absent := matchingSlot_none.mp found
      cases reused :
          (table.expire now).reuseSlot (List.finRange maxFragEntries)
            none int64Max with
      | none =>
          rw [onPart_lost absent reused]
          refine ⟨live, ?_⟩
          intro buffer handed
          contradiction
      | some slot =>
          have carried := Carries.claimed datagram now
          rw [onPart_claimed absent reused]
          refine ⟨live.update member carried.accept.1 ?_, carried.accept.2⟩
          intro other holds
          rw [absent other] at holds
          contradiction

/-! ## Foreign parts -/

variable
    {other : Datagram}
    {part : Fin maxTotalParts}
    {inside : part < other.parts}
    {now later : Nat}

/-- A part replaces at most one entry, by an entry for its own datagram. -/
theorem Sound.onPart_cases
    (keyed : Set.InjOn Datagram.key family)
    (sound : Sound family table) (member : other ∈ family) :
    (table.onPart now later (other.fragPart part inside)).1 =
        table.expire now ∨
      ∃ slot entry,
        Carries entry other ∧
          (table.onPart now later (other.fragPart part inside)).1 =
            Function.update (table.expire now) slot entry ∧
          ((table.expire now slot).holdsKey other.src other.id = true ∨
            Absent other (table.expire now) ∧
              (table.expire now).reuseSlot (List.finRange maxFragEntries)
                none int64Max = some slot) := by
  have live := sound.expire now
  cases found :
      (table.expire now).matchingSlot other.src other.id with
  | some slot =>
      have holds := matchingSlot_some found
      have carried := (live.carries_of_holdsKey keyed member holds).2
      rw [onPart_met found]
      exact Or.inr ⟨slot, _, carried.accept.1, rfl, Or.inl holds⟩
  | none =>
      have absent := matchingSlot_none.mp found
      cases reused :
          (table.expire now).reuseSlot (List.finRange maxFragEntries)
            none int64Max with
      | none =>
          rw [onPart_lost absent reused]
          exact Or.inl rfl
      | some slot =>
          have carried := Carries.claimed other now
          rw [onPart_claimed absent reused]
          exact
            Or.inr
              ⟨slot, _, carried.accept.1, rfl, Or.inr ⟨absent, rfl⟩⟩

/-- An entry for one datagram is not in use for another. -/
theorem holdsKey_foreign
    {entry : FragEntry} (carried : Carries entry other)
    (foreign : other.key ≠ datagram.key) :
    entry.holdsKey datagram.src datagram.id = false := by
  by_contra holds
  simp only [FragEntry.holdsKey, Bool.not_eq_false, Bool.and_eq_true,
    beq_iff_eq] at holds
  apply foreign
  exact
    Prod.ext (carried.src.symm.trans holds.1.2)
      (carried.id.symm.trans holds.2)

/-- Parts of other datagrams start no entry for this one. -/
theorem Absent.onPart_foreign
    (absent : Absent datagram table)
    (keyed : Set.InjOn Datagram.key family)
    (sound : Sound family table) (member : other ∈ family)
    (foreign : other.key ≠ datagram.key) :
    Absent datagram
      (table.onPart now later (other.fragPart part inside)).1 := by
  have live := absent.expire now
  rcases sound.onPart_cases keyed member with
    kept | ⟨slot, entry, carried, replaced, _⟩
  · rw [kept]
    exact live
  · rw [replaced]
    intro third
    by_cases same : third = slot
    · subst same
      rw [Function.update_self]
      exact holdsKey_foreign carried foreign
    · rw [Function.update_of_ne same]
      exact live third

/-- While there is room, parts of other datagrams leave an entry alone. -/
theorem Tracks.onPart_foreign
    {slot : Fin maxFragEntries} {seen : Finset (Fin maxTotalParts)}
    {last : Nat} (tracked : Tracks datagram slot seen last table)
    (timely : now - last ≤ fragTimeoutTicks)
    (keyed : Set.InjOn Datagram.key family)
    (sound : Sound family table) (member : other ∈ family)
    (foreign : other.key ≠ datagram.key)
    (room :
      Absent other (table.expire now) →
        ∃ free, (table.expire now free).active = false) :
    Tracks datagram slot seen last
      (table.onPart now later (other.fragPart part inside)).1 := by
  have live := tracked.expire timely
  rcases sound.onPart_cases keyed member with
    kept | ⟨replacedSlot, entry, carried, replaced, chosen⟩
  · rw [kept]
    exact live
  · rw [replaced]
    apply live.update _ (holdsKey_foreign carried foreign)
    rintro rfl
    rcases chosen with holds | ⟨absent, reused⟩
    · rw [holdsKey_foreign live.carries foreign.symm] at holds
      contradiction
    · rcases room absent with ⟨free, inactive⟩
      rcases reuseSlot_free none int64Max
          ⟨free, List.mem_finRange free, inactive⟩ with
        ⟨chosen, reusedFree, chosenInactive⟩
      rw [reused] at reusedFree
      cases reusedFree
      rw [live.active] at chosenInactive
      contradiction

/-! ## Room -/

/-- The keys that hold an unexpired entry at a tick. -/
def liveKeys (table : FragTable) (now : Nat) : Finset (UInt32 × UInt16) :=
  (Finset.univ.filter
    (fun slot => (table.expire now slot).active = true)).image
      (fun slot => ((table slot).src, (table slot).id))

/-- With at most four keys in play, a new key finds a free slot. -/
theorem Sound.free_slot
    (sound : Sound family table)
    (room : (insert other.key (table.liveKeys now)).card ≤ maxFragEntries)
    (absent : Absent other (table.expire now)) :
    ∃ free, (table.expire now free).active = false := by
  by_contra full
  simp only [not_exists, Bool.not_eq_false] at full
  have everySlot :
      Finset.univ.filter
          (fun slot => (table.expire now slot).active = true) =
        Finset.univ := by
    apply Finset.filter_true_of_mem
    intro slot _
    exact full slot
  have injective :
      Function.Injective
        (fun slot : Fin maxFragEntries =>
          ((table slot).src, (table slot).id)) := by
    intro left right equal
    have pair := Prod.ext_iff.mp equal
    exact
      sound.unique left right (expire_of_active (full left)).2
        (expire_of_active (full right)).2 pair.1 pair.2
  have fresh : other.key ∉ table.liveKeys now := by
    intro held
    unfold liveKeys at held
    rcases Finset.mem_image.mp held with ⟨slot, _, equal⟩
    have pair := Prod.ext_iff.mp equal
    have holds := absent slot
    rw [(expire_of_active (full slot)).1] at holds
    have active := (expire_of_active (full slot)).2
    simp only [FragEntry.holdsKey, active, Bool.true_and,
      Bool.and_eq_false_iff, beq_eq_false_iff_ne] at holds
    rcases holds with differs | differs
    · exact differs pair.1
    · exact differs pair.2
  have counted : (table.liveKeys now).card = maxFragEntries := by
    unfold liveKeys
    rw [everySlot, Finset.card_image_of_injective _ injective,
      Finset.card_univ, Fintype.card_fin]
  rw [Finset.card_insert_of_notMem fresh, counted] at room
  exact Nat.not_succ_le_self _ room

end Sound

end FragTable

end SlpClient.Tunnel
