import SlpClient.Ldn.Commands
import SlpClient.Lib.LeaseTable

/-!
# The recent-scanner allowlist

A used entry of the allowlist is a lease of its slot to an address.  A call of
`RecordScanner` refreshes the entry of the address if there is one, and takes
a slot that is unused or has expired otherwise.  While the addresses of one
lifetime fit in the sixteen slots, the list is therefore exact.
-/

namespace SlpClient.Ldn

open SlpClient.Lib
open SlpClient.Lib.LeaseTable

/-- The lease that an entry stands for. -/
def ScannerEntry.lease (entry : ScannerEntry) : Option (Record UInt32) :=
  if entry.used then some ⟨entry.ip, entry.lastTick⟩ else none

namespace LdnControl

/-- The leases of the allowlist. -/
def scannerLeases (control : LdnControl) :
    Fin 16 → Option (Record UInt32) :=
  fun slot => (control.recentScanners slot).lease

/-- Calls of `RecordScanner`, one after the other. -/
def recordScanners (control : LdnControl)
    (records : List (Record UInt32)) : LdnControl :=
  records.foldl
    (fun control record => control.recordScanner record.tick record.key)
    control

theorem recordScanners_concat (control : LdnControl)
    (records : List (Record UInt32)) (record : Record UInt32) :
    control.recordScanners (records ++ [record]) =
      (control.recordScanners records).recordScanner record.tick
        record.key := by
  unfold recordScanners
  rw [List.foldl_append]
  rfl

/-! ## Entries as leases -/

variable {control : LdnControl} {now : Int} {srcIp : UInt32}

theorem scannerLeases_eq_some {slot : Fin 16} {held : Record UInt32} :
    control.scannerLeases slot = some held ↔
      (control.recentScanners slot).used = true ∧
        (control.recentScanners slot).ip = held.key ∧
        (control.recentScanners slot).lastTick = held.tick := by
  rcases held with ⟨key, tick⟩
  unfold scannerLeases ScannerEntry.lease
  split
  · rename_i used
    simp [used]
  · rename_i unused
    simp [unused]

theorem holds_scannerLeases {slot : Fin 16} :
    Holds control.scannerLeases slot srcIp ↔
      (control.recentScanners slot).used = true ∧
        (control.recentScanners slot).ip = srcIp := by
  unfold Holds
  constructor
  · rintro ⟨held, found, rfl⟩
    rcases scannerLeases_eq_some.mp found with ⟨used, named, -⟩
    exact ⟨used, named⟩
  · rintro ⟨used, named⟩
    exact
      ⟨⟨srcIp, (control.recentScanners slot).lastTick⟩,
        scannerLeases_eq_some.mpr ⟨used, named, rfl⟩, rfl⟩

theorem reusable_scannerLeases {slot : Fin 16} :
    Reusable scannerTimeoutTicks now (control.scannerLeases slot) ↔
      ¬ (control.recentScanners slot).used = true ∨
        now - (control.recentScanners slot).lastTick >
          scannerTimeoutTicks := by
  unfold Reusable
  constructor
  · intro spare
    by_cases used : (control.recentScanners slot).used = true
    · exact
        .inr
          (spare ⟨_, _⟩ (scannerLeases_eq_some.mpr ⟨used, rfl, rfl⟩))
    · exact .inl used
  · intro reusable held found
    rcases scannerLeases_eq_some.mp found with ⟨used, -, since⟩
    rcases reusable with unused | expired
    · exact absurd used unused
    · rw [← since]
      exact expired

theorem scannerLeases_recordScanner :
    (control.recordScanner now srcIp).scannerLeases =
      Function.update control.scannerLeases
        (control.scannerSlot now srcIp (List.finRange 16) none)
        (some ⟨srcIp, now⟩) := by
  ext slot : 1
  unfold scannerLeases recordScanner
  dsimp only
  by_cases here :
      slot = control.scannerSlot now srcIp (List.finRange 16) none
  · rw [here, Function.update_self, Function.update_self]
    rfl
  · rw [Function.update_of_ne here, Function.update_of_ne here]

/-! ## The slot that is written -/

/-- An entry of the address is found behind any candidate. -/
theorem scannerSlot_known {slots : List (Fin 16)}
    {free : Option (Fin 16)}
    (known : ∃ slot ∈ slots, Holds control.scannerLeases slot srcIp) :
    Holds control.scannerLeases (control.scannerSlot now srcIp slots free)
      srcIp := by
  induction slots generalizing free with
  | nil =>
      rcases known with ⟨slot, member, -⟩
      exact absurd member List.not_mem_nil
  | cons first rest induction =>
      unfold scannerSlot
      dsimp only
      by_cases here :
          (control.recentScanners first).used = true ∧
            (control.recentScanners first).ip = srcIp
      · rw [if_pos here]
        exact holds_scannerLeases.mpr here
      · have later :
            ∃ slot ∈ rest, Holds control.scannerLeases slot srcIp := by
          rcases known with ⟨slot, member, holds⟩
          rcases List.mem_cons.mp member with rfl | behind
          · exact absurd (holds_scannerLeases.mp holds) here
          · exact ⟨slot, behind, holds⟩
        rw [if_neg here]
        split
        · exact induction later
        · exact induction later

/-- Without an entry of the address, a candidate stays. -/
theorem scannerSlot_candidate {slots : List (Fin 16)} {slot : Fin 16}
    (unknown :
      ∀ other ∈ slots, ¬ Holds control.scannerLeases other srcIp) :
    control.scannerSlot now srcIp slots (some slot) = slot := by
  induction slots with
  | nil => rfl
  | cons first rest induction =>
      have here := mt holds_scannerLeases.mpr (unknown first (by simp))
      unfold scannerSlot
      dsimp only
      rw [if_neg here, if_neg (by simp)]
      exact
        induction fun other member =>
          unknown other (List.mem_cons_of_mem _ member)

/-- Without an entry of the address, a slot that may be taken is found. -/
theorem scannerSlot_spare {slots : List (Fin 16)}
    (unknown :
      ∀ other ∈ slots, ¬ Holds control.scannerLeases other srcIp)
    (room :
      ∃ other ∈ slots,
        Reusable scannerTimeoutTicks now (control.scannerLeases other)) :
    Reusable scannerTimeoutTicks now
      (control.scannerLeases
        (control.scannerSlot now srcIp slots none)) := by
  induction slots with
  | nil =>
      rcases room with ⟨slot, member, -⟩
      exact absurd member List.not_mem_nil
  | cons first rest induction =>
      have here := mt holds_scannerLeases.mpr (unknown first (by simp))
      have behind :
          ∀ other ∈ rest, ¬ Holds control.scannerLeases other srcIp := by
        intro other member
        exact unknown other (List.mem_cons_of_mem _ member)
      unfold scannerSlot
      dsimp only
      rw [if_neg here]
      by_cases spare :
          ¬ (control.recentScanners first).used = true ∨
            now - (control.recentScanners first).lastTick >
              scannerTimeoutTicks
      · rw [if_pos ⟨rfl, spare⟩, scannerSlot_candidate behind]
        exact reusable_scannerLeases.mpr spare
      · rw [if_neg fun both => spare both.2]
        apply induction behind
        rcases room with ⟨slot, member, reusable⟩
        rcases List.mem_cons.mp member with rfl | later
        · exact absurd (reusable_scannerLeases.mp reusable) spare
        · exact ⟨slot, later, reusable⟩

/-- The loop finds the slot of the address, or one to give away. -/
theorem scannerSlot_places (control : LdnControl)
    (record : Record UInt32) :
    Places scannerTimeoutTicks control.scannerLeases record
      (control.scannerSlot record.tick record.key (List.finRange 16)
        none) where
  known := by
    rintro ⟨slot, holds⟩
    exact scannerSlot_known ⟨slot, List.mem_finRange slot, holds⟩
  spare := by
    rintro unknown ⟨slot, reusable⟩
    apply scannerSlot_spare
    · intro other _ holds
      exact unknown ⟨other, holds⟩
    · exact ⟨slot, List.mem_finRange slot, reusable⟩

theorem wasRecentScanner_iff :
    control.wasRecentScanner now srcIp = true ↔
      ∃ slot held, control.scannerLeases slot = some held ∧
        held.key = srcIp ∧ now - held.tick ≤ scannerTimeoutTicks := by
  unfold wasRecentScanner
  simp only [List.any_eq_true, List.mem_finRange, true_and,
    Bool.and_eq_true, beq_iff_eq, decide_eq_true_eq]
  constructor
  · rintro ⟨slot, ⟨used, named⟩, recent⟩
    exact
      ⟨slot, ⟨_, _⟩, scannerLeases_eq_some.mpr ⟨used, named, rfl⟩, rfl,
        recent⟩
  · rintro ⟨slot, held, found, rfl, recent⟩
    rcases scannerLeases_eq_some.mp found with ⟨used, named, since⟩
    rw [← since] at recent
    exact ⟨slot, ⟨used, named⟩, recent⟩

/-! ## Runs -/

/-- The allowlist tracks the calls while their addresses fit. -/
theorem recordScanners_tracks {records : List (Record UInt32)}
    (unused : ∀ slot, (control.recentScanners slot).used = false)
    (ordered : (records.map Record.tick).Pairwise (· ≤ ·))
    (fits :
      ∀ start, (window scannerTimeoutTicks records start).card ≤ 16) :
    Tracks scannerTimeoutTicks records
      (control.recordScanners records).scannerLeases := by
  induction records using List.reverseRecOn with
  | nil =>
      apply Tracks.free
      intro slot
      show (control.recentScanners slot).lease = none
      unfold ScannerEntry.lease
      rw [unused]
      rfl
  | append_singleton records record induction =>
      rw [List.map_append, List.pairwise_append] at ordered
      rcases ordered with ⟨before, -, across⟩
      have tracks := induction before fun start =>
        (Finset.card_le_card (window_subset_append start)).trans (fits start)
      have later : ∀ old ∈ records, old.tick ≤ record.tick := by
        intro old member
        exact across _ (List.mem_map_of_mem member) _ (by simp)
      rw [recordScanners_concat, scannerLeases_recordScanner]
      apply tracks.update (by decide) later
      · rw [Fintype.card_fin]
        exact fits _
      · exact scannerSlot_places _ record

/--
While at most sixteen addresses are recorded in any time of the length of a
lifetime, an address is allowed exactly when it was recorded that recently,
and no two used entries have the same address.
-/
theorem recordScanners_exact (control : LdnControl)
    (records : List (Record UInt32))
    (unused : ∀ slot, (control.recentScanners slot).used = false)
    (ordered : (records.map Record.tick).Pairwise (· ≤ ·))
    (fits :
      ∀ start, (window scannerTimeoutTicks records start).card ≤ 16) :
    (∀ now srcIp, (∀ record ∈ records, record.tick ≤ now) →
      ((control.recordScanners records).wasRecentScanner now srcIp = true ↔
        ∃ record ∈ records, record.key = srcIp ∧
          now - record.tick ≤ scannerTimeoutTicks)) ∧
      ∀ first second,
        ((control.recordScanners records).recentScanners first).used =
            true →
          ((control.recordScanners records).recentScanners second).used =
              true →
            ((control.recordScanners records).recentScanners first).ip =
                ((control.recordScanners records).recentScanners
                  second).ip →
              first = second := by
  have tracks := recordScanners_tracks unused ordered fits
  constructor
  · intro now srcIp later
    rw [wasRecentScanner_iff]
    exact tracks.recent_iff later srcIp
  · intro first second usedFirst usedSecond same
    exact
      tracks.distinct first second _
        (holds_scannerLeases.mpr ⟨usedFirst, same⟩)
        (holds_scannerLeases.mpr ⟨usedSecond, rfl⟩)

/-- Two scanners, one of them seen twice. -/
theorem recordScanners_exact_two :
    ((constructed 1500).recordScanners
        [⟨0x0A0D0002, 0⟩, ⟨0x0A0D0003, 5⟩,
          ⟨0x0A0D0002, 9⟩]).wasRecentScanner 576000006 0x0A0D0003 =
      false := by
  have exact :=
    (recordScanners_exact (constructed 1500)
      [⟨0x0A0D0002, 0⟩, ⟨0x0A0D0003, 5⟩, ⟨0x0A0D0002, 9⟩]
      (fun _ => rfl) (by decide)
      (fun _ => (card_window_le _).trans (by decide))).1
      576000006 0x0A0D0003 (by simp)
  rw [← Bool.not_eq_true, exact]
  simp [scannerTimeoutTicks]

end LdnControl

end SlpClient.Ldn
