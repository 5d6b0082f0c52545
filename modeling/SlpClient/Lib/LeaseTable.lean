import Mathlib.Data.Fintype.Card
import Mathlib.Order.Lattice

/-!
# Tables of recent keys

A slot is leased to a key from the time at which the key was recorded last,
and a lease that has lasted too long may be given to another key.  While the
keys that are recorded within one lifetime fit in the slots, no lease is lost
before its end, so that the table tells exactly which keys are recent.
-/

namespace SlpClient.Lib.LeaseTable

/-- A key that was recorded, and when. -/
structure Record (Key : Type*) where
  key : Key
  tick : Int

variable {Slot Key : Type*} {lifetime : Int}

/-- The slot is free or its lease is over. -/
def Reusable (lifetime now : Int) (lease : Option (Record Key)) : Prop :=
  ∀ held, lease = some held → lifetime < now - held.tick

/-- The slot is leased to the key. -/
def Holds (table : Slot → Option (Record Key)) (slot : Slot)
    (key : Key) : Prop :=
  ∃ held, table slot = some held ∧ held.key = key

/-- The slot may be used for a record. -/
structure Places (lifetime : Int) (table : Slot → Option (Record Key))
    (record : Record Key) (slot : Slot) : Prop where
  known :
    (∃ other, Holds table other record.key) → Holds table slot record.key
  spare :
    (¬ ∃ other, Holds table other record.key) →
      (∃ other, Reusable lifetime record.tick (table other)) →
        Reusable lifetime record.tick (table slot)

/-- The table knows which keys of the history are recent. -/
structure Tracks (lifetime : Int) (history : List (Record Key))
    (table : Slot → Option (Record Key)) : Prop where
  distinct :
    ∀ first second key,
      Holds table first key → Holds table second key → first = second
  recorded : ∀ slot held, table slot = some held → held ∈ history
  latest :
    ∀ slot held, table slot = some held →
      ∀ record ∈ history, record.key = held.key →
        record.tick ≤ held.tick
  kept :
    ∀ record ∈ history,
      (∃ slot, Holds table slot record.key) ∨
        ∃ last ∈ history, lifetime < last.tick - record.tick

/-- A table with free slots only knows that nothing was recorded. -/
theorem Tracks.free {table : Slot → Option (Record Key)}
    (free : ∀ slot, table slot = none) : Tracks lifetime [] table where
  distinct first second key holds _ := by
    rcases holds with ⟨held, found, -⟩
    rw [free] at found
    contradiction
  recorded slot held found := by
    rw [free] at found
    contradiction
  latest _ _ _ record member := absurd member List.not_mem_nil
  kept record member := absurd member List.not_mem_nil

/-- The table answers for the recent keys. -/
theorem Tracks.recent_iff {history : List (Record Key)}
    {table : Slot → Option (Record Key)}
    (tracks : Tracks lifetime history table) {now : Int}
    (later : ∀ record ∈ history, record.tick ≤ now) (key : Key) :
    (∃ slot held, table slot = some held ∧ held.key = key ∧
        now - held.tick ≤ lifetime) ↔
      ∃ record ∈ history, record.key = key ∧
        now - record.tick ≤ lifetime := by
  constructor
  · rintro ⟨slot, held, found, named, recent⟩
    exact ⟨held, tracks.recorded slot held found, named, recent⟩
  · rintro ⟨record, member, rfl, recent⟩
    rcases tracks.kept record member with
      ⟨slot, held, found, named⟩ | ⟨last, listed, ended⟩
    · have newer := tracks.latest slot held found record member named.symm
      exact ⟨slot, held, found, named, by omega⟩
    · have reached := later last listed
      omega

section Recording

variable {history : List (Record Key)}
  {table : Slot → Option (Record Key)}
  {record : Record Key} {slot : Slot}

section Window

variable [DecidableEq Key]

/-- The keys that were recorded in a lifetime that starts at a time. -/
def window (lifetime : Int) (history : List (Record Key)) (start : Int) :
    Finset Key :=
  ((history.filter fun record =>
    start ≤ record.tick ∧ record.tick ≤ start + lifetime).map
      Record.key).toFinset

theorem mem_window {start : Int} {key : Key} :
    key ∈ window lifetime history start ↔
      ∃ record ∈ history,
        (start ≤ record.tick ∧ record.tick ≤ start + lifetime) ∧
          record.key = key := by
  unfold window
  simp [and_assoc]

theorem window_subset_append (start : Int) {more : List (Record Key)} :
    window lifetime history start ⊆
      window lifetime (history ++ more) start := by
  intro key member
  rw [mem_window] at member ⊢
  rcases member with ⟨record, listed, inside⟩
  exact ⟨record, List.mem_append_left _ listed, inside⟩

theorem card_window_le (start : Int) :
    (window lifetime history start).card ≤ history.length := by
  unfold window
  calc
    _ ≤ _ := List.toFinset_card_le _
    _ ≤ history.length := by
      rw [List.length_map]
      exact List.length_filter_le ..

/-- A new key finds a slot when the keys of the last lifetime fit. -/
theorem Tracks.exists_reusable [Fintype Slot]
    (tracks : Tracks lifetime history table) (positive : 0 ≤ lifetime)
    (later : ∀ old ∈ history, old.tick ≤ record.tick)
    (fits :
      (window lifetime (history ++ [record])
        (record.tick - lifetime)).card ≤ Fintype.card Slot)
    (unknown : ¬ ∃ other, Holds table other record.key) :
    ∃ other, Reusable lifetime record.tick (table other) := by
  by_contra full
  have live :
      ∀ other, ∃ held, table other = some held ∧
        record.tick - held.tick ≤ lifetime := by
    intro other
    by_contra ended
    apply full
    refine ⟨other, ?_⟩
    intro held found
    by_contra recent
    exact ended ⟨held, found, by omega⟩
  choose held found recent using live
  have injective : Function.Injective fun other => (held other).key := by
    intro first second same
    exact
      tracks.distinct first second _ ⟨_, found first, rfl⟩
        ⟨_, found second, same.symm⟩
  have fresh :
      record.key ∉
        Finset.univ.image fun other => (held other).key := by
    intro member
    rcases Finset.mem_image.mp member with ⟨other, -, same⟩
    exact unknown ⟨other, _, found other, same⟩
  have inside :
      insert record.key (Finset.univ.image fun other => (held other).key) ⊆
        window lifetime (history ++ [record])
          (record.tick - lifetime) := by
    intro key member
    rw [mem_window]
    rcases Finset.mem_insert.mp member with rfl | old
    · exact ⟨record, by simp, ⟨by omega, by omega⟩, rfl⟩
    · rcases Finset.mem_image.mp old with ⟨other, -, same⟩
      have listed := tracks.recorded other _ (found other)
      have before := later _ listed
      have within := recent other
      exact
        ⟨held other, List.mem_append_left _ listed, ⟨by omega, by omega⟩,
          same⟩
  have counted := Finset.card_le_card inside
  rw [Finset.card_insert_of_notMem fresh,
    Finset.card_image_of_injective _ injective, Finset.card_univ] at counted
  omega

end Window

/-- No other slot than that of the record holds its key. -/
theorem Tracks.eq_of_placed (tracks : Tracks lifetime history table)
    (placed :
      Holds table slot record.key ∨
        (¬ ∃ other, Holds table other record.key) ∧
          Reusable lifetime record.tick (table slot))
    {other : Slot} (holds : Holds table other record.key) :
    other = slot := by
  rcases placed with known | ⟨unknown, -⟩
  · exact tracks.distinct other slot _ holds known
  · exact absurd ⟨other, holds⟩ unknown

variable [DecidableEq Slot]

/-- The slots that hold a key after a record. -/
theorem holds_update_iff {other : Slot} {key : Key} :
    Holds (Function.update table slot (some record)) other key ↔
      if other = slot then record.key = key else Holds table other key := by
  unfold Holds
  by_cases same : other = slot
  · subst same
    simp
  · rw [Function.update_of_ne same, if_neg same]

/-- A record takes the slot of its key, or one that may be given away. -/
theorem Tracks.update_of_spare
    (tracks : Tracks lifetime history table)
    (later : ∀ old ∈ history, old.tick ≤ record.tick)
    (placed :
      Holds table slot record.key ∨
        (¬ ∃ other, Holds table other record.key) ∧
          Reusable lifetime record.tick (table slot)) :
    Tracks lifetime (history ++ [record])
      (Function.update table slot (some record)) where
  distinct := by
    intro first second key one two
    rw [holds_update_iff] at one two
    by_cases here : first = slot
    · by_cases there : second = slot
      · rw [here, there]
      · rw [if_pos here] at one
        rw [if_neg there, ← one] at two
        exact absurd (tracks.eq_of_placed placed two) there
    · rw [if_neg here] at one
      by_cases there : second = slot
      · rw [if_pos there] at two
        rw [← two] at one
        exact absurd (tracks.eq_of_placed placed one) here
      · rw [if_neg there] at two
        exact tracks.distinct first second key one two
  recorded := by
    intro other held found
    by_cases here : other = slot
    · rw [here, Function.update_self] at found
      rw [Option.some.inj found]
      exact List.mem_append_right _ List.mem_cons_self
    · rw [Function.update_of_ne here] at found
      exact List.mem_append_left _ (tracks.recorded other held found)
  latest := by
    intro other held found old member named
    by_cases here : other = slot
    · rw [here, Function.update_self] at found
      rw [← Option.some.inj found]
      rcases List.mem_append.mp member with before | last
      · exact later old before
      · rw [List.mem_singleton.mp last]
    · rw [Function.update_of_ne here] at found
      rcases List.mem_append.mp member with before | last
      · exact tracks.latest other held found old before named
      · rw [List.mem_singleton.mp last] at named
        have same :=
          tracks.eq_of_placed placed ⟨held, found, named.symm⟩
        exact absurd same here
  kept := by
    intro old member
    rcases List.mem_append.mp member with before | last
    · rcases tracks.kept old before with
        ⟨other, holds⟩ | ⟨last, listed, ended⟩
      · by_cases here : other = slot
        · rcases placed with ⟨held, found, named⟩ | ⟨-, spare⟩
          · rcases holds with ⟨owner, lookup, same⟩
            rw [here, found] at lookup
            rw [← Option.some.inj lookup, named] at same
            refine .inl ⟨slot, holds_update_iff.mpr ?_⟩
            rw [if_pos rfl, same]
          · rcases holds with ⟨owner, lookup, same⟩
            have newer :=
              tracks.latest other owner lookup old before same.symm
            have ended := spare owner (here ▸ lookup)
            exact .inr ⟨record, by simp, by omega⟩
        · refine .inl ⟨other, holds_update_iff.mpr ?_⟩
          rw [if_neg here]
          exact holds
      · exact .inr ⟨last, List.mem_append_left _ listed, ended⟩
    · rw [List.mem_singleton.mp last]
      refine .inl ⟨slot, holds_update_iff.mpr ?_⟩
      rw [if_pos rfl]

/-- While the keys of a lifetime fit in the slots, nothing is lost. -/
theorem Tracks.update [Fintype Slot] [DecidableEq Key]
    (tracks : Tracks lifetime history table) (positive : 0 ≤ lifetime)
    (later : ∀ old ∈ history, old.tick ≤ record.tick)
    (fits :
      (window lifetime (history ++ [record])
        (record.tick - lifetime)).card ≤ Fintype.card Slot)
    (places : Places lifetime table record slot) :
    Tracks lifetime (history ++ [record])
      (Function.update table slot (some record)) := by
  apply tracks.update_of_spare later
  by_cases known : ∃ other, Holds table other record.key
  · exact .inl (places.known known)
  · have room := tracks.exists_reusable positive later fits known
    exact .inr ⟨known, places.spare known room⟩

end Recording

end SlpClient.Lib.LeaseTable
