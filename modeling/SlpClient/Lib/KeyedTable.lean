import Mathlib.Data.List.FinRange
import Mathlib.Data.List.Induction
import Mathlib.Data.List.Nodup
import Mathlib.Data.List.TakeWhile

/-!
# A bounded table with one entry for each key

Storing an entry replaces the one with the same key, or takes a free place.
The keys of the table are the first different keys that came, as many as there
are places, and each of its entries is the last one that came with its key.
An array of slots with a count is such a table.
-/

namespace SlpClient.Lib.KeyedTable

variable {Entry Key : Type*} [DecidableEq Key] (key : Entry → Key)
  (capacity : Nat)

/-- An entry gives way to another one with the same key. -/
def replace (entry old : Entry) : Entry :=
  if key old = key entry then entry else old

/-- The table after an entry came. -/
def store (table : List Entry) (entry : Entry) : List Entry :=
  if key entry ∈ table.map key then table.map (replace key entry)
  else if table.length < capacity then table ++ [entry]
  else table

/-- The table after a list of entries came. -/
def stored (entries : List Entry) : List Entry :=
  entries.foldl (store key capacity) []

/-- The last entry of a list with a given key. -/
def latest (entries : List Entry) (wanted : Key) : Option Entry :=
  (entries.filter fun entry => key entry = wanted).getLast?

theorem key_replace (entry old : Entry) :
    key (replace key entry old) = key old := by
  unfold replace
  split
  · rename_i same
    exact same.symm
  · rfl

theorem stored_concat (entries : List Entry) (entry : Entry) :
    stored key capacity (entries ++ [entry]) =
      store key capacity (stored key capacity entries) entry := by
  unfold stored
  rw [List.foldl_append]
  rfl

theorem latest_concat (entries : List Entry) (entry : Entry)
    (wanted : Key) :
    latest key (entries ++ [entry]) wanted =
      if key entry = wanted then some entry
      else latest key entries wanted := by
  unfold latest
  rw [List.filter_append]
  split
  · rename_i same
    rw [List.filter_cons_of_pos (by simpa using same)]
    exact List.getLast?_concat
  · rename_i other
    rw [List.filter_cons_of_neg (by simpa using other)]
    exact congrArg List.getLast? (List.append_nil _)

variable {key}

/-! ## Keys -/

/-- A key that comes last counts if it did not come before. -/
theorem eraseDups_concat (keys : List Key) (last : Key) :
    (keys ++ [last]).eraseDups =
      if last ∈ keys then keys.eraseDups else keys.eraseDups ++ [last] := by
  rw [List.eraseDups_append]
  split
  · rename_i known
    simp [List.removeAll, known]
  · rename_i fresh
    simp [List.removeAll, fresh, List.eraseDups_cons]

/-- The keys after an entry came. -/
theorem map_key_store (table : List Entry) (entry : Entry) :
    (store key capacity table entry).map key =
      if key entry ∈ table.map key then table.map key
      else if table.length < capacity then table.map key ++ [key entry]
      else table.map key := by
  unfold store
  split_ifs
  · rw [List.map_map]
    apply List.map_congr_left
    intro old _
    exact key_replace key entry old
  · rw [List.map_append]
    rfl
  · rfl

/-- The keys of the table are the first different ones. -/
theorem map_key_stored (entries : List Entry) :
    (stored key capacity entries).map key =
      (entries.map key).eraseDups.take capacity := by
  induction entries using List.reverseRecOn with
  | nil => exact List.take_nil.symm
  | append_singleton entries entry induction =>
      have size :
          (stored key capacity entries).length =
            min capacity (entries.map key).eraseDups.length := by
        rw [← List.length_map (f := key), induction, List.length_take]
      rw [stored_concat, map_key_store, induction, List.map_append,
        List.map_singleton, eraseDups_concat]
      by_cases known : key entry ∈ entries.map key
      · rw [if_pos known]
        split_ifs with placed room
        · rfl
        · have whole :
              (entries.map key).eraseDups.length ≤ capacity := by
            omega
          rw [List.take_of_length_le whole] at placed
          exact absurd (List.mem_eraseDups.mpr known) placed
        · rfl
      · have outside : key entry ∉ (entries.map key).eraseDups.take capacity :=
          fun placed =>
            known (List.mem_eraseDups.mp (List.mem_of_mem_take placed))
        rw [if_neg known, if_neg outside]
        split_ifs with room
        · have whole :
              (entries.map key).eraseDups.length < capacity := by
            omega
          rw [List.take_of_length_le whole.le, List.take_of_length_le]
          rw [List.length_append, List.length_singleton]
          exact whole
        · have full :
              capacity ≤ (entries.map key).eraseDups.length := by
            omega
          exact (List.take_append_of_le_length full).symm

/-- The table is not larger than its capacity. -/
theorem length_stored_le (entries : List Entry) :
    (stored key capacity entries).length ≤ capacity := by
  rw [← List.length_map (f := key), map_key_stored]
  exact List.length_take_le ..

/-- No two entries of the table have the same key. -/
theorem nodup_stored (entries : List Entry) :
    ((stored key capacity entries).map key).Nodup := by
  induction entries using List.reverseRecOn with
  | nil => exact List.nodup_nil
  | append_singleton entries entry induction =>
      rw [stored_concat, map_key_store]
      split_ifs with placed room
      · exact induction
      · rw [← List.concat_eq_append]
        exact induction.concat placed
      · exact induction

/-! ## Entries -/

/-- An entry of the table is the last one with its key. -/
theorem latest_of_mem_stored {entries : List Entry} {entry : Entry}
    (member : entry ∈ stored key capacity entries) :
    latest key entries (key entry) = some entry := by
  induction entries using List.reverseRecOn generalizing entry with
  | nil => nomatch member
  | append_singleton entries last induction =>
      rw [stored_concat] at member
      rw [latest_concat]
      unfold store at member
      split_ifs at member with placed room
      · rcases List.mem_map.mp member with ⟨old, kept, rfl⟩
        rw [key_replace key last old]
        unfold replace
        by_cases same : key old = key last
        · rw [if_pos same, if_pos same.symm]
        · rw [if_neg same, if_neg (Ne.symm same)]
          exact induction kept
      · rcases List.mem_append.mp member with kept | new
        · have other : key last ≠ key entry := by
            intro same
            rw [same] at placed
            exact placed (List.mem_map_of_mem kept)
          rw [if_neg other]
          exact induction kept
        · rw [List.mem_singleton.mp new, if_pos rfl]
      · have other : key last ≠ key entry := by
          intro same
          rw [same] at placed
          exact placed (List.mem_map_of_mem member)
        rw [if_neg other]
        exact induction member

/--
The table holds an entry exactly when its key is among the first different
ones and no other entry came with the key later.
-/
theorem mem_stored_iff {entries : List Entry} {entry : Entry} :
    entry ∈ stored key capacity entries ↔
      key entry ∈ (entries.map key).eraseDups.take capacity ∧
        latest key entries (key entry) = some entry := by
  rw [← map_key_stored]
  constructor
  · intro member
    exact ⟨List.mem_map_of_mem member, latest_of_mem_stored capacity member⟩
  · rintro ⟨placed, last⟩
    rcases List.mem_map.mp placed with ⟨other, member, same⟩
    have equal := latest_of_mem_stored capacity member
    rw [same, last] at equal
    rw [Option.some_inj.mp equal]
    exact member

/-- Whatever is last has come. -/
theorem mem_of_latest {entries : List Entry} {wanted : Key}
    {entry : Entry} (last : latest key entries wanted = some entry) :
    entry ∈ entries ∧ key entry = wanted := by
  have member := List.mem_of_getLast? last
  rw [List.mem_filter, decide_eq_true_eq] at member
  exact member

/-! ## Slots -/

section Slots

variable {capacity} {slots : Fin capacity → Entry} {count : Nat}

/-- The first slots of an array. -/
def firstSlots (capacity count : Nat) : List (Fin capacity) :=
  (List.finRange capacity).take count

/-- The entries in the first slots of an array. -/
def contents (slots : Fin capacity → Entry) (count : Nat) : List Entry :=
  (firstSlots capacity count).map slots

theorem mem_firstSlots {index : Fin capacity} :
    index ∈ firstSlots capacity count ↔ index.val < count := by
  unfold firstSlots
  rw [List.mem_take_iff_getElem]
  constructor
  · rintro ⟨position, inside, rfl⟩
    rw [List.getElem_finRange]
    exact lt_of_lt_of_le inside (min_le_left _ _)
  · intro inside
    refine ⟨index.val, ?_, ?_⟩
    · rw [List.length_finRange]
      exact lt_min inside index.isLt
    · rw [List.getElem_finRange]
      rfl

theorem firstSlots_succ (room : count < capacity) :
    firstSlots capacity (count + 1) =
      firstSlots capacity count ++ [⟨count, room⟩] := by
  unfold firstSlots
  rw [List.take_add_one, List.getElem?_eq_getElem]
  · rw [List.getElem_finRange]
    rfl
  · rw [List.length_finRange]
    exact room

/-- Going through the slots up to a count visits the first ones. -/
theorem takeWhile_finRange :
    (List.finRange capacity).takeWhile (fun index => index.val < count) =
      firstSlots capacity count := by
  have stops :
      ((List.finRange capacity).drop count).takeWhile
          (fun index => index.val < count) = [] := by
    rw [List.takeWhile_eq_nil_iff]
    intro more
    rw [List.get_eq_getElem, List.getElem_drop, List.getElem_finRange]
    simp
  have split :=
    List.take_append_drop count (List.finRange capacity)
  rw [← split, List.takeWhile_append_of_pos, stops, List.append_nil]
  · rfl
  · intro index placed
    exact decide_eq_true (mem_firstSlots.mp placed)

theorem length_contents (bounded : count ≤ capacity) :
    (contents slots count).length = count := by
  unfold contents firstSlots
  rw [List.length_map, List.length_take, List.length_finRange]
  exact min_eq_left bounded

/-- What is in the first slots. -/
theorem mem_contents {entry : Entry} :
    entry ∈ contents slots count ↔
      ∃ index : Fin capacity, index.val < count ∧ slots index = entry := by
  unfold contents
  rw [List.mem_map]
  apply exists_congr
  intro index
  rw [mem_firstSlots]

/-- Storing into the slot that has the key. -/
theorem contents_update
    (distinct : ((contents slots count).map key).Nodup)
    {index : Fin capacity} (inside : index.val < count) {entry : Entry}
    (same : key (slots index) = key entry) :
    contents (Function.update slots index entry) count =
      (contents slots count).map (replace key entry) := by
  unfold contents at distinct ⊢
  rw [List.map_map] at distinct ⊢
  apply List.map_congr_left
  intro other placed
  show _ = replace key entry (slots other)
  unfold replace
  by_cases here : other = index
  · rw [here, Function.update_self, if_pos same]
  · rw [Function.update_of_ne here, if_neg]
    intro equal
    exact
      here
        (List.inj_on_of_nodup_map distinct placed
          (mem_firstSlots.mpr inside) (equal.trans same.symm))

/-- Storing into the first free slot. -/
theorem contents_append (room : count < capacity) (entry : Entry) :
    contents
        (fun index : Fin capacity =>
          if index.val = count then entry else slots index)
        (count + 1) =
      contents slots count ++ [entry] := by
  unfold contents
  rw [firstSlots_succ room, List.map_append, List.map_singleton,
    if_pos rfl]
  congr 1
  apply List.map_congr_left
  intro index placed
  exact if_neg (mem_firstSlots.mp placed).ne

end Slots

end SlpClient.Lib.KeyedTable
