import Mathlib.Data.List.Basic

/-!
# Two readers in step

Two readers go through the same sequence of items, and each keeps the first
entries that it accepts, up to a common limit.  An item that both take for
the same entry, or that both pass over, keeps them in step.  Items in step
give equal lists; and equal lists come from items in step whenever no two
items give the readers entries with the same key.
-/

namespace SlpClient.Lib

variable {Item Entry Key : Type*}

/-- The readers agree on each item until `room` entries are kept. -/
def Aligned (left : Item → Option Entry) (agree : Item → Prop) :
    Nat → List Item → Prop
  | 0, _ => True
  | _, [] => True
  | room + 1, item :: items =>
      agree item ∧
        Aligned left agree (if (left item).isSome then room else room + 1)
          items

/-- Different items give the two readers entries with different keys. -/
def KeysApart (left right : Item → Option Entry) (key : Entry → Key)
    (items : List Item) : Prop :=
  items.Pairwise fun earlier later =>
    (∀ first ∈ left earlier, ∀ second ∈ right later,
        key first ≠ key second) ∧
      ∀ first ∈ right earlier, ∀ second ∈ left later, key first ≠ key second

variable {left right : Item → Option Entry} {agree : Item → Prop}

theorem Aligned.entries_eq
    (agrees : ∀ item, agree item ↔ left item = right item) :
    ∀ {items : List Item} {room : Nat}, Aligned left agree room items →
      (items.filterMap left).take room = (items.filterMap right).take room
  | _, 0, _ => by simp
  | [], _ + 1, _ => rfl
  | item :: items, room + 1, ⟨same, rest⟩ => by
      have tails := Aligned.entries_eq agrees rest
      rw [agrees] at same
      cases taken : left item with
      | none =>
          rw [taken] at same tails
          rw [List.filterMap_cons_none taken,
            List.filterMap_cons_none same.symm]
          exact tails
      | some entry =>
          rw [taken] at same tails
          rw [List.filterMap_cons_some taken,
            List.filterMap_cons_some same.symm, List.take_succ_cons,
            List.take_succ_cons]
          exact congrArg (entry :: ·) tails

/-- An entry kept first by one reader only is kept for no later item by the
other. -/
theorem take_filterMap_ne_cons {reader : Item → Option Entry}
    {key : Entry → Key} {entry : Entry} {items : List Item}
    (apart : ∀ item ∈ items, ∀ other ∈ reader item, key entry ≠ key other)
    (room : Nat) (rest : List Entry) :
    (items.filterMap reader).take room ≠ entry :: rest := by
  intro taken
  have member : entry ∈ items.filterMap reader :=
    List.mem_of_mem_take (taken ▸ List.mem_cons_self)
  rcases List.mem_filterMap.mp member with ⟨item, listed, read⟩
  exact apart item listed entry read rfl

theorem aligned_of_entries_eq
    (agrees : ∀ item, agree item ↔ left item = right item)
    (key : Entry → Key) :
    ∀ {items : List Item} {room : Nat}, KeysApart left right key items →
      (items.filterMap left).take room = (items.filterMap right).take room →
        Aligned left agree room items
  | _, 0, _, _ => by simp [Aligned]
  | [], _ + 1, _, _ => trivial
  | item :: items, room + 1, apart, same => by
      rcases List.pairwise_cons.mp apart with ⟨first, others⟩
      simp only [Aligned, agrees]
      cases taken : left item with
      | none =>
          rw [List.filterMap_cons_none taken] at same
          cases read : right item with
          | none =>
              rw [List.filterMap_cons_none read] at same
              exact ⟨rfl, aligned_of_entries_eq agrees key others same⟩
          | some entry =>
              rw [List.filterMap_cons_some read, List.take_succ_cons] at same
              exact absurd same
                (take_filterMap_ne_cons
                  (fun later listed => (first later listed).2 entry read) _ _)
      | some entry =>
          rw [List.filterMap_cons_some taken, List.take_succ_cons] at same
          cases read : right item with
          | none =>
              rw [List.filterMap_cons_none read] at same
              exact absurd same.symm
                (take_filterMap_ne_cons
                  (fun later listed => (first later listed).1 entry taken)
                  _ _)
          | some other =>
              rw [List.filterMap_cons_some read, List.take_succ_cons,
                List.cons.injEq] at same
              exact ⟨congrArg some same.1,
                aligned_of_entries_eq agrees key others same.2⟩

end SlpClient.Lib
