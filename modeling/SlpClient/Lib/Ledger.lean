import Mathlib.Data.Set.Lattice
import Mathlib.Order.CompletePartialOrder

/-!
# Ledgers

A ledger marks the resources that are in use, and holders hold some of them.
It is balanced when what is marked is held, what is held is marked, and no
two holders hold the same resource.  The rules below say when taking a
resource keeps the balance, and that giving everything back does.
-/

namespace SlpClient.Lib

universe u v

variable
    {Resource : Type u}
    {Holder : Type v}

/-- The marked resources are the disjoint union of the held ones. -/
structure Balanced (marked : Set Resource)
    (holds : Holder → Set Resource) : Prop where
  covered : marked = ⋃ holder, holds holder
  disjoint : Pairwise (Function.onFun Disjoint holds)

namespace Balanced

variable
    {marked : Set Resource}
    {holds : Holder → Set Resource}

theorem mem_marked_iff
    (balanced : Balanced marked holds) {resource : Resource} :
    resource ∈ marked ↔ ∃ holder, resource ∈ holds holder := by
  rw [balanced.covered, Set.mem_iUnion]

theorem holder_unique
    (balanced : Balanced marked holds) {resource : Resource}
    {first second : Holder} (left : resource ∈ holds first)
    (right : resource ∈ holds second) : first = second := by
  by_contra different
  exact (balanced.disjoint different).ne_of_mem left right rfl

/-- Balance, one resource at a time. -/
theorem of_mem
    (covered :
      ∀ resource,
        resource ∈ marked ↔ ∃ holder, resource ∈ holds holder)
    (unique :
      ∀ resource first second,
        resource ∈ holds first → resource ∈ holds second →
          first = second) :
    Balanced marked holds where
  covered := by
    ext resource
    rw [covered resource, Set.mem_iUnion]
  disjoint := by
    intro first second different
    apply Set.disjoint_left.mpr
    intro resource left right
    exact different (unique resource first second left right)

/-- Marking free resources that nobody gets loses the balance. -/
theorem not_balanced_of_leak
    (balanced : Balanced marked holds) {taken : Set Resource}
    (free : Disjoint taken marked) (nonempty : taken.Nonempty) :
    ¬Balanced (marked ∪ taken) holds := by
  intro after
  rcases nonempty with ⟨resource, isTaken⟩
  rcases after.mem_marked_iff.mp (Or.inr isTaken) with ⟨holder, held⟩
  have wasMarked := balanced.mem_marked_iff.mpr ⟨holder, held⟩
  exact free.ne_of_mem isTaken wasMarked rfl

variable [DecidableEq Holder]

theorem mem_update_union
    {holder other : Holder} {placed : Set Resource} {resource : Resource} :
    resource ∈
        Function.update holds holder (holds holder ∪ placed) other ↔
      resource ∈ holds other ∨ other = holder ∧ resource ∈ placed := by
  rcases eq_or_ne other holder with rfl | differs
  · simp
  · simp [differs]

/-- A holder takes free resources. -/
theorem take
    (balanced : Balanced marked holds) {taken : Set Resource}
    (holder : Holder) (free : Disjoint taken marked) :
    Balanced (marked ∪ taken)
      (Function.update holds holder (holds holder ∪ taken)) := by
  have unheld :
      ∀ {resource other},
        resource ∈ taken → resource ∈ holds other → False := by
    intro resource other isTaken held
    have wasMarked := balanced.mem_marked_iff.mpr ⟨other, held⟩
    exact free.ne_of_mem isTaken wasMarked rfl
  apply of_mem
  · intro resource
    simp only [mem_update_union, Set.mem_union, balanced.mem_marked_iff]
    constructor
    · rintro (⟨other, held⟩ | isTaken)
      · exact ⟨other, Or.inl held⟩
      · exact ⟨holder, Or.inr ⟨rfl, isTaken⟩⟩
    · rintro ⟨other, held | ⟨_, isTaken⟩⟩
      · exact Or.inl ⟨other, held⟩
      · exact Or.inr isTaken
  · intro resource first second left right
    rcases mem_update_union.mp left with held | ⟨rfl, isTaken⟩
    · rcases mem_update_union.mp right with other | ⟨_, isTaken⟩
      · exact balanced.holder_unique held other
      · exact (unheld isTaken held).elim
    · rcases mem_update_union.mp right with other | ⟨rfl, _⟩
      · exact (unheld isTaken other).elim
      · rfl

/--
Marking free resources and placing some with a holder that did not hold them
keeps the balance exactly when the same resources are marked and placed.
-/
theorem take_iff
    (balanced : Balanced marked holds) {taken placed : Set Resource}
    {holder : Holder} (free : Disjoint taken marked)
    (fresh : Disjoint placed (holds holder)) :
    Balanced (marked ∪ taken)
        (Function.update holds holder (holds holder ∪ placed)) ↔
      taken = placed := by
  constructor
  · intro after
    ext resource
    constructor
    · intro isTaken
      rcases after.mem_marked_iff.mp (Or.inr isTaken) with ⟨other, held⟩
      rcases mem_update_union.mp held with before | ⟨_, isPlaced⟩
      · have wasMarked := balanced.mem_marked_iff.mpr ⟨other, before⟩
        exact absurd rfl (free.ne_of_mem isTaken wasMarked)
      · exact isPlaced
    · intro isPlaced
      have held :
          resource ∈
            Function.update holds holder (holds holder ∪ placed) holder :=
        mem_update_union.mpr (Or.inr ⟨rfl, isPlaced⟩)
      rcases after.mem_marked_iff.mpr ⟨holder, held⟩ with
        wasMarked | isTaken
      · rcases balanced.mem_marked_iff.mp wasMarked with ⟨other, before⟩
        have same :=
          after.holder_unique (mem_update_union.mpr (Or.inl before)) held
        rw [same] at before
        exact absurd rfl (fresh.ne_of_mem isPlaced before)
      · exact isTaken
  · rintro rfl
    exact balanced.take holder free

/-- A holder gives back everything it holds. -/
theorem release (balanced : Balanced marked holds) (holder : Holder) :
    Balanced (marked \ holds holder) (Function.update holds holder ∅) := by
  have kept :
      ∀ {resource other},
        resource ∈ Function.update holds holder ∅ other ↔
          resource ∈ holds other ∧ other ≠ holder := by
    intro resource other
    rcases eq_or_ne other holder with rfl | differs
    · simp
    · simp [differs]
  apply of_mem
  · intro resource
    simp only [kept, Set.mem_sdiff, balanced.mem_marked_iff]
    constructor
    · rintro ⟨⟨other, held⟩, other_held⟩
      refine ⟨other, held, ?_⟩
      rintro rfl
      exact other_held held
    · rintro ⟨other, held, differs⟩
      refine ⟨⟨other, held⟩, ?_⟩
      intro ownHeld
      exact differs (balanced.holder_unique held ownHeld)
  · intro resource first second left right
    exact balanced.holder_unique (kept.mp left).1 (kept.mp right).1

end Balanced

end SlpClient.Lib
