import Mathlib.Algebra.GroupWithZero.Nat
import Mathlib.Data.Fin.Basic
import Mathlib.Data.List.Basic

/-!
# Rings

A ring buffer keeps its elements in a circular array, from `head` on.  A full
ring gives up its oldest element for a new one, and a sweep takes some of the
elements out and closes the gaps in place.  Each operation is described by
what it does to the list of the elements.
-/

namespace SlpClient.Lib

universe u v

/-! ## Bounded queues -/

/-- A new element at the end; the oldest one goes when there is no room. -/
def pushBounded {Value : Type u} (capacity : Nat) (queue : List Value)
    (value : Value) : List Value :=
  (if queue.length < capacity then queue else queue.tail) ++ [value]

theorem map_pushBounded {Value : Type u} {Image : Type v}
    (image : Value → Image) (capacity : Nat) (queue : List Value)
    (value : Value) :
    (pushBounded capacity queue value).map image =
      pushBounded capacity (queue.map image) (image value) := by
  unfold pushBounded
  rw [List.map_append, List.length_map]
  split
  · rfl
  · rw [List.map_tail]
    rfl

/-! ## Circular arrays -/

section Circular

variable {capacity : Nat} [NeZero capacity] {Value : Type u}

/-- The index that follows in the circle. -/
def nextIndex (index : Fin capacity) : Fin capacity :=
  Fin.ofNat capacity (index + 1)

theorem nextIndex_ofNat (position : Nat) :
    nextIndex (Fin.ofNat capacity position) =
      Fin.ofNat capacity (position + 1) := by
  apply Fin.ext
  simp [nextIndex]

/-- Positions less than one revolution apart have different indices. -/
theorem ofNat_ne_of_lt {first second : Nat} (before : first < second)
    (near : second < first + capacity) :
    Fin.ofNat capacity first ≠ Fin.ofNat capacity second := by
  intro same
  have equal : first % capacity = second % capacity :=
    congrArg Fin.val same
  have gap : (second - first) % capacity = 0 :=
    Nat.sub_mod_eq_zero_of_mod_eq equal.symm
  rw [Nat.mod_eq_of_lt (by omega)] at gap
  omega

/-- The elements at `count` positions from `start` on. -/
def window (slots : Fin capacity → Value) (start count : Nat) :
    List Value :=
  (List.range count).map fun offset =>
    slots (Fin.ofNat capacity (start + offset))

@[simp]
theorem length_window (slots : Fin capacity → Value) (start count : Nat) :
    (window slots start count).length = count := by
  simp [window]

theorem window_succ (slots : Fin capacity → Value) (start count : Nat) :
    window slots start (count + 1) =
      slots (Fin.ofNat capacity start) ::
        window slots (start + 1) count := by
  unfold window
  rw [List.range_succ_eq_map, List.map_cons, List.map_map]
  congr 1
  apply List.map_congr_left
  intro offset _
  rw [Function.comp_apply, Nat.add_right_comm, Nat.add_assoc]

theorem window_concat (slots : Fin capacity → Value)
    (start count : Nat) :
    window slots start (count + 1) =
      window slots start count ++
        [slots (Fin.ofNat capacity (start + count))] := by
  simp [window, List.range_succ]

/-- A whole revolution does not move a window. -/
theorem window_mod (slots : Fin capacity → Value) (start count : Nat) :
    window slots (start % capacity) count = window slots start count := by
  apply List.map_congr_left
  intro offset _
  congr 1
  apply Fin.ext
  simp

/-- A window only depends on the slots at its positions. -/
theorem window_congr {slots others : Fin capacity → Value}
    {start count : Nat}
    (same :
      ∀ offset, offset < count →
        slots (Fin.ofNat capacity (start + offset)) =
          others (Fin.ofNat capacity (start + offset))) :
    window slots start count = window others start count := by
  apply List.map_congr_left
  intro offset member
  exact same offset (List.mem_range.mp member)

/-- A window does not see a write behind it. -/
theorem window_update_after (slots : Fin capacity → Value)
    {start count position : Nat} (value : Value)
    (after : start + count ≤ position)
    (near : position < start + capacity) :
    window
        (Function.update slots (Fin.ofNat capacity position) value)
        start count =
      window slots start count := by
  apply window_congr
  intro offset inside
  exact
    Function.update_of_ne
      (ofNat_ne_of_lt (by omega) (by omega)) _ _

/-- A window does not see a write before it. -/
theorem window_update_before (slots : Fin capacity → Value)
    {start count position : Nat} (value : Value)
    (before : position < start)
    (near : start + count ≤ position + capacity) :
    window
        (Function.update slots (Fin.ofNat capacity position) value)
        start count =
      window slots start count := by
  apply window_congr
  intro offset inside
  exact
    Function.update_of_ne
      (ofNat_ne_of_lt (by omega) (by omega)).symm _ _

end Circular

/-! ## The ring -/

/-- A circular array with a read index, a write index and a count. -/
structure Ring (capacity : Nat) [NeZero capacity] (Value : Type u) where
  slots : Fin capacity → Value
  head : Fin capacity
  tail : Fin capacity
  count : Nat
  count_le : count ≤ capacity
  tail_eq : tail = Fin.ofNat capacity (head + count)

namespace Ring

variable {capacity : Nat} [NeZero capacity] {Value : Type u}

/-- A ring without elements, over memory that holds `blank`. -/
def blank (value : Value) : Ring capacity Value where
  slots _ := value
  head := 0
  tail := 0
  count := 0
  count_le := Nat.zero_le capacity
  tail_eq := rfl

/-- The elements, the oldest one first. -/
def toList (ring : Ring capacity Value) : List Value :=
  window ring.slots ring.head ring.count

@[simp]
theorem length_toList (ring : Ring capacity Value) :
    ring.toList.length = ring.count :=
  length_window ..

/-- The element that was read is skipped. -/
def pop (ring : Ring capacity Value) (occupied : 0 < ring.count) :
    Ring capacity Value where
  slots := ring.slots
  head := nextIndex ring.head
  tail := ring.tail
  count := ring.count - 1
  count_le := (Nat.sub_le ..).trans ring.count_le
  tail_eq := by
    rw [ring.tail_eq]
    apply Fin.ext
    simp only [nextIndex, Fin.val_ofNat, Nat.mod_add_mod]
    congr 1
    omega

/-- An element is written at the write index. -/
def append (ring : Ring capacity Value) (value : Value)
    (room : ring.count < capacity) : Ring capacity Value where
  slots := Function.update ring.slots ring.tail value
  head := ring.head
  tail := nextIndex ring.tail
  count := ring.count + 1
  count_le := room
  tail_eq := by
    rw [ring.tail_eq, nextIndex_ofNat]
    rfl

/-- The oldest element is dropped if there is no room. -/
def makeRoom (ring : Ring capacity Value) : Ring capacity Value :=
  if full : capacity ≤ ring.count then
    ring.pop (Nat.lt_of_lt_of_le (Nat.pos_of_neZero capacity) full)
  else ring

theorem makeRoom_count (ring : Ring capacity Value) :
    ring.makeRoom.count < capacity := by
  have positive := Nat.pos_of_neZero capacity
  have bounded := ring.count_le
  unfold makeRoom
  split
  · show ring.count - 1 < capacity
    omega
  · omega

/-- A new element; a full ring drops its oldest one first. -/
def push (ring : Ring capacity Value) (value : Value) :
    Ring capacity Value :=
  ring.makeRoom.append value ring.makeRoom_count

/-- A ring with elements shows the oldest one at its read index. -/
theorem toList_eq_cons (ring : Ring capacity Value)
    (occupied : 0 < ring.count) :
    ring.toList =
      ring.slots ring.head :: (ring.pop occupied).toList := by
  have counted : ring.count = (ring.count - 1) + 1 := by omega
  have front : Fin.ofNat capacity ring.head = ring.head :=
    Fin.ofNat_val_eq_self ring.head
  have rest :
      (ring.pop occupied).toList =
        window ring.slots (ring.head + 1) (ring.count - 1) :=
    window_mod ..
  rw [rest, toList, counted, window_succ, front, Nat.add_sub_cancel]

theorem toList_pop (ring : Ring capacity Value)
    (occupied : 0 < ring.count) :
    (ring.pop occupied).toList = ring.toList.tail := by
  rw [ring.toList_eq_cons occupied, List.tail_cons]

theorem toList_append (ring : Ring capacity Value) (value : Value)
    (room : ring.count < capacity) :
    (ring.append value room).toList = ring.toList ++ [value] := by
  show
    window (Function.update ring.slots ring.tail value) ring.head
        (ring.count + 1) =
      window ring.slots ring.head ring.count ++ [value]
  rw [ring.tail_eq, window_concat, Function.update_self,
    window_update_after _ _ (le_refl _) (by omega)]

/-- A ring behaves as a bounded queue. -/
theorem toList_push (ring : Ring capacity Value) (value : Value) :
    (ring.push value).toList =
      pushBounded capacity ring.toList value := by
  rw [push, toList_append, pushBounded, length_toList, makeRoom]
  split
  · rename_i full
    rw [if_neg (not_lt.mpr full), toList_pop]
  · rename_i free
    rw [if_pos (not_le.mp free)]

/-- A ring that was given an element is another one. -/
theorem push_ne (ring : Ring capacity Value) (value : Value)
    (wide : 1 < capacity) : ring.push value ≠ ring := by
  intro same
  have tail : nextIndex ring.makeRoom.tail = ring.tail :=
    congrArg Ring.tail same
  have kept : ring.makeRoom.tail = ring.tail := by
    unfold makeRoom
    split <;> rfl
  rw [kept] at tail
  have apart :
      Fin.ofNat capacity ring.tail ≠ Fin.ofNat capacity (ring.tail + 1) :=
    ofNat_ne_of_lt (Nat.lt_succ_self _) (by omega)
  rw [Fin.ofNat_val_eq_self] at apart
  exact apart tail.symm

/-- A loop over `remaining` elements from an index on. -/
def foldFrom {Result : Type v} (step : Result → Value → Result) :
    Nat → (Fin capacity → Value) → Fin capacity → Result → Result
  | 0, _, _, result => result
  | remaining + 1, slots, index, result =>
      foldFrom step remaining slots (nextIndex index)
        (step result (slots index))

theorem foldFrom_eq {Result : Type v} (step : Result → Value → Result)
    (remaining : Nat) (slots : Fin capacity → Value) (start : Nat)
    (result : Result) :
    foldFrom step remaining slots (Fin.ofNat capacity start) result =
      (window slots start remaining).foldl step result := by
  induction remaining generalizing start result with
  | zero => rfl
  | succ remaining induction =>
      rw [foldFrom, nextIndex_ofNat, induction, window_succ,
        List.foldl_cons]

/-- A loop over the elements, from the oldest one on. -/
def fold {Result : Type v} (ring : Ring capacity Value)
    (step : Result → Value → Result) (result : Result) : Result :=
  foldFrom step ring.count ring.slots ring.head result

theorem fold_eq {Result : Type v} (ring : Ring capacity Value)
    (step : Result → Value → Result) (result : Result) :
    ring.fold step result = ring.toList.foldl step result := by
  have loop := foldFrom_eq step ring.count ring.slots ring.head result
  rw [Fin.ofNat_val_eq_self] at loop
  exact loop

/-! ## Sweeping -/

/-- What a sweep leaves behind, and what it took. -/
structure Swept (capacity : Nat) (Value : Type u) where
  slots : Fin capacity → Value
  write : Fin capacity
  kept : Nat
  taken : List Value

/-- The slots after an element was moved forward to the write index. -/
def moveForward (slots : Fin capacity → Value)
    (read write : Fin capacity) : Fin capacity → Value :=
  if write ≠ read then Function.update slots write (slots read) else slots

/--
Moving an element forward puts it behind the kept ones, and does not touch
what is still to be read.
-/
theorem window_moveForward (slots : Fin capacity → Value) (start : Nat)
    {kept read remaining : Nat} (behind : kept ≤ read)
    (inside : read + remaining < capacity) :
    window
        (moveForward slots (Fin.ofNat capacity (start + read))
          (Fin.ofNat capacity (start + kept)))
        start (kept + 1) =
      window slots start kept ++
        [slots (Fin.ofNat capacity (start + read))] ∧
    window
        (moveForward slots (Fin.ofNat capacity (start + read))
          (Fin.ofNat capacity (start + kept)))
        (start + read + 1) remaining =
      window slots (start + read + 1) remaining := by
  rcases behind.eq_or_lt with rfl | before
  · rw [moveForward, if_neg (not_not.mpr rfl)]
    exact ⟨window_concat .., rfl⟩
  · have apart :
        Fin.ofNat capacity (start + kept) ≠
          Fin.ofNat capacity (start + read) :=
      ofNat_ne_of_lt (by omega) (by omega)
    rw [moveForward, if_pos apart]
    constructor
    · rw [window_concat, Function.update_self,
        window_update_after _ _ (le_refl _) (by omega)]
    · exact window_update_before _ _ (by omega) (by omega)

/--
The loop of a sweep over the remaining elements: a wanted one is taken, any
other is moved forward to the write index.
-/
def sweepFrom (wanted : Value → Bool) :
    Nat → (Fin capacity → Value) → Fin capacity → Fin capacity → Nat →
      Swept capacity Value
  | 0, slots, _, write, kept => ⟨slots, write, kept, []⟩
  | remaining + 1, slots, read, write, kept =>
      if wanted (slots read) then
        let rest :=
          sweepFrom wanted remaining slots (nextIndex read) write kept
        { rest with taken := slots read :: rest.taken }
      else
        sweepFrom wanted remaining (moveForward slots read write)
          (nextIndex read) (nextIndex write) (kept + 1)

/--
What a sweep leaves of the elements `rest` it has still to read, when it has
kept the elements `before`.
-/
structure SweepSpec (wanted : Value → Bool) (start : Nat)
    (before rest : List Value) (swept : Swept capacity Value) : Prop where
  taken : swept.taken = rest.filter wanted
  kept :
    swept.kept =
      before.length + (rest.filter fun value => !wanted value).length
  write : swept.write = Fin.ofNat capacity (start + swept.kept)
  elements :
    window swept.slots start swept.kept =
      before ++ rest.filter fun value => !wanted value

section SweepSteps

variable {wanted : Value → Bool} {start : Nat} {value : Value}
  {before rest : List Value} {swept : Swept capacity Value}

/-- A wanted element is taken before the rest. -/
theorem SweepSpec.take (wants : wanted value = true)
    (spec : SweepSpec wanted start before rest swept) :
    SweepSpec wanted start before (value :: rest)
      { swept with taken := value :: swept.taken } := by
  have dropped :
      ((value :: rest).filter fun value => !wanted value) =
        rest.filter fun value => !wanted value := by
    rw [List.filter_cons, wants]
    rfl
  refine ⟨?_, ?_, spec.write, ?_⟩
  · rw [List.filter_cons_of_pos wants]
    exact congrArg _ spec.taken
  · rw [dropped]
    exact spec.kept
  · rw [dropped]
    exact spec.elements

/-- Any other element is kept before the rest. -/
theorem SweepSpec.keep (other : ¬ wanted value = true)
    (spec : SweepSpec wanted start (before ++ [value]) rest swept) :
    SweepSpec wanted start before (value :: rest) swept := by
  have kept :
      ((value :: rest).filter fun value => !wanted value) =
        value :: rest.filter fun value => !wanted value := by
    rw [List.filter_cons, Bool.eq_false_of_not_eq_true other]
    rfl
  refine ⟨?_, ?_, spec.write, ?_⟩
  · rw [List.filter_cons_of_neg other]
    exact spec.taken
  · rw [kept, List.length_cons, spec.kept, List.length_append,
      List.length_singleton]
    omega
  · rw [kept, spec.elements, List.append_assoc, List.singleton_append]

end SweepSteps

/-- The loop takes the wanted elements and keeps the others in order. -/
theorem sweepFrom_spec (wanted : Value → Bool) (start : Nat)
    {remaining : Nat} (slots : Fin capacity → Value) {kept read : Nat}
    (behind : kept ≤ read) (inside : read + remaining ≤ capacity) :
    SweepSpec wanted start (window slots start kept)
      (window slots (start + read) remaining)
      (sweepFrom wanted remaining slots
        (Fin.ofNat capacity (start + read))
        (Fin.ofNat capacity (start + kept)) kept) := by
  induction remaining generalizing slots kept read with
  | zero =>
      refine ⟨rfl, ?_, rfl, (List.append_nil _).symm⟩
      rw [length_window]
      rfl
  | succ remaining induction =>
      rw [sweepFrom, window_succ, nextIndex_ofNat, nextIndex_ofNat]
      split
      · rename_i wants
        have next : kept ≤ read + 1 := by omega
        exact (induction slots next (by omega)).take wants
      · rename_i other
        have next : kept + 1 ≤ read + 1 := by omega
        have moved := window_moveForward slots start behind inside
        have rest :=
          induction
            (moveForward slots (Fin.ofNat capacity (start + read))
              (Fin.ofNat capacity (start + kept)))
            next (by omega)
        rw [moved.1, ← Nat.add_assoc start read, moved.2] at rest
        exact rest.keep other

/-- The sweep of a ring, from its oldest element on. -/
def swept (ring : Ring capacity Value) (wanted : Value → Bool) :
    Swept capacity Value :=
  sweepFrom wanted ring.count ring.slots ring.head ring.head 0

theorem swept_spec (ring : Ring capacity Value) (wanted : Value → Bool) :
    SweepSpec wanted ring.head [] ring.toList (ring.swept wanted) := by
  have spec :=
    sweepFrom_spec wanted ring.head ring.slots (le_refl 0)
      ((Nat.zero_add _).trans_le ring.count_le)
  rw [Nat.add_zero, Fin.ofNat_val_eq_self] at spec
  exact spec

/-- Takes the wanted elements out and closes the gaps. -/
def sweep (ring : Ring capacity Value) (wanted : Value → Bool) :
    Ring capacity Value where
  slots := (ring.swept wanted).slots
  head := ring.head
  tail := (ring.swept wanted).write
  count := (ring.swept wanted).kept
  count_le := by
    have shorter :=
      List.length_filter_le (fun value => !wanted value) ring.toList
    rw [length_toList] at shorter
    rw [(ring.swept_spec wanted).kept, List.length_nil, Nat.zero_add]
    exact shorter.trans ring.count_le
  tail_eq := (ring.swept_spec wanted).write

/-- What a sweep takes. -/
theorem swept_taken (ring : Ring capacity Value)
    (wanted : Value → Bool) :
    (ring.swept wanted).taken = ring.toList.filter wanted :=
  (ring.swept_spec wanted).taken

/-- What a sweep leaves. -/
theorem toList_sweep (ring : Ring capacity Value)
    (wanted : Value → Bool) :
    (ring.sweep wanted).toList =
      ring.toList.filter fun value => !wanted value :=
  (ring.swept_spec wanted).elements

end Ring

end SlpClient.Lib
