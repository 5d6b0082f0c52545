import Mathlib.Data.List.OfFn

/-!
# Strings cut every `stride` places

A string is cut into chunks of equal length, the last of which may be shorter.
Chunks are copied in any order into a flat buffer, each at its own multiple of
the stride.  Once every chunk has been copied the buffer starts with the
string.
-/

namespace SlpClient.Lib

variable {α : Type} {capacity : Nat}

/-- Chunk number `index` of a string cut every `stride` places. -/
def chunk (stride : Nat) (whole : List α) (index : Nat) : List α :=
  (whole.drop (stride * index)).take stride

/-- How many chunks a string has. -/
def chunkCount (stride : Nat) (whole : List α) : Nat :=
  (whole.length + stride - 1) / stride

theorem chunk_length (stride : Nat) (whole : List α) (index : Nat) :
    (chunk stride whole index).length =
      min stride (whole.length - stride * index) := by
  simp [chunk]

theorem chunk_length_le (stride : Nat) (whole : List α) (index : Nat) :
    (chunk stride whole index).length ≤ stride := by
  rw [chunk_length]
  exact Nat.min_le_left ..

/-- A place of the string lies in one of its chunks. -/
theorem div_lt_chunkCount
    {stride : Nat} (positive : 0 < stride) {whole : List α} {place : Nat}
    (inside : place < whole.length) :
    place / stride < chunkCount stride whole := by
  have shifted :
      (place + stride) / stride ≤ (whole.length + stride - 1) / stride :=
    Nat.div_le_div_right (by omega)
  rw [Nat.add_div_right _ positive] at shifted
  exact shifted

/-- A chunk starts inside the string. -/
theorem mul_lt_of_lt_chunkCount
    {stride : Nat} {whole : List α} {index : Nat}
    (counted : index < chunkCount stride whole) :
    stride * index < whole.length := by
  rcases Nat.eq_zero_or_pos stride with rfl | positive
  · simp [chunkCount] at counted
  · have reached : (index + 1) * stride ≤ whole.length + stride - 1 :=
      (Nat.le_div_iff_mul_le positive).mp counted
    have expanded : (index + 1) * stride = stride * index + stride := by
      rw [Nat.add_mul, Nat.one_mul, Nat.mul_comm]
    omega

/-- A string of at least one stride and one place has at least two chunks. -/
theorem one_lt_chunkCount
    {stride : Nat} (positive : 0 < stride) {whole : List α}
    (long : stride < whole.length) :
    1 < chunkCount stride whole := by
  have second := div_lt_chunkCount positive long
  rwa [Nat.div_self positive] at second

/-- The last chunk ends where the string ends. -/
theorem chunk_last_end
    {stride : Nat} (positive : 0 < stride) {whole : List α}
    (nonempty : 0 < whole.length) :
    stride * (chunkCount stride whole - 1) +
        (chunk stride whole (chunkCount stride whole - 1)).length =
      whole.length := by
  have counted : 0 < chunkCount stride whole := by
    have first := div_lt_chunkCount positive nonempty
    exact Nat.zero_lt_of_lt first
  have starts :
      stride * (chunkCount stride whole - 1) < whole.length :=
    mul_lt_of_lt_chunkCount (by omega)
  have covered :
      whole.length + stride - 1 <
        stride * chunkCount stride whole + stride := by
    have below := Nat.lt_mul_div_succ (whole.length + stride - 1) positive
    rw [Nat.mul_add, Nat.mul_one] at below
    exact below
  have split :
      stride * chunkCount stride whole =
        stride * (chunkCount stride whole - 1) + stride := by
    rw [← Nat.mul_succ]
    congr 1
    omega
  rw [chunk_length]
  omega

/-! ## Copying into a buffer -/

/-- `memcpy` of `bytes` to `offset` of a fixed-size buffer. -/
def blit (buffer : Fin capacity → α) (offset : Nat) (bytes : List α) :
    Fin capacity → α :=
  fun place =>
    if inside : offset ≤ place ∧ place - offset < bytes.length then
      bytes.get ⟨place - offset, inside.2⟩
    else buffer place

/-- The buffer agrees with `whole` on the places of chunk `index`. -/
def CarriesChunk
    (buffer : Fin capacity → α) (stride : Nat) (whole : List α)
    (index : Nat) : Prop :=
  ∀ (place : Fin capacity) (inside : place < whole.length),
    place / stride = index → buffer place = whole.get ⟨place, inside⟩

/-- Copying a chunk to its place makes the buffer carry it. -/
theorem blit_carriesChunk
    (buffer : Fin capacity → α) {stride : Nat} (positive : 0 < stride)
    (whole : List α) (index : Nat) :
    CarriesChunk (blit buffer (stride * index) (chunk stride whole index))
      stride whole index := by
  intro place inside located
  have starts : stride * index ≤ place := by
    rw [← located]
    exact Nat.mul_div_le ..
  have ends : place.val < stride * index + stride := by
    have below := Nat.lt_mul_div_succ place.val positive
    rw [located, Nat.mul_add, Nat.mul_one] at below
    exact below
  have copied :
      place - stride * index < (chunk stride whole index).length := by
    rw [chunk_length]
    omega
  unfold blit
  rw [dif_pos ⟨starts, copied⟩]
  simp only [chunk, List.get_eq_getElem, List.getElem_take,
    List.getElem_drop]
  congr 1
  omega

/-- Copying a chunk disturbs no other chunk. -/
theorem CarriesChunk.blit_other
    {buffer : Fin capacity → α} {stride : Nat} {whole : List α}
    {index other : Nat} (carried : CarriesChunk buffer stride whole other)
    (distinct : other ≠ index) :
    CarriesChunk (blit buffer (stride * index) (chunk stride whole index))
      stride whole other := by
  intro place inside located
  rw [← carried place inside located]
  unfold blit
  rw [dif_neg]
  rintro ⟨starts, copied⟩
  have short := chunk_length_le stride whole index
  apply distinct
  rw [← located]
  rw [Nat.div_eq_iff (by omega)]
  constructor
  · rw [Nat.mul_comm]
    exact starts
  · rw [Nat.mul_comm]
    omega

/-- A buffer that carries every chunk starts with the string. -/
theorem take_ofFn_of_carriesChunk
    {buffer : Fin capacity → α} {stride : Nat} (positive : 0 < stride)
    {whole : List α} (fits : whole.length ≤ capacity)
    (carried :
      ∀ index < chunkCount stride whole,
        CarriesChunk buffer stride whole index) :
    (List.ofFn buffer).take whole.length = whole := by
  apply List.ext_getElem
  · simp [fits]
  · intro place left right
    have bound : place < capacity := by omega
    have agrees :=
      carried (place / stride) (div_lt_chunkCount positive right)
        ⟨place, bound⟩ right rfl
    simpa using agrees

/-- A copy at `offset` leaves what is before it and puts the bytes there. -/
theorem take_ofFn_blit (buffer : Fin capacity → α) {offset : Nat}
    {bytes : List α} (fits : offset + bytes.length ≤ capacity) :
    (List.ofFn (blit buffer offset bytes)).take (offset + bytes.length) =
      (List.ofFn buffer).take offset ++ bytes := by
  apply List.ext_getElem
  · simp only [List.length_take, List.length_append, List.length_ofFn]
    omega
  · intro place left right
    simp only [List.getElem_take, List.getElem_ofFn, blit]
    split
    next inside =>
      rw [List.getElem_append_right (by simp; omega)]
      simp only [List.get_eq_getElem]
      congr 1
      simp
      omega
    next outside =>
      have early : place < offset := by
        simp only [List.length_take, List.length_ofFn] at left
        omega
      rw [List.getElem_append_left (by simp; omega)]
      simp

end SlpClient.Lib
