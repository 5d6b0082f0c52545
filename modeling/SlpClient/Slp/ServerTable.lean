import SlpClient.Slp.Servers

/-!
# The server table

`slpServersParse` looks for the next newline in what is left of its text and
stores the entries it reads in an array, until the array is full.  Afterwards
the table has the entries of the lines of the text, in order, whatever was in
the array before.  A newline separates the text before it from that after it.
-/

namespace SlpClient.Slp

/-- `g_servers` and `g_count`. -/
structure ServerTable where
  servers : Fin 10 → SlpServer
  count : Nat

namespace ServerTable

/-- `g_servers[n++] = srv`. -/
def push (table : ServerTable) (server : SlpServer) : ServerTable where
  servers :=
    Function.update table.servers (Fin.ofNat 10 table.count) server
  count := table.count + 1

/-- The effect of a line on the table. -/
def addLine (table : ServerTable) (line : List UInt8) : ServerTable :=
  match parseLine line with
  | some server => table.push server
  | none => table

/--
The loop of `slpServersParse` over what is left of the text; the number of
entries so far is the count.
-/
def scanText (table : ServerTable) (text : List UInt8) : ServerTable :=
  if table.count < slpcfgMaxServers ∧ 0 < text.length then
    let line := text.takeWhile (· ≠ 10)
    if 10 ∈ text then
      (table.addLine line).scanText (text.drop (line.length + 1))
    else table.addLine line
  else table
termination_by text.length
decreasing_by
  rw [List.length_drop]
  omega

/-- `slpServersParse`. -/
def slpServersParse (table : ServerTable) (text : List UInt8) :
    ServerTable × Nat :=
  (({ table with count := 0 } : ServerTable).scanText text,
    (({ table with count := 0 } : ServerTable).scanText text).count)

/-- `slpServersCount`. -/
def slpServersCount (table : ServerTable) : Nat :=
  table.count

/-- `slpServersGet`. -/
def slpServersGet (table : ServerTable) (index : Int) :
    Option SlpServer :=
  if index < 0 ∨ index ≥ table.count then none
  else some (table.servers (Fin.ofNat 10 index.toNat))

/-- The list that the table is. -/
def entries (table : ServerTable) : List SlpServer :=
  (List.range table.slpServersCount).filterMap
    fun index : Nat => table.slpServersGet index

/-! ## Pushing -/

theorem entries_eq (table : ServerTable) :
    table.entries =
      (List.range table.count).map fun index =>
        table.servers (Fin.ofNat 10 index) := by
  unfold entries slpServersCount
  rw [← List.filterMap_eq_map]
  apply List.filterMap_congr
  intro index member
  have inside := List.mem_range.mp member
  unfold slpServersGet
  rw [if_neg (by omega)]
  rfl

theorem length_entries (table : ServerTable) :
    table.entries.length = table.slpServersCount := by
  rw [entries_eq, List.length_map, List.length_range]
  rfl

theorem entries_push (table : ServerTable) (server : SlpServer)
    (room : table.count < 10) :
    (table.push server).entries = table.entries ++ [server] := by
  rw [entries_eq, entries_eq]
  show (List.range (table.count + 1)).map _ = _
  rw [List.range_succ, List.map_append]
  congr 1
  · apply List.map_congr_left
    intro index member
    have inside := List.mem_range.mp member
    apply Function.update_of_ne
    intro same
    have equal : index % 10 = table.count % 10 := congrArg Fin.val same
    omega
  · exact congrArg (fun server => [server]) (Function.update_self ..)

/-! ## Lines -/

end ServerTable

theorem linesOf_cons (byte : UInt8) (text : List UInt8) :
    linesOf (byte :: text) =
      if byte = 10 then [] :: linesOf text
      else
        match linesOf text with
        | [] => [[byte]]
        | line :: lines => (byte :: line) :: lines :=
  rfl

/-- The first line of a text ends at the first newline. -/
theorem linesOf_eq {text : List UInt8} (nonempty : text ≠ []) :
    linesOf text =
      text.takeWhile (· ≠ 10) ::
        if 10 ∈ text then
          linesOf (text.drop ((text.takeWhile (· ≠ 10)).length + 1))
        else [] := by
  induction text with
  | nil => exact absurd rfl nonempty
  | cons byte rest induction =>
      rw [linesOf_cons]
      by_cases newline : byte = 10
      · rw [newline, List.takeWhile_cons_of_neg (by simp)]
        simp
      · rw [if_neg newline, List.takeWhile_cons_of_pos (by simp [newline])]
        simp only [List.mem_cons, Ne.symm newline, false_or,
          List.length_cons, List.drop_succ_cons]
        cases rest with
        | nil => rfl
        | cons next rest => rw [induction (List.cons_ne_nil _ _)]

/-- The lines around a newline; an empty one may come in between. -/
theorem linesOf_append (first second : List UInt8) :
    ∃ blank, (blank = [] ∨ blank = [[]]) ∧
      linesOf (first ++ 10 :: second) =
        linesOf first ++ blank ++ linesOf second := by
  induction first with
  | nil => exact ⟨[[]], .inr rfl, rfl⟩
  | cons byte rest induction =>
      rcases induction with ⟨blank, short, lines⟩
      rw [List.cons_append, linesOf_cons, linesOf_cons, lines]
      by_cases newline : byte = 10
      · refine ⟨blank, short, ?_⟩
        rw [if_pos newline, if_pos newline]
        rfl
      · rw [if_neg newline, if_neg newline]
        cases rest with
        | nil =>
            refine ⟨[], .inl rfl, ?_⟩
            rw [← lines]
            rfl
        | cons next rest =>
            refine ⟨blank, short, ?_⟩
            rw [linesOf_eq (List.cons_ne_nil next rest)]
            rfl

theorem parseLine_nil : parseLine [] = none := by
  simp [parseLine, lineText, trim]

/-- A newline separates the entries of the lines around it. -/
theorem filterMap_linesOf_append (first second : List UInt8) :
    (linesOf (first ++ 10 :: second)).filterMap parseLine =
      (linesOf first).filterMap parseLine ++
        (linesOf second).filterMap parseLine := by
  rcases linesOf_append first second with ⟨blank, rfl | rfl, lines⟩
  · rw [lines, List.append_nil, List.filterMap_append]
  · rw [lines, List.filterMap_append, List.filterMap_append]
    simp [parseLine_nil]

/-! ## The loop -/

namespace ServerTable

theorem entries_addLine (table : ServerTable) (line : List UInt8)
    (room : table.count < 10) :
    (table.addLine line).entries =
      table.entries ++ (parseLine line).toList := by
  unfold addLine
  cases parseLine line with
  | none => exact (List.append_nil _).symm
  | some server => exact table.entries_push server room

theorem count_addLine_le (table : ServerTable) (line : List UInt8) :
    (table.addLine line).count ≤ table.count + 1 := by
  unfold addLine
  cases parseLine line with
  | none => exact Nat.le_succ _
  | some server => exact le_rfl

theorem filterMap_cons_toList (line : List UInt8)
    (lines : List (List UInt8)) :
    (line :: lines).filterMap parseLine =
      (parseLine line).toList ++ lines.filterMap parseLine := by
  rw [List.filterMap_cons]
  cases parseLine line with
  | none => rfl
  | some server => rfl

/-- The loop adds the entries of the text while there is room. -/
theorem entries_scanText (table : ServerTable) (text : List UInt8)
    (bounded : table.count ≤ 10) :
    (table.scanText text).entries =
      (table.entries ++ (linesOf text).filterMap parseLine).take 10 := by
  fun_induction scanText table text with
  | case1 table text more line newline induction =>
      have room : table.count < 10 := more.1
      have grown := table.count_addLine_le line
      rw [induction (by omega), entries_addLine table line room,
        linesOf_eq (List.length_pos_iff.mp more.2), if_pos newline,
        filterMap_cons_toList, List.append_assoc]
  | case2 table text more line last =>
      have room : table.count < 10 := more.1
      have grown := table.count_addLine_le line
      have entered := entries_addLine table line room
      rw [linesOf_eq (List.length_pos_iff.mp more.2), if_neg last,
        filterMap_cons_toList, List.filterMap_nil, List.append_nil,
        ← entered, List.take_of_length_le]
      rw [length_entries]
      show (table.addLine line).count ≤ 10
      omega
  | case3 table text done =>
      have length : table.entries.length = table.count :=
        table.length_entries
      by_cases full : table.count < 10
      · have empty : text = [] := by
          by_contra nonempty
          exact done ⟨full, List.length_pos_iff.mpr nonempty⟩
        subst empty
        show _ = (table.entries ++ []).take 10
        rw [List.append_nil, List.take_of_length_le (by omega)]
      · rw [List.take_append_of_le_length (by omega),
          List.take_of_length_le (by omega)]

/-- After a text the table has its entries. -/
theorem entries_slpServersParse (table : ServerTable)
    (text : List UInt8) :
    (table.slpServersParse text).1.entries = Slp.slpServersParse text := by
  unfold slpServersParse Slp.slpServersParse
  rw [entries_scanText _ text (Nat.zero_le _), parseLines_eq_take]
  rfl

theorem take_append_take {Entry : Type} (room : Nat)
    (first second : List Entry) :
    (first ++ second).take room =
      (first.take room ++ second.take room).take room := by
  have left : room - min room first.length = room - first.length := by
    omega
  rw [List.take_append, List.take_append, List.take_take, List.take_take,
    List.length_take, left, Nat.min_self,
    Nat.min_eq_left (Nat.sub_le ..)]

/--
What is parsed from two texts with a newline between them is what is parsed
from the one and then from the other, up to ten entries, and the value that is
returned and the count afterwards say how many these are.
-/
theorem slpServersParse_newline (table first second : ServerTable)
    (before after : List UInt8) :
    (table.slpServersParse (before ++ 10 :: after)).1.entries =
        ((first.slpServersParse before).1.entries ++
          (second.slpServersParse after).1.entries).take
            slpcfgMaxServers ∧
      (table.slpServersParse (before ++ 10 :: after)).2 =
        (table.slpServersParse
          (before ++ 10 :: after)).1.entries.length ∧
      (table.slpServersParse (before ++ 10 :: after)).1.slpServersCount =
        (table.slpServersParse
          (before ++ 10 :: after)).1.entries.length := by
  rw [length_entries]
  refine ⟨?_, rfl, rfl⟩
  rw [entries_slpServersParse, entries_slpServersParse,
    entries_slpServersParse]
  unfold Slp.slpServersParse
  rw [parseLines_eq_take, parseLines_eq_take, parseLines_eq_take,
    filterMap_linesOf_append]
  exact take_append_take ..

end ServerTable

end SlpClient.Slp
