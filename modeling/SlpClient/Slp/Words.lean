import SlpClient.Slp.Servers

/-!
# Words of a text

What `sscanf` reads with fields of some widths from a text of words with
blanks between them.  A word that fits in its field is read whole, a longer
one fills its field and goes on in the next one, and blanks at the end of the
text do not matter.  A text that is cut off somewhere loses words and a part
of one at its end.
-/

namespace SlpClient.Slp

/-- A word of a text: not empty, and without blanks. -/
structure IsWord (word : List UInt8) : Prop where
  nonempty : word ≠ []
  solid : ∀ byte ∈ word, isSpace byte = false

/-- The text goes on with a blank, if it goes on. -/
def Breaks (text : List UInt8) : Prop :=
  ∀ byte ∈ text.head?, isSpace byte = true

/-- Words with a blank before each of them. -/
def spaced (words : List (List UInt8)) : List UInt8 :=
  words.flatMap (32 :: ·)

theorem spaced_cons (word : List UInt8) (words : List (List UInt8)) :
    spaced (word :: words) = 32 :: (word ++ spaced words) :=
  rfl

theorem breaks_take_spaced (words : List (List UInt8)) (size : Nat) :
    Breaks ((spaced words).take size) := by
  cases words with
  | nil => simp [Breaks, spaced]
  | cons word words =>
      cases size with
      | zero => simp [Breaks]
      | succ size => simp [Breaks, spaced_cons, isSpace]

namespace IsWord

variable {word : List UInt8}

theorem dropWhile_append (isWord : IsWord word) (rest : List UInt8) :
    (word ++ rest).dropWhile isSpace = word ++ rest := by
  rcases word with _ | ⟨byte, tail⟩
  · exact absurd rfl isWord.nonempty
  · have solid := isWord.solid byte List.mem_cons_self
    rw [List.cons_append, List.dropWhile_cons_of_neg (by simp [solid])]

theorem takeWhile_append (isWord : IsWord word) (rest : List UInt8) :
    (word ++ rest).takeWhile (!isSpace ·) =
      word ++ rest.takeWhile (!isSpace ·) := by
  apply List.takeWhile_append_of_pos
  intro byte member
  rw [isWord.solid byte member]
  rfl

theorem take (isWord : IsWord word) {size : Nat} (positive : 0 < size) :
    IsWord (word.take size) where
  nonempty empty := by
    rcases List.take_eq_nil_iff.mp empty with zero | empty
    · omega
    · exact isWord.nonempty empty
  solid byte member := isWord.solid byte (List.mem_of_mem_take member)

end IsWord

theorem takeWhile_of_breaks {text : List UInt8} (breaks : Breaks text) :
    text.takeWhile (!isSpace ·) = [] := by
  cases text with
  | nil => rfl
  | cons byte rest =>
      have blank := breaks byte rfl
      rw [List.takeWhile_cons_of_neg (by simp [blank])]

theorem Breaks.take {text : List UInt8} (breaks : Breaks text)
    (size : Nat) : Breaks (text.take size) := by
  cases text with
  | nil => simpa using breaks
  | cons byte rest =>
      cases size with
      | zero => simp [Breaks]
      | succ size => exact breaks

/-! ## Fields -/

theorem sscanfWords_space (widths : List Nat) (text : List UInt8) :
    sscanfWords widths (32 :: text) = sscanfWords widths text := by
  cases widths with
  | nil => rfl
  | cons width widths => simp [sscanfWords, isSpace]

theorem sscanfWords_of_read {text field word : List UInt8} {width : Nat}
    (skipped : text.dropWhile isSpace = field)
    (read : (field.take width).takeWhile (!isSpace ·) = word)
    (nonempty : word ≠ []) (widths : List Nat) :
    sscanfWords (width :: widths) text =
      word :: sscanfWords widths (field.drop word.length) := by
  subst skipped read
  exact if_neg nonempty

/-- A word that fits in its field is read whole. -/
theorem sscanfWords_word {word rest : List UInt8} {width : Nat}
    (isWord : IsWord word) (fits : word.length ≤ width)
    (breaks : Breaks rest) (widths : List Nat) :
    sscanfWords (width :: widths) (word ++ rest) =
      word :: sscanfWords widths rest := by
  have read :
      ((word ++ rest).take width).takeWhile (!isSpace ·) = word := by
    rw [List.take_append, List.take_of_length_le fits,
      isWord.takeWhile_append, takeWhile_of_breaks (breaks.take _),
      List.append_nil]
  rw [sscanfWords_of_read (isWord.dropWhile_append rest) read
    isWord.nonempty, List.drop_left]

/-- A longer word fills its field and goes on in the next one. -/
theorem sscanfWords_long {word : List UInt8} {width : Nat}
    (isWord : IsWord word) (positive : 0 < width)
    (long : width < word.length) (widths : List Nat)
    (rest : List UInt8) :
    sscanfWords (width :: widths) (word ++ rest) =
      word.take width ::
        sscanfWords widths (word.drop width ++ rest) := by
  have part := isWord.take positive
  have read :
      ((word ++ rest).take width).takeWhile (!isSpace ·) =
        word.take width := by
    rw [List.take_append_of_le_length long.le,
      ← List.append_nil (word.take width), part.takeWhile_append]
    rfl
  have length : (word.take width).length = width := by
    rw [List.length_take]
    omega
  rw [sscanfWords_of_read (isWord.dropWhile_append rest) read
    part.nonempty, length, List.drop_append_of_le_length long.le]

/-- The first byte of the first word does not depend on the width. -/
theorem sscanfWords_eq_nil_or (width : Nat) (widths : List Nat)
    (text : List UInt8) :
    text.dropWhile isSpace = [] ∧
        sscanfWords ((width + 1) :: widths) text = [] ∨
      ∃ byte rest word words,
        text.dropWhile isSpace = byte :: rest ∧
          sscanfWords ((width + 1) :: widths) text =
            (byte :: word) :: words := by
  cases field : text.dropWhile isSpace with
  | nil =>
      refine .inl ⟨rfl, ?_⟩
      rw [sscanfWords, field]
      rfl
  | cons byte rest =>
      have solid : isSpace byte = false := by
        have first := List.head?_dropWhile_not isSpace text
        rw [field] at first
        simpa using first
      have read :
          ((byte :: rest).take (width + 1)).takeWhile (!isSpace ·) =
            byte :: (rest.take width).takeWhile (!isSpace ·) := by
        rw [List.take_succ_cons,
          List.takeWhile_cons_of_pos (by simp [solid])]
      exact
        .inr ⟨byte, rest, _, _, rfl,
          sscanfWords_of_read field read (List.cons_ne_nil _ _) widths⟩

/-! ## Blanks at the end -/

/-- Blanks at the end of the text do not matter. -/
theorem sscanfWords_append_blanks {blanks : List UInt8}
    (blank : ∀ byte ∈ blanks, isSpace byte = true) (widths : List Nat)
    (text : List UInt8) :
    sscanfWords widths (text ++ blanks) = sscanfWords widths text := by
  induction widths generalizing text with
  | nil => rfl
  | cons width widths induction =>
      have blankPart :
          ∀ size, (blanks.take size).takeWhile (!isSpace ·) = [] := by
        intro size
        apply takeWhile_of_breaks
        intro byte first
        exact
          blank byte (List.mem_of_mem_take (List.mem_of_mem_head? first))
      have fieldEq :
          (text ++ blanks).dropWhile isSpace =
              text.dropWhile isSpace ++ blanks ∨
            (text ++ blanks).dropWhile isSpace = [] ∧
              text.dropWhile isSpace = [] := by
        rw [List.dropWhile_append]
        split
        · rename_i empty
          refine .inr ⟨?_, List.isEmpty_iff.mp empty⟩
          exact List.dropWhile_eq_nil_iff.mpr blank
        · exact .inl rfl
      rw [sscanfWords, sscanfWords]
      rcases fieldEq with field | ⟨field, empty⟩
      · have same :
            ((text.dropWhile isSpace ++ blanks).take width).takeWhile
                (!isSpace ·) =
              ((text.dropWhile isSpace).take width).takeWhile
                (!isSpace ·) := by
          rw [List.take_append, List.takeWhile_append, blankPart,
            List.append_nil]
          split
          · rename_i whole
            exact ((List.takeWhile_prefix _).eq_of_length whole).symm
          · rfl
        have inside :
            (((text.dropWhile isSpace).take width).takeWhile
              (!isSpace ·)).length ≤ (text.dropWhile isSpace).length :=
          ((List.takeWhile_prefix _).length_le).trans
            (List.length_take_le' ..)
        simp only [field, same]
        rw [List.drop_append_of_le_length inside, induction]
      · simp only [field, empty]

/-! ## Texts that are cut off -/

/-- The words of a spaced text that is cut off. -/
def cutWords : Nat → List (List UInt8) → List (List UInt8)
  | _, [] => []
  | size, word :: words =>
      if size ≤ 1 then []
      else
        word.take (size - 1) :: cutWords (size - 1 - word.length) words

/-- Words that fit in their fields are read as far as the text goes. -/
theorem sscanfWords_take_spaced {words : List (List UInt8)}
    (isWords : ∀ word ∈ words, IsWord word) {widths : List Nat}
    (fit : ∀ word ∈ words, ∀ width ∈ widths, word.length ≤ width)
    (enough : words.length ≤ widths.length) (size : Nat) :
    sscanfWords widths ((spaced words).take size) =
      cutWords size words := by
  induction words generalizing widths size with
  | nil =>
      show sscanfWords widths (List.take size []) = []
      rw [List.take_nil, sscanfWords_nil]
  | cons word words induction =>
      rcases widths with _ | ⟨width, widths⟩
      · exact absurd enough (by simp)
      · unfold cutWords
        rw [spaced_cons]
        rcases size with _ | _ | size
        · exact sscanfWords_nil _
        · rw [if_pos (by omega), List.take_succ_cons, sscanfWords_space]
          exact sscanfWords_nil _
        · have isWord := isWords word List.mem_cons_self
          have part := isWord.take (Nat.succ_pos size)
          have fits :
              (word.take (size + 1)).length ≤ width :=
            (List.length_take_le' ..).trans
              (fit word List.mem_cons_self width List.mem_cons_self)
          rw [if_neg (by omega), List.take_succ_cons, sscanfWords_space,
            List.take_append,
            sscanfWords_word part fits (breaks_take_spaced _ _)]
          congr 1
          apply induction
          · intro other member
            exact isWords other (List.mem_cons_of_mem _ member)
          · intro other member field listed
            exact
              fit other (List.mem_cons_of_mem _ member) field
                (List.mem_cons_of_mem _ listed)
          · exact Nat.le_of_succ_le_succ enough

/-- The first word of a spaced text starts as it does in a wider field. -/
theorem head_sscanfWords_spaced {words : List (List UInt8)}
    (isWords : ∀ word ∈ words, IsWord word) {size : Nat}
    (room : 2 ≤ size) (width : Nat) (widths : List Nat) :
    (words = [] ∧
        sscanfWords ((width + 1) :: widths) ((spaced words).take size) =
          []) ∨
      ∃ first ∈ words.head?, ∃ part more,
        sscanfWords ((width + 1) :: widths) ((spaced words).take size) =
            part :: more ∧
          part.head? = first.head? := by
  rcases words with _ | ⟨first, words⟩
  · refine .inl ⟨rfl, ?_⟩
    show sscanfWords _ (List.take size []) = []
    rw [List.take_nil, sscanfWords_nil]
  · right
    refine ⟨first, rfl, ?_⟩
    obtain ⟨more, rfl⟩ : ∃ more, size = more + 2 :=
      ⟨size - 2, by omega⟩
    have part := (isWords first List.mem_cons_self).take (Nat.succ_pos more)
    rw [spaced_cons, List.take_succ_cons, sscanfWords_space,
      List.take_append]
    rcases
      sscanfWords_eq_nil_or width widths
        (first.take (more + 1) ++
          (spaced words).take (more + 1 - first.length)) with
      ⟨empty, -⟩ | ⟨byte, rest, word, others, field, read⟩
    · rw [part.dropWhile_append] at empty
      exact absurd (List.append_eq_nil_iff.mp empty).1 part.nonempty
    · refine ⟨_, _, read, ?_⟩
      rw [part.dropWhile_append] at field
      rcases first with _ | ⟨head, tail⟩
      · exact absurd rfl part.nonempty
      · rw [List.take_succ_cons, List.cons_append] at field
        rw [(List.cons.inj field).1]
        rfl

/-- The words are all there exactly when nothing was cut off. -/
theorem cutWords_eq_iff {words : List (List UInt8)}
    (nonempty : ∀ word ∈ words, word ≠ []) (size : Nat) :
    cutWords size words = words ↔ (spaced words).length ≤ size := by
  induction words generalizing size with
  | nil => simp [cutWords, spaced]
  | cons word words induction =>
      have positive :=
        List.length_pos_iff.mpr (nonempty word List.mem_cons_self)
      have rest :=
        induction
          (fun other member =>
            nonempty other (List.mem_cons_of_mem _ member))
          (size - 1 - word.length)
      rw [spaced_cons, List.length_cons, List.length_append]
      unfold cutWords
      split
      · exact iff_of_false (List.cons_ne_nil _ _).symm (by omega)
      · rw [List.cons.injEq, rest, List.take_eq_self_iff]
        omega

theorem length_cutWords_le (words : List (List UInt8)) (size : Nat) :
    (cutWords size words).length ≤ words.length := by
  induction words generalizing size with
  | nil => exact le_rfl
  | cons word words induction =>
      unfold cutWords
      split
      · exact Nat.zero_le _
      · exact Nat.succ_le_succ (induction _)

/-- What is left of a word is a beginning of one of the words. -/
theorem exists_of_mem_cutWords {words : List (List UInt8)} {size : Nat}
    {part : List UInt8} (member : part ∈ cutWords size words) :
    ∃ word ∈ words, ∃ length, 0 < length ∧ part = word.take length := by
  induction words generalizing size with
  | nil => exact absurd member List.not_mem_nil
  | cons word words induction =>
      unfold cutWords at member
      split at member
      · exact absurd member List.not_mem_nil
      · rcases List.mem_cons.mp member with rfl | later
        · exact
            ⟨word, List.mem_cons_self, size - 1, by omega, rfl⟩
        · rcases induction later with ⟨other, listed, length, found⟩
          exact ⟨other, List.mem_cons_of_mem _ listed, length, found⟩

end SlpClient.Slp
