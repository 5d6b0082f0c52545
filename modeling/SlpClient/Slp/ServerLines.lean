import SlpClient.Slp.ServerTable
import SlpClient.Slp.Words

/-!
# The documented server lines

A line has a name, a host, a port and possibly a login, and the port stands
by itself or is glued to the host.  The parser reads back what a line was
written from, with three kinds of exceptions.  The line buffer holds 167
bytes, which a host of full length and a login do not fit in.  A glued port
makes a long host longer than its field.  And after a glued port, a user name
that starts with a digit is taken for the port.
-/

namespace SlpClient.Slp

/-- What a documented line is written from; a login is up to two words. -/
structure ServerLine where
  name : List UInt8
  host : List UInt8
  digits : List UInt8
  login : List (List UInt8)

/-- `name host port` and `name host:port`. -/
inductive LineForm
  | spaced
  | glued

/-- No blank, no terminator and no comment. -/
def Plain (word : List UInt8) : Prop :=
  ∀ byte ∈ word, isSpace byte = false ∧ byte ≠ 0 ∧ byte ≠ 35

/-- A comment, or nothing. -/
def Trailer (trailer : List UInt8) : Prop :=
  trailer = [] ∨
    ∃ blanks comment,
      trailer = List.replicate blanks 32 ++ 35 :: comment ∧ 10 ∉ comment

namespace ServerLine

/-- The limits of the fields. -/
structure Documented (line : ServerLine) : Prop where
  name : 1 ≤ line.name.length ∧ line.name.length ≤ 31
  host : 1 ≤ line.host.length ∧ line.host.length ≤ 127
  noColon : 58 ∉ line.host
  digits : ∀ byte ∈ line.digits, isDigit byte = true
  fiveDigits : line.digits.length ≤ 5
  port : 1 ≤ digitsValue line.digits ∧ digitsValue line.digits ≤ 65535
  login : line.login.length ≤ 2
  loginWords :
    ∀ word ∈ line.login, 1 ≤ word.length ∧ word.length ≤ 63
  plain : ∀ word ∈ line.name :: line.host :: line.login, Plain word

/-- The host with the port glued to it. -/
def address (line : ServerLine) : List UInt8 :=
  line.host ++ 58 :: line.digits

/-- The words after the name. -/
def fields (line : ServerLine) : LineForm → List (List UInt8)
  | .spaced => line.host :: line.digits :: line.login
  | .glued => line.address :: line.login

/-- The words with single spaces between them. -/
def tokens (line : ServerLine) (form : LineForm) : List UInt8 :=
  line.name ++ spaced (line.fields form)

/-- The entry has the fields of the line; what is absent is empty. -/
structure Gives (line : ServerLine) (entry : SlpServer) : Prop where
  name : entry.name.bytes = line.name
  host : entry.host.bytes = line.host
  port : entry.port.toNat = digitsValue line.digits
  username : entry.username.bytes = line.login[0]?.getD []
  password : entry.password.bytes = line.login[1]?.getD []

end ServerLine

namespace ServerLine

/--
The host has full length, so that the port glued to it is left for the user
name, and both happen to be what they would have been: the port is the default
one, the user name is the colon with the port, and the password is what the
line buffer keeps of the user name.
-/
def Coincides (line : ServerLine) : Prop :=
  line.host.length = 127 ∧ line.digits = [49, 49, 52, 53, 49] ∧
    line.login =
      [58 :: line.digits,
        (58 :: line.digits).take (32 - line.name.length)]

/--
The tokens fit in the line buffer, and if the port is glued to the host, both
fit in the field of the host and no user name starts with a digit.
-/
def ReadsBack (line : ServerLine) : LineForm → Prop
  | .spaced => (line.tokens .spaced).length ≤ lineSize - 1
  | .glued =>
      (line.tokens .glued).length ≤ lineSize - 1 ∧
          line.address.length ≤ 127 ∧
          (∀ user ∈ line.login.head?, ¬ StartsWithDigit user) ∨
        line.Coincides

end ServerLine

/-- As a line of any text, this one adds exactly this entry. -/
def Yields (text : List UInt8) (entry : SlpServer) : Prop :=
  ∀ before after,
    (before = [] ∨ ∃ front, before = front ++ [10]) →
      (after = [] ∨ ∃ rest, after = 10 :: rest) →
        slpServersParse (before ++ text ++ after) =
          (slpServersParse before ++ entry :: slpServersParse after).take
            slpcfgMaxServers

/-! ## A line of a text -/

theorem slpServersParse_eq_take (text : List UInt8) :
    slpServersParse text =
      ((linesOf text).filterMap parseLine).take slpcfgMaxServers :=
  parseLines_eq_take ..

theorem linesOf_singleton {line : List UInt8} (nonempty : line ≠ [])
    (oneLine : 10 ∉ line) : linesOf line = [line] := by
  have whole : line.takeWhile (· ≠ 10) = line := by
    apply List.takeWhile_eq_self_iff.mpr
    intro byte member
    exact decide_eq_true fun newline => oneLine (newline ▸ member)
  rw [linesOf_eq nonempty, if_neg oneLine, whole]

/-- The entries of a text are those of its lines. -/
theorem filterMap_linesOf_line {before line after : List UInt8}
    (nonempty : line ≠ []) (oneLine : 10 ∉ line)
    (begins : before = [] ∨ ∃ front, before = front ++ [10])
    (ends : after = [] ∨ ∃ rest, after = 10 :: rest) :
    (linesOf (before ++ line ++ after)).filterMap parseLine =
      (linesOf before).filterMap parseLine ++
        ((parseLine line).toList ++
          (linesOf after).filterMap parseLine) := by
  have alone :
      (linesOf line).filterMap parseLine = (parseLine line).toList := by
    rw [linesOf_singleton nonempty oneLine,
      ServerTable.filterMap_cons_toList]
    exact List.append_nil _
  have behind :
      (linesOf (line ++ after)).filterMap parseLine =
        (parseLine line).toList ++ (linesOf after).filterMap parseLine := by
    rcases ends with rfl | ⟨rest, rfl⟩
    · rw [List.append_nil, alone]
      exact (List.append_nil _).symm
    · have empty := filterMap_linesOf_append [] rest
      rw [filterMap_linesOf_append, alone]
      rw [List.nil_append] at empty
      rw [empty]
      rfl
  rcases begins with rfl | ⟨front, rfl⟩
  · rw [List.nil_append, behind]
    rfl
  · have full := filterMap_linesOf_append front []
    rw [List.append_assoc, List.append_assoc, List.singleton_append,
      filterMap_linesOf_append, behind, full]
    simp [linesOf]

theorem take_append_cons_take {Entry : Type} (room : Nat)
    (before after : List Entry) (entry : Entry) :
    (before ++ entry :: after).take room =
      (before.take room ++ entry :: after.take room).take room := by
  have tail :
      (entry :: after.take room).take room = (entry :: after).take room := by
    cases room with
    | zero => rfl
    | succ room =>
        rw [List.take_succ_cons, List.take_succ_cons, List.take_take,
          Nat.min_eq_left (Nat.le_succ room)]
  rw [ServerTable.take_append_take room before,
    ServerTable.take_append_take room (before.take room)
      (entry :: after.take room),
    tail, List.take_take, Nat.min_self]

/-- A line adds an entry to every text when it is parsed to it. -/
theorem yields_iff {line : List UInt8} (nonempty : line ≠ [])
    (oneLine : 10 ∉ line) (entry : SlpServer) :
    Yields line entry ↔ parseLine line = some entry := by
  constructor
  · intro yields
    have alone := yields [] [] (.inl rfl) (.inl rfl)
    rw [slpServersParse_eq_take,
      filterMap_linesOf_line nonempty oneLine (.inl rfl) (.inl rfl)]
      at alone
    have nothing : slpServersParse [] = [] := rfl
    rw [nothing] at alone
    cases parsed : parseLine line with
    | none =>
        rw [parsed] at alone
        exact absurd alone (List.cons_ne_nil _ _).symm
    | some server =>
        rw [parsed] at alone
        exact congrArg some (List.cons.inj alone).1
  · intro parsed before after begins ends
    rw [slpServersParse_eq_take, slpServersParse_eq_take,
      slpServersParse_eq_take,
      filterMap_linesOf_line nonempty oneLine begins ends, parsed]
    exact take_append_cons_take ..

/-! ## The line buffer -/

/-- A comment that is cut off leaves blanks. -/
theorem blank_of_prefix {blanks : Nat} {comment part : List UInt8}
    (starts : part <+: List.replicate blanks 32 ++ 35 :: comment)
    (clean : 35 ∉ part) : ∀ byte ∈ part, isSpace byte = true := by
  induction blanks generalizing part with
  | zero =>
      cases part with
      | nil => simp
      | cons byte rest =>
          rcases List.cons_prefix_cons.mp starts with ⟨rfl, -⟩
          exact absurd List.mem_cons_self clean
  | succ blanks induction =>
      cases part with
      | nil => simp
      | cons first rest =>
          rw [List.replicate_succ, List.cons_append,
            List.cons_prefix_cons] at starts
          rcases starts with ⟨rfl, later⟩
          intro byte member
          rcases List.mem_cons.mp member with rfl | behind
          · rfl
          · exact
              induction later
                (fun listed => clean (List.mem_cons_of_mem _ listed))
                byte behind

/-- What is left of the trailer in the buffer is blank. -/
theorem blank_of_trailer {trailer : List UInt8} (isTrailer : Trailer trailer)
    (size : Nat) :
    ∀ byte ∈
      ((trailer.take size).takeWhile (· ≠ 0)).takeWhile (· ≠ 35),
      isSpace byte = true := by
  rcases isTrailer with rfl | ⟨blanks, comment, rfl, -⟩
  · simp
  · apply blank_of_prefix
    · exact
        (List.takeWhile_prefix _).trans
          ((List.takeWhile_prefix _).trans (List.take_prefix _ _))
    · intro member
      have kept := List.mem_takeWhile_imp member
      simp at kept

/-- The words of a line are those of its tokens in the buffer. -/
theorem sscanfWords_lineText {tokens trailer : List UInt8}
    (clean : ∀ byte ∈ tokens, byte ≠ 0 ∧ byte ≠ 35)
    (isTrailer : Trailer trailer) (widths : List Nat) :
    sscanfWords widths (lineText (tokens ++ trailer)) =
      sscanfWords widths (tokens.take (lineSize - 1)) := by
  have kept :
      ∀ byte ∈ tokens.take (lineSize - 1), byte ≠ 0 ∧ byte ≠ 35 :=
    fun byte member => clean byte (List.mem_of_mem_take member)
  have body :
      (((tokens ++ trailer).take (lineSize - 1)).takeWhile
          (· ≠ 0)).takeWhile (· ≠ 35) =
        tokens.take (lineSize - 1) ++
          ((trailer.take (lineSize - 1 - tokens.length)).takeWhile
            (· ≠ 0)).takeWhile (· ≠ 35) := by
    rw [List.take_append,
      List.takeWhile_append_of_pos fun byte member =>
        decide_eq_true (kept byte member).1,
      List.takeWhile_append_of_pos fun byte member =>
        decide_eq_true (kept byte member).2]
  have trimmed :=
    List.rdropWhile_append_rtakeWhile (p := isTrimmed)
      (l := (((tokens ++ trailer).take (lineSize - 1)).takeWhile
        (· ≠ 0)).takeWhile (· ≠ 35))
  have blanks :
      ∀ byte ∈
        ((((tokens ++ trailer).take (lineSize - 1)).takeWhile
          (· ≠ 0)).takeWhile (· ≠ 35)).rtakeWhile isTrimmed,
        isSpace byte = true := by
    intro byte member
    have cut := List.mem_rtakeWhile_imp member
    unfold isTrimmed at cut
    rcases of_decide_eq_true cut with rfl | rfl | rfl | rfl <;> rfl
  rw [← sscanfWords_append_blanks blanks widths]
  unfold lineText trim
  rw [trimmed, body, sscanfWords_append_blanks]
  exact blank_of_trailer isTrailer _

/-- What `parse_line` does with the text in the buffer. -/
def parseWords (text : List UInt8) : Option SlpServer :=
  match sscanfWords [31, 127, 7, 63, 63] text with
  | name :: host :: port :: login =>
      if StartsWithDigit port then
        accept name ⟨host, strtol port⟩ login
      else parseGlued text
  | _ => parseGlued text

theorem parseWords_congr {first second : List UInt8}
    (same :
      ∀ widths, sscanfWords widths first = sscanfWords widths second) :
    parseWords first = parseWords second := by
  unfold parseWords parseGlued
  rw [same, same]

theorem parseLine_eq_parseWords (line : List UInt8) :
    parseLine line = parseWords (lineText line) := by
  unfold parseLine
  split
  · rename_i empty
    rw [empty]
    rfl
  · rfl

theorem parseLine_tokens {tokens trailer : List UInt8}
    (clean : ∀ byte ∈ tokens, byte ≠ 0 ∧ byte ≠ 35)
    (isTrailer : Trailer trailer) :
    parseLine (tokens ++ trailer) =
      parseWords (tokens.take (lineSize - 1)) := by
  rw [parseLine_eq_parseWords]
  exact parseWords_congr (sscanfWords_lineText clean isTrailer)

/-! ## Entries -/

theorem not_isSpace_of_isDigit {byte : UInt8} (digit : isDigit byte = true) :
    isSpace byte = false := by
  have range := of_decide_eq_true digit
  simp only [UInt8.le_iff_toNat_le] at range
  apply decide_eq_false
  simp only [UInt8.le_iff_toNat_le, ← UInt8.toNat_inj]
  have lower : 48 ≤ byte.toNat := range.1
  show ¬ (byte.toNat = 32 ∨ 9 ≤ byte.toNat ∧ byte.toNat ≤ 13)
  omega

theorem ne_of_isDigit {byte other : UInt8} (digit : isDigit byte = true)
    (small : other < 48 ∨ 57 < other) : byte ≠ other := by
  rintro rfl
  have range := of_decide_eq_true digit
  simp only [UInt8.le_iff_toNat_le, UInt8.lt_iff_toNat_lt] at range small
  omega

/-- `strtol` of digits without a sign. -/
theorem strtol_digits {digits : List UInt8}
    (allDigits : ∀ byte ∈ digits, isDigit byte = true)
    (small : digitsValue digits ≤ 65535) :
    strtol digits = digitsValue digits := by
  unfold strtol
  cases digits with
  | nil => rfl
  | cons byte rest =>
      have digit := allDigits byte List.mem_cons_self
      rw [List.dropWhile_cons_of_neg
        (by simp [not_isSpace_of_isDigit digit])]
      have noMinus : byte ≠ 45 := ne_of_isDigit digit (.inl (by decide))
      have noPlus : byte ≠ 43 := ne_of_isDigit digit (.inl (by decide))
      split
      · rename_i same
        exact absurd (List.cons.inj same).1 noMinus
      · rename_i same
        exact absurd (List.cons.inj same).1 noPlus
      · omega

theorem splitAtColon_glued {host digits : List UInt8}
    (digitsOnly : 58 ∉ digits) :
    splitAtColon (host ++ 58 :: digits) = ⟨host, strtol digits⟩ := by
  have colon : 58 ∈ host ++ 58 :: digits := by simp
  have pass : ∀ byte ∈ digits.reverse, decide (byte ≠ 58) = true := by
    intro byte member
    apply decide_eq_true
    rintro rfl
    exact digitsOnly (List.mem_reverse.mp member)
  have reversed :
      (host ++ 58 :: digits).reverse =
        digits.reverse ++ 58 :: host.reverse := by
    simp
  unfold splitAtColon
  rw [if_pos colon]
  unfold List.rdropWhile List.rtakeWhile
  rw [reversed, List.dropWhile_append_of_pos pass,
    List.takeWhile_append_of_pos pass,
    List.dropWhile_cons_of_neg (by simp),
    List.takeWhile_cons_of_neg (by simp)]
  simp

theorem splitAtColon_of_notMem {host : List UInt8} (noColon : 58 ∉ host) :
    splitAtColon host = ⟨host, defaultPort⟩ :=
  if_neg noColon

/-- Up to two words are told from what is stored of them. -/
theorem firstTwo_eq_iff {left right : List (List UInt8)}
    (leftShort : left.length ≤ 2) (rightShort : right.length ≤ 2)
    (leftWords : ∀ word ∈ left, word ≠ [])
    (rightWords : ∀ word ∈ right, word ≠ []) :
    (left[0]?.getD [] = right[0]?.getD [] ∧
        left[1]?.getD [] = right[1]?.getD []) ↔
      left = right := by
  refine ⟨?_, fun same => same ▸ ⟨rfl, rfl⟩⟩
  rintro ⟨first, second⟩
  apply List.ext_getElem?
  intro index
  have defined :
      ∀ {words : List (List UInt8)}, (∀ word ∈ words, word ≠ []) →
        words[index]?.getD [] = [] → words[index]? = none := by
    intro words nonempty empty
    cases found : words[index]? with
    | none => rfl
    | some word =>
        rw [found] at empty
        exact absurd empty (nonempty word (List.mem_of_getElem? found))
  have same : left[index]?.getD [] = right[index]?.getD [] := by
    rcases index with _ | _ | index
    · exact first
    · exact second
    · rw [List.getElem?_eq_none (by omega),
        List.getElem?_eq_none (by omega)]
  cases found : left[index]? with
  | none =>
      rw [found] at same
      exact (defined rightWords same.symm).symm
  | some word =>
      cases other : right[index]? with
      | none =>
          rw [other] at same
          rw [defined leftWords same] at found
          exact absurd found (Option.some_ne_none word).symm
      | some twin =>
          rw [found, other] at same
          exact congrArg some same

theorem startsWithDigit_congr {first second : List UInt8}
    (same : first.head? = second.head?) :
    StartsWithDigit first ↔ StartsWithDigit second := by
  rcases first with _ | ⟨byte, rest⟩ <;>
    rcases second with _ | ⟨other, more⟩
  · exact Iff.rfl
  · exact absurd same (by simp)
  · exact absurd same (by simp)
  · rw [show byte = other from Option.some.inj same]
    exact Iff.rfl

theorem startsWithDigit_of_all {digits : List UInt8}
    (nonempty : digits ≠ [])
    (allDigits : ∀ byte ∈ digits, isDigit byte = true) :
    StartsWithDigit digits := by
  rcases digits with _ | ⟨byte, rest⟩
  · exact absurd rfl nonempty
  · exact allDigits byte List.mem_cons_self

/-- The digits of the default port. -/
theorem digitsValue_eq_default_iff {digits : List UInt8}
    (allDigits : ∀ byte ∈ digits, isDigit byte = true)
    (fiveDigits : digits.length ≤ 5) :
    (digitsValue digits : Int) = defaultPort ↔
      digits = [49, 49, 52, 53, 49] := by
  have whole : digits.takeWhile isDigit = digits :=
    List.takeWhile_eq_self_iff.mpr allDigits
  have range :
      ∀ byte ∈ digits, 48 ≤ byte.toNat ∧ byte.toNat ≤ 57 := by
    intro byte member
    have inside := of_decide_eq_true (allDigits byte member)
    simp only [UInt8.le_iff_toNat_le] at inside
    exact inside
  have same :
      ∀ (byte other : UInt8), byte = other ↔ byte.toNat = other.toNat :=
    fun _ _ => UInt8.toNat_inj.symm
  unfold digitsValue defaultPort
  rw [whole]
  rcases digits with _ | ⟨a, _ | ⟨b, _ | ⟨c, _ | ⟨d, _ | ⟨e, rest⟩⟩⟩⟩⟩
  · simp
  all_goals
    simp only [List.forall_mem_cons] at range
    simp only [List.foldl_cons, List.foldl_nil, List.cons.injEq, same,
      reduceCtorEq, and_false, iff_false]
  · omega
  · omega
  · omega
  · omega
  · have empty : rest = [] := by
      rw [← List.length_eq_zero_iff]
      simp only [List.length_cons] at fiveDigits
      omega
    subst empty
    simp only [List.foldl_nil, and_true]
    show _ ↔ a.toNat = 49 ∧ b.toNat = 49 ∧ c.toNat = 52 ∧
      d.toNat = 53 ∧ e.toNat = 49
    omega

namespace ServerLine

theorem length_address (line : ServerLine) :
    line.address.length = line.host.length + 1 + line.digits.length := by
  simp only [address, List.length_append, List.length_cons]
  omega

/-- A host that fills its field leaves the colon and the port to the next. -/
theorem splitAddress_of_full {line : ServerLine}
    (full : line.host.length = 127) :
    line.address.take 127 = line.host ∧
      line.address.drop 127 = 58 :: line.digits := by
  rw [← full]
  exact ⟨List.take_left, List.drop_left⟩

namespace Documented

variable {line : ServerLine} (documented : line.Documented)

include documented

theorem isWord_of_plain {word : List UInt8}
    (listed : word ∈ line.name :: line.host :: line.login)
    (positive : 1 ≤ word.length) : IsWord word where
  nonempty empty := by
    rw [empty] at positive
    exact absurd positive (by decide)
  solid byte member := (documented.plain word listed byte member).1

theorem nameWord : IsWord line.name :=
  documented.isWord_of_plain (by simp) documented.name.1

theorem hostWord : IsWord line.host :=
  documented.isWord_of_plain (by simp) documented.host.1

theorem digits_ne_nil : line.digits ≠ [] := by
  intro empty
  have positive := documented.port.1
  rw [empty] at positive
  exact absurd positive (by decide)

theorem digitsWord : IsWord line.digits where
  nonempty := documented.digits_ne_nil
  solid byte member :=
    not_isSpace_of_isDigit (documented.digits byte member)

theorem loginWord {word : List UInt8} (listed : word ∈ line.login) :
    IsWord word :=
  documented.isWord_of_plain (by simp [listed])
    (documented.loginWords word listed).1

theorem colon_notMem_digits : 58 ∉ line.digits := by
  intro member
  exact
    ne_of_isDigit (documented.digits 58 member) (.inr (by decide)) rfl

theorem addressWord : IsWord line.address where
  nonempty := by simp [address]
  solid byte member := by
    rcases List.mem_append.mp member with before | after
    · exact documented.hostWord.solid byte before
    · rcases List.mem_cons.mp after with rfl | later
      · rfl
      · exact documented.digitsWord.solid byte later

/-- No word of the line has a terminator or a comment in it. -/
theorem clean (form : LineForm) :
    ∀ byte ∈ line.tokens form, byte ≠ 0 ∧ byte ≠ 35 := by
  have digits : ∀ byte ∈ line.digits, byte ≠ 0 ∧ byte ≠ 35 := by
    intro byte member
    have digit := documented.digits byte member
    exact
      ⟨ne_of_isDigit digit (.inl (by decide)),
        ne_of_isDigit digit (.inl (by decide))⟩
  have words :
      ∀ word ∈ line.name :: line.fields form, ∀ byte ∈ word,
        byte ≠ 0 ∧ byte ≠ 35 := by
    have plain := documented.plain
    intro word listed byte member
    cases form with
    | spaced =>
        by_cases port : word = line.digits
        · exact digits byte (port ▸ member)
        · refine (plain word ?_ byte member).2
          simpa [fields, port] using listed
    | glued =>
        by_cases glued : word = line.address
        · rw [glued] at member
          rcases List.mem_append.mp member with before | after
          · exact (plain line.host (by simp) byte before).2
          · rcases List.mem_cons.mp after with rfl | later
            · decide
            · exact digits byte later
        · have others : word = line.name ∨ word ∈ line.login := by
            simpa [fields, glued] using listed
          refine (plain word ?_ byte member).2
          rcases others with rfl | login
          · simp
          · simp [login]
  intro byte member
  rcases List.mem_append.mp member with before | after
  · exact words line.name List.mem_cons_self byte before
  · rcases List.mem_flatMap.mp after with ⟨word, listed, inside⟩
    rcases List.mem_cons.mp inside with rfl | byteMember
    · decide
    · exact
        words word (List.mem_cons_of_mem _ listed) byte byteMember

/-- When the end of `parse_line` gives the fields of the line. -/
theorem accept_gives_iff {read : Address} {login : List (List UInt8)}
    (host : read.host.length ≤ 127 ∧ 0 ∉ read.host)
    (words : ∀ word ∈ login, word.length ≤ 63 ∧ 0 ∉ word) :
    (∃ entry,
      accept line.name read login = some entry ∧ line.Gives entry) ↔
      read.host = line.host ∧ read.port = digitsValue line.digits ∧
        login[0]?.getD [] = line.login[0]?.getD [] ∧
        login[1]?.getD [] = line.login[1]?.getD [] := by
  have wordFits :
      ∀ index : Nat,
        (login[index]?.getD []).length ≤ 63 ∧
          0 ∉ login[index]?.getD [] := by
    intro index
    cases found : login[index]? with
    | none => exact ⟨Nat.zero_le _, List.not_mem_nil⟩
    | some word => exact words word (List.mem_of_getElem? found)
  have terminated : 0 ∉ line.name := fun zero =>
    (documented.plain line.name List.mem_cons_self 0 zero).2.1 rfl
  have name := CString.strncpy_bytes terminated documented.name.2
  have range := documented.port
  unfold accept
  by_cases valid : ValidPort read.port
  · rw [if_pos valid]
    unfold ValidPort at valid
    have port :
        (UInt16.ofNat read.port.toNat).toNat = read.port.toNat := by
      rw [UInt16.toNat_ofNat']
      omega
    constructor
    · rintro ⟨entry, made, gives⟩
      rw [← Option.some.inj made] at gives
      have hosts := gives.host
      have ports := gives.port
      have users := gives.username
      have passwords := gives.password
      rw [CString.strncpy_bytes host.2 host.1] at hosts
      rw [CString.strncpy_bytes (wordFits 0).2 (wordFits 0).1] at users
      rw [CString.strncpy_bytes (wordFits 1).2 (wordFits 1).1]
        at passwords
      dsimp only at ports
      exact ⟨hosts, by omega, users, passwords⟩
    · rintro ⟨hosts, ports, users, passwords⟩
      refine ⟨_, rfl, name, ?_, ?_, ?_, ?_⟩
      · exact (CString.strncpy_bytes host.2 host.1).trans hosts
      · dsimp only
        omega
      · exact
          (CString.strncpy_bytes (wordFits 0).2 (wordFits 0).1).trans users
      · exact
          (CString.strncpy_bytes (wordFits 1).2 (wordFits 1).1).trans
            passwords
  · rw [if_neg valid]
    unfold ValidPort at valid
    constructor
    · rintro ⟨entry, made, -⟩
      exact absurd made (Option.some_ne_none entry).symm
    · rintro ⟨-, ports, -⟩
      omega

/-! ## Logins -/

/-- A part of a login word has the limits of the word. -/
theorem loginPart {size : Nat} {part : List UInt8}
    (member : part ∈ cutWords size line.login) :
    part ≠ [] ∧ part.length ≤ 63 ∧ 0 ∉ part := by
  rcases exists_of_mem_cutWords member with
    ⟨word, listed, length, positive, rfl⟩
  have limits := documented.loginWords word listed
  refine
    ⟨((documented.loginWord listed).take positive).nonempty,
      (List.length_take_le' ..).trans limits.2, ?_⟩
  intro zero
  have plain :=
    documented.plain word (by simp [listed]) 0 (List.mem_of_mem_take zero)
  exact plain.2.1 rfl

/-- The login is read whole exactly if it is in the buffer. -/
theorem cutLogin_iff (size : Nat) :
    ((cutWords size line.login)[0]?.getD [] = line.login[0]?.getD [] ∧
        (cutWords size line.login)[1]?.getD [] =
          line.login[1]?.getD []) ↔
      (spaced line.login).length ≤ size := by
  rw [← cutWords_eq_iff
    (fun word listed => (documented.loginWord listed).nonempty)]
  apply firstTwo_eq_iff
  · exact (length_cutWords_le ..).trans documented.login
  · exact documented.login
  · intro part member
    exact (documented.loginPart member).1
  · intro word listed
    exact (documented.loginWord listed).nonempty

theorem sscanfWords_login (size : Nat) :
    sscanfWords [63, 63] ((spaced line.login).take size) =
      cutWords size line.login := by
  apply sscanfWords_take_spaced
  · intro word listed
    exact documented.loginWord listed
  · intro word listed width field
    have limit := (documented.loginWords word listed).2
    simp only [List.mem_cons, List.not_mem_nil, or_false, or_self]
      at field
    rw [field]
    exact limit
  · exact documented.login

/-- The name and the word after it are read whole if that word fits. -/
theorem sscanfWords_name {word rest : List UInt8} {width : Nat}
    (isWord : IsWord word) (fits : word.length ≤ width)
    (breaks : Breaks rest) (widths : List Nat) :
    sscanfWords (31 :: width :: widths) (line.name ++ 32 :: (word ++ rest)) =
      line.name :: word :: sscanfWords widths rest := by
  have blank : Breaks (32 :: (word ++ rest)) := by
    simp [Breaks, isSpace]
  rw [sscanfWords_word documented.nameWord documented.name.2 blank,
    sscanfWords_space, sscanfWords_word isWord fits breaks]

theorem host_terminated : 0 ∉ line.host := fun zero =>
  (documented.plain line.host (by simp) 0 zero).2.1 rfl

/-! ## The first form -/

theorem take_tokens_spaced :
    (line.tokens .spaced).take (lineSize - 1) =
      line.name ++ 32 :: (line.host ++ 32 :: (line.digits ++
        (spaced line.login).take
          (167 - (line.name.length + 1 + line.host.length + 1 +
            line.digits.length)))) := by
  have name := documented.name.2
  have host := documented.host.2
  have digits := documented.fiveDigits
  have apart :
      line.tokens .spaced =
        (line.name ++ 32 :: (line.host ++ 32 :: line.digits)) ++
          spaced line.login := by
    simp [tokens, fields, spaced_cons]
  have length :
      (line.name ++ 32 :: (line.host ++ 32 :: line.digits)).length =
        line.name.length + 1 + line.host.length + 1 +
          line.digits.length := by
    simp only [List.length_append, List.length_cons]
    omega
  have size : lineSize - 1 = 167 := rfl
  rw [apart, size, List.take_append, length,
    List.take_of_length_le (by omega)]
  simp

/-- A line of the first form is read back exactly if it is in the buffer. -/
theorem spaced_iff :
    (∃ entry,
      parseWords ((line.tokens .spaced).take (lineSize - 1)) =
          some entry ∧ line.Gives entry) ↔
      (line.tokens .spaced).length ≤ lineSize - 1 := by
  have name := documented.name.2
  have host := documented.host.2
  have digits := documented.fiveDigits
  rw [documented.take_tokens_spaced]
  generalize shrunk :
    167 - (line.name.length + 1 + line.host.length + 1 +
      line.digits.length) = size
  have words :
      sscanfWords [31, 127, 7, 63, 63]
          (line.name ++ 32 :: (line.host ++ 32 :: (line.digits ++
            (spaced line.login).take size))) =
        line.name :: line.host :: line.digits ::
          cutWords size line.login := by
    have blank :
        Breaks (32 :: (line.digits ++ (spaced line.login).take size)) := by
      simp [Breaks, isSpace]
    rw [documented.sscanfWords_name documented.hostWord host blank,
      sscanfWords_space,
      sscanfWords_word documented.digitsWord (by omega)
        (breaks_take_spaced _ _),
      documented.sscanfWords_login]
  have numeric : StartsWithDigit line.digits :=
    startsWithDigit_of_all documented.digits_ne_nil documented.digits
  unfold parseWords
  rw [words]
  dsimp only
  rw [if_pos numeric,
    documented.accept_gives_iff ⟨host, documented.host_terminated⟩
      fun part member => (documented.loginPart member).2,
    strtol_digits documented.digits documented.port.2]
  simp only [true_and]
  rw [documented.cutLogin_iff]
  have length :
      (line.tokens .spaced).length =
        line.name.length + 1 + line.host.length + 1 +
          line.digits.length + (spaced line.login).length := by
    simp only [tokens, fields, spaced_cons, List.length_append,
      List.length_cons]
    omega
  have limit : lineSize - 1 = 167 := rfl
  omega

/-! ## The second form -/

theorem take_tokens_glued :
    (line.tokens .glued).take (lineSize - 1) =
      line.name ++ 32 :: (line.address ++
        (spaced line.login).take
          (167 - (line.name.length + 1 + line.address.length))) := by
  have name := documented.name.2
  have host := documented.host.2
  have digits := documented.fiveDigits
  have apart :
      line.tokens .glued =
        (line.name ++ 32 :: line.address) ++ spaced line.login := by
    simp [tokens, fields, spaced_cons]
  have length :
      (line.name ++ 32 :: line.address).length =
        line.name.length + 1 + line.address.length := by
    simp only [List.length_append, List.length_cons]
    omega
  have glued := line.length_address
  have size : lineSize - 1 = 167 := rfl
  rw [apart, size, List.take_append, length,
    List.take_of_length_le (by omega)]
  simp

theorem splitAtColon_address :
    splitAtColon line.address =
      ⟨line.host, digitsValue line.digits⟩ := by
  unfold address
  rw [splitAtColon_glued documented.colon_notMem_digits,
    strtol_digits documented.digits documented.port.2]

/-- An entry whose host has a colon is not that of the line. -/
theorem not_gives_of_colon {read : Address} {login : List (List UInt8)}
    {entry : SlpServer}
    (made : accept line.name read login = some entry)
    (fits : read.host.length ≤ 127) (terminated : 0 ∉ read.host)
    (colon : 58 ∈ read.host) : ¬ line.Gives entry := by
  intro gives
  unfold accept at made
  split at made
  · have host := gives.host
    rw [← Option.some.inj made,
      CString.strncpy_bytes terminated fits] at host
    rw [host] at colon
    exact documented.noColon colon
  · exact absurd made (Option.some_ne_none entry).symm

theorem address_terminated : 0 ∉ line.address := by
  intro zero
  rcases List.mem_append.mp zero with before | after
  · exact documented.host_terminated before
  · rcases List.mem_cons.mp after with wrong | later
    · exact absurd wrong (by decide)
    · exact
        ne_of_isDigit (documented.digits 0 later) (.inl (by decide)) rfl

/-- A host that fits with its port is read back exactly if all is in the
buffer and no user name is taken for the port. -/
theorem glued_iff_of_fits (fits : line.address.length ≤ 127) :
    (∃ entry,
      parseWords ((line.tokens .glued).take (lineSize - 1)) =
          some entry ∧ line.Gives entry) ↔
      (line.tokens .glued).length ≤ lineSize - 1 ∧
        ∀ user ∈ line.login.head?, ¬ StartsWithDigit user := by
  have name := documented.name.2
  have length :
      (line.tokens .glued).length =
        line.name.length + 1 + line.address.length +
          (spaced line.login).length := by
    simp only [tokens, fields, spaced_cons, List.length_append,
      List.length_cons]
    omega
  have limit : lineSize - 1 = 167 := rfl
  rw [documented.take_tokens_glued]
  generalize shrunk :
    167 - (line.name.length + 1 + line.address.length) = size
  have five :=
    documented.sscanfWords_name documented.addressWord fits
      (breaks_take_spaced line.login size) [7, 63, 63]
  have four :=
    documented.sscanfWords_name documented.addressWord fits
      (breaks_take_spaced line.login size) [63, 63]
  rw [documented.sscanfWords_login] at four
  have whole :
      (∃ entry,
        parseGlued (line.name ++ 32 :: (line.address ++
            (spaced line.login).take size)) = some entry ∧
          line.Gives entry) ↔
        (line.tokens .glued).length ≤ lineSize - 1 := by
    unfold parseGlued
    rw [four]
    dsimp only
    rw [documented.splitAtColon_address,
      documented.accept_gives_iff
        ⟨documented.host.2, documented.host_terminated⟩
        fun part member => (documented.loginPart member).2]
    simp only [true_and]
    rw [documented.cutLogin_iff]
    omega
  have room : 2 ≤ size := by omega
  unfold parseWords
  rcases
    head_sscanfWords_spaced (fun _ listed => documented.loginWord listed)
      room 6 [63, 63] with
    ⟨absent, read⟩ | ⟨user, first, port, words, read, same⟩
  · rw [five, read]
    dsimp only
    rw [whole, absent]
    simp
  · rw [five, read]
    dsimp only
    by_cases digit : StartsWithDigit user
    · rw [if_pos ((startsWithDigit_congr same).mpr digit)]
      refine iff_of_false ?_ fun both => both.2 user first digit
      rintro ⟨entry, made, gives⟩
      refine
        documented.not_gives_of_colon made fits
          documented.address_terminated ?_ gives
      simp [address]
    · rw [if_neg (mt (startsWithDigit_congr same).mp digit), whole]
      refine (and_iff_left ?_).symm
      intro other listed
      rw [Option.mem_unique listed first]
      exact digit

/-- What becomes of a port that is left for the user name. -/
theorem leftover_iff (full : line.host.length = 127) (size : Nat)
    (room :
      167 - (line.name.length + 1 +
        (line.host.length + 1 + line.digits.length)) = size) :
    (∃ entry,
      accept line.name ⟨line.host, defaultPort⟩
          ((58 :: line.digits) ::
            sscanfWords [63] ((spaced line.login).take size)) =
          some entry ∧ line.Gives entry) ↔
      line.Coincides := by
  have name := documented.name.2
  have digits := documented.fiveDigits
  have one :
      sscanfWords [63] ((spaced line.login).take size) =
        (cutWords size line.login).take 1 := by
    rw [← documented.sscanfWords_login]
    exact (sscanfWords_append_take [63] [63] _).symm
  have fits :
      ∀ word ∈ (58 :: line.digits) ::
          sscanfWords [63] ((spaced line.login).take size),
        word.length ≤ 63 ∧ 0 ∉ word := by
    intro word member
    rcases List.mem_cons.mp member with rfl | later
    · constructor
      · simp only [List.length_cons]
        omega
      · intro zero
        apply documented.address_terminated
        exact List.mem_append_right _ zero
    · rw [one] at later
      exact (documented.loginPart (List.mem_of_mem_take later)).2
  rw [documented.accept_gives_iff
    ⟨documented.host.2, documented.host_terminated⟩ fits, one]
  simp only [true_and, List.getElem?_cons_zero, List.getElem?_cons_succ,
    Option.getD_some]
  rw [eq_comm (a := defaultPort),
    digitsValue_eq_default_iff documented.digits digits]
  unfold Coincides
  simp only [full, true_and]
  apply and_congr_right
  intro written
  have five : line.digits.length = 5 := by
    rw [written]
    rfl
  have ahead : 0 < size - 1 := by omega
  have bounded := documented.login
  have loginWord :
      ∀ {word : List UInt8}, word ∈ line.login → IsWord word :=
    documented.loginWord
  generalize line.login = login at *
  rcases login with _ | ⟨user, _ | ⟨password, _ | ⟨more, rest⟩⟩⟩
  · simp
  · have part := (loginWord List.mem_cons_self).take ahead
    refine iff_of_false ?_ (by simp)
    rintro ⟨-, empty⟩
    unfold cutWords at empty
    rw [if_neg (by omega)] at empty
    exact part.nonempty empty
  · have kept : size - 1 = 32 - line.name.length := by omega
    unfold cutWords
    rw [if_neg (by omega), kept]
    simp only [List.take_succ_cons, List.getElem?_cons_zero,
      List.getElem?_cons_succ, Option.getD_some, List.cons.injEq,
      and_true]
    constructor
    · rintro ⟨rfl, rfl⟩
      exact ⟨rfl, rfl⟩
    · rintro ⟨rfl, rfl⟩
      exact ⟨rfl, rfl⟩
  · simp only [List.length_cons] at bounded
    omega

/-- What goes past the field of the host is a word in the next field. -/
theorem overflowWord (long : 127 < line.address.length) :
    IsWord (line.address.drop 127) := by
  refine ⟨?_, ?_⟩
  · rw [Ne, List.drop_eq_nil_iff]
    omega
  · intro byte member
    exact documented.addressWord.solid byte (List.mem_of_mem_drop member)

theorem sscanfWords_overflow (long : 127 < line.address.length)
    {width : Nat} (wide : 6 ≤ width) (widths : List Nat) (size : Nat) :
    sscanfWords (31 :: 127 :: width :: widths)
        (line.name ++ 32 :: (line.address ++
          (spaced line.login).take size)) =
      line.name :: line.address.take 127 :: line.address.drop 127 ::
        sscanfWords widths ((spaced line.login).take size) := by
  have host := documented.host.2
  have digits := documented.fiveDigits
  have length := line.length_address
  have blank :
      Breaks (32 :: (line.address ++ (spaced line.login).take size)) := by
    simp [Breaks, isSpace]
  have narrow : (line.address.drop 127).length ≤ width := by
    rw [List.length_drop]
    omega
  rw [sscanfWords_word documented.nameWord documented.name.2 blank,
    sscanfWords_space,
    sscanfWords_long documented.addressWord (by decide) long,
    sscanfWords_word (documented.overflowWord long) narrow
      (breaks_take_spaced _ _)]

/-- A shorter one has the colon in its field, and digits in the next. -/
theorem splitAddress_of_short (short : line.host.length < 127)
    (long : 127 < line.address.length) :
    58 ∈ line.address.take 127 ∧
      StartsWithDigit (line.address.drop 127) := by
  have gap : 127 - line.host.length = 126 - line.host.length + 1 := by
    omega
  constructor
  · unfold address
    rw [List.take_append, gap, List.take_succ_cons]
    simp
  · apply startsWithDigit_of_all (documented.overflowWord long).nonempty
    intro byte member
    unfold address at member
    rw [List.drop_append, List.drop_of_length_le (Nat.le_of_lt short), gap]
      at member
    exact documented.digits byte (List.mem_of_mem_drop member)

/-- A host that does not fit with its port is read back only by chance. -/
theorem glued_iff_of_overflow (long : 127 < line.address.length) :
    (∃ entry,
      parseWords ((line.tokens .glued).take (lineSize - 1)) =
          some entry ∧ line.Gives entry) ↔
      line.Coincides := by
  have host := documented.host.2
  have length := line.length_address
  rw [documented.take_tokens_glued]
  generalize shrunk :
    167 - (line.name.length + 1 + line.address.length) = size
  have five :=
    documented.sscanfWords_overflow long (by decide : 6 ≤ 7) [63, 63] size
  have four :=
    documented.sscanfWords_overflow long (by decide : 6 ≤ 63) [63] size
  unfold parseWords
  rw [five]
  dsimp only
  by_cases full : line.host.length = 127
  · rcases splitAddress_of_full full with ⟨front, back⟩
    have colon : ¬ StartsWithDigit (58 :: line.digits) := by
      show ¬ isDigit 58 = true
      decide
    rw [front, back, if_neg colon]
    unfold parseGlued
    rw [four, front, back]
    dsimp only
    rw [splitAtColon_of_notMem documented.noColon]
    exact documented.leftover_iff full size (by omega)
  · rcases documented.splitAddress_of_short (by omega) long with
      ⟨colon, numeric⟩
    rw [if_pos numeric]
    refine iff_of_false ?_ fun coincides => full coincides.1
    rintro ⟨entry, made, gives⟩
    refine
      documented.not_gives_of_colon made (List.length_take_le ..) ?_ colon
        gives
    intro zero
    exact documented.address_terminated (List.mem_of_mem_take zero)

/-! ## Both forms -/

/-- The line is one line. -/
theorem newline_notMem {trailer : List UInt8} (isTrailer : Trailer trailer)
    (form : LineForm) : 10 ∉ line.tokens form ++ trailer := by
  have plain :
      ∀ word ∈ line.name :: line.fields form, 10 ∉ word := by
    have solid :
        ∀ word ∈ line.name :: line.fields form, IsWord word := by
      intro word listed
      cases form with
      | spaced =>
          simp only [fields, List.mem_cons] at listed
          rcases listed with rfl | rfl | rfl | login
          · exact documented.nameWord
          · exact documented.hostWord
          · exact documented.digitsWord
          · exact documented.loginWord login
      | glued =>
          simp only [fields, List.mem_cons] at listed
          rcases listed with rfl | rfl | login
          · exact documented.nameWord
          · exact documented.addressWord
          · exact documented.loginWord login
    intro word listed newline
    have notBlank := (solid word listed).solid 10 newline
    exact absurd notBlank (by decide)
  intro newline
  rcases List.mem_append.mp newline with token | comment
  · rcases List.mem_append.mp token with before | after
    · exact plain line.name List.mem_cons_self before
    · rcases List.mem_flatMap.mp after with ⟨word, listed, inside⟩
      rcases List.mem_cons.mp inside with wrong | member
      · exact absurd wrong (by decide)
      · exact plain word (List.mem_cons_of_mem _ listed) member
  · rcases isTrailer with rfl | ⟨blanks, text, rfl, oneLine⟩
    · exact absurd comment List.not_mem_nil
    · rcases List.mem_append.mp comment with blank | rest
      · exact absurd (List.mem_replicate.mp blank).2 (by decide)
      · rcases List.mem_cons.mp rest with wrong | member
        · exact absurd wrong (by decide)
        · exact oneLine member

theorem readsBack_iff (form : LineForm) :
    (∃ entry,
      parseWords ((line.tokens form).take (lineSize - 1)) =
          some entry ∧ line.Gives entry) ↔
      line.ReadsBack form := by
  cases form with
  | spaced => exact documented.spaced_iff
  | glued =>
      unfold ReadsBack
      dsimp only
      by_cases fits : line.address.length ≤ 127
      · have apart : ¬ line.Coincides := by
          intro coincides
          have length := line.length_address
          rw [coincides.1] at length
          omega
        rw [documented.glued_iff_of_fits fits]
        simp only [fits, true_and, apart, or_false]
      · rw [documented.glued_iff_of_overflow (Nat.lt_of_not_le fits)]
        simp only [fits, false_and, and_false, false_or]

end Documented

/--
A documented line, as a line of any text, adds exactly one entry with exactly
its fields, if and only if it reads back.
-/
theorem yields_iff_readsBack (line : ServerLine) (form : LineForm)
    (trailer : List UInt8) (documented : line.Documented)
    (isTrailer : Trailer trailer) :
    (∃ entry,
      line.Gives entry ∧ Yields (line.tokens form ++ trailer) entry) ↔
      line.ReadsBack form := by
  have nonempty : line.tokens form ++ trailer ≠ [] := by
    simp [tokens, documented.nameWord.nonempty]
  have oneLine := documented.newline_notMem isTrailer form
  rw [← documented.readsBack_iff form,
    ← parseLine_tokens (documented.clean form) isTrailer]
  constructor
  · rintro ⟨entry, gives, yields⟩
    exact ⟨entry, (yields_iff nonempty oneLine entry).mp yields, gives⟩
  · rintro ⟨entry, parsed, gives⟩
    exact ⟨entry, gives, (yields_iff nonempty oneLine entry).mpr parsed⟩

/-- The line `a h:5 u p # x`. -/
def relayLine : ServerLine where
  name := [97]
  host := [104]
  digits := [53]
  login := [[117], [112]]

theorem relayLine_documented : relayLine.Documented where
  name := by decide
  host := by decide
  noColon := by decide
  digits := by simp [relayLine, isDigit]
  fiveDigits := by decide
  port := by decide
  login := by decide
  loginWords := by simp [relayLine]
  plain := by simp [relayLine, Plain, isSpace]

theorem relayLine_yields :
    ∃ entry, relayLine.Gives entry ∧
      Yields (relayLine.tokens .glued ++ [32, 35, 32, 120]) entry := by
  apply
    (yields_iff_readsBack relayLine .glued [32, 35, 32, 120]
      relayLine_documented (.inr ⟨1, [32, 120], rfl, by simp⟩)).mpr
  refine .inl ⟨by decide, by decide, ?_⟩
  intro user first
  rw [← Option.some.inj first]
  decide

/-- The line `a h:5 1x`. -/
def digitUser : ServerLine where
  name := [97]
  host := [104]
  digits := [53]
  login := [[49, 120]]

theorem digitUser_documented : digitUser.Documented where
  name := by decide
  host := by decide
  noColon := by decide
  digits := by simp [digitUser, isDigit]
  fiveDigits := by decide
  port := by decide
  login := by decide
  loginWords := by simp [digitUser]
  plain := by simp [digitUser, Plain, isSpace]

/-- The user name is taken for the port, and the port stays in the host. -/
theorem digitUser_not_yields :
    ¬ ∀ (line : ServerLine) (form : LineForm) (trailer : List UInt8),
      line.Documented → Trailer trailer →
        ∃ entry,
          line.Gives entry ∧
            Yields (line.tokens form ++ trailer) entry := by
  intro claim
  rcases claim digitUser .glued [] digitUser_documented (.inl rfl) with
    ⟨entry, gives, yields⟩
  have parsed :=
    (yields_iff (by decide) (by decide) entry).mp yields
  have read :
      (parseLine (digitUser.tokens .glued ++ [])).map
          (fun server => server.host.bytes) =
        some [104, 58, 53] := by
    decide
  rw [parsed, Option.map_some, gives.host] at read
  exact absurd read (by decide)

end ServerLine

end SlpClient.Slp
