import Mathlib.Algebra.GroupWithZero.Nat
import Mathlib.Algebra.Group.Nat.Defs
import Mathlib.Data.List.DropRight
import SlpClient.Lib.Alignment
import SlpClient.Slp.Runtime

/-!
# The server list, read twice

The overlay and the sysmodule each have a copy of the parser of
`servers.conf`.  The sysmodule's copy knows a login after the address; the
overlay's takes whatever stands there for a port.  The readers before them
differ as well: the overlay cuts the file after 1679 bytes, and the sysmodule
refuses a file that is empty or has 4095 bytes or more, and then keeps the
list it has.
-/

namespace SlpClient.Slp

open SlpClient.Lib

/-! ## C text -/

/-- `isspace`. -/
def isSpace (byte : UInt8) : Bool :=
  byte = 32 ∨ (9 ≤ byte ∧ byte ≤ 13)

/-- `isdigit`. -/
def isDigit (byte : UInt8) : Bool :=
  48 ≤ byte ∧ byte ≤ 57

/-- The words that `sscanf` stores for a format of `%s` fields with the given
widths; it stops at the first field that finds nothing. -/
def sscanfWords : List Nat → List UInt8 → List (List UInt8)
  | [], _ => []
  | width :: widths, text =>
      let field := text.dropWhile isSpace
      let word := (field.take width).takeWhile (!isSpace ·)
      if word = [] then []
      else word :: sscanfWords widths (field.drop word.length)

/-- The value of the digits that the text starts with. -/
def digitsValue (text : List UInt8) : Nat :=
  (text.takeWhile isDigit).foldl
    (fun value digit => 10 * value + (digit.toNat - 48)) 0

/-- `strtol` for base ten. -/
def strtol (text : List UInt8) : Int :=
  match text.dropWhile isSpace with
  | 45 :: digits => max (-2 ^ 63) (-digitsValue digits)
  | 43 :: digits => min (2 ^ 63 - 1) (digitsValue digits)
  | digits => min (2 ^ 63 - 1) (digitsValue digits)

/-- `strncpy` of at most `count` bytes into a cleared array with room for the
terminator. -/
def CString.strncpy (count : Nat) (text : List UInt8) :
    CString (count + 1) where
  bytes := (text.takeWhile (· ≠ 0)).take count
  terminated member := by
    have kept := List.mem_takeWhile_imp (List.mem_of_mem_take member)
    simp at kept
  fits := by
    rw [List.length_take]
    omega

/-! ## Lines -/

/-- `SLPCFG_MAX_SERVERS`. -/
def slpcfgMaxServers : Nat := 10

/-- `SLPCFG_NAME_MAX + SLPCFG_HOST_MAX + 8`, the size of the line buffer. -/
def lineSize : Nat := 32 + 128 + 8

/-- The bytes before each newline, and those after the last one if there are
any. -/
def linesOf : List UInt8 → List (List UInt8)
  | [] => []
  | byte :: text =>
      if byte = 10 then [] :: linesOf text
      else
        match linesOf text with
        | [] => [[byte]]
        | line :: lines => (byte :: line) :: lines

/-- What `trim` cuts off at the end. -/
def isTrimmed (byte : UInt8) : Bool :=
  byte = 10 ∨ byte = 13 ∨ byte = 32 ∨ byte = 9

/-- `trim`. -/
def trim (text : List UInt8) : List UInt8 :=
  text.rdropWhile isTrimmed

/-- The text of a line in its buffer, without its comment and trimmed. -/
def lineText (line : List UInt8) : List UInt8 :=
  trim (((line.take (lineSize - 1)).takeWhile (· ≠ 0)).takeWhile (· ≠ 35))

/-- The loop of `slpServersParse` over the lines, while there is room. -/
def parseLines {Server : Type} (parseLine : List UInt8 → Option Server) :
    Nat → List (List UInt8) → List Server
  | 0, _ => []
  | _, [] => []
  | room + 1, line :: lines =>
      match parseLine line with
      | some server => server :: parseLines parseLine room lines
      | none => parseLines parseLine (room + 1) lines

theorem parseLines_eq_take {Server : Type}
    (parseLine : List UInt8 → Option Server) :
    ∀ (lines : List (List UInt8)) (room : Nat),
      parseLines parseLine room lines =
        (lines.filterMap parseLine).take room
  | _, 0 => by simp [parseLines]
  | [], room + 1 => by simp [parseLines]
  | line :: lines, room + 1 => by
      cases parsed : parseLine line with
      | none =>
          simp only [parseLines, parsed, List.filterMap_cons]
          exact parseLines_eq_take parseLine lines (room + 1)
      | some server =>
          simp only [parseLines, parsed, List.filterMap_cons,
            List.take_succ_cons]
          rw [parseLines_eq_take parseLine lines room]

/-! ## Addresses -/

/-- A host and its port, before the port is checked. -/
structure Address where
  host : List UInt8
  port : Int

/-- The port without one in the file. -/
def defaultPort : Int := 11451

/-- The host of `host:port`, cut at its last colon, and the port after it. -/
def splitAtColon (host : List UInt8) : Address :=
  if 58 ∈ host then
    ⟨(host.rdropWhile (· ≠ 58)).dropLast, strtol (host.rtakeWhile (· ≠ 58))⟩
  else ⟨host, defaultPort⟩

/-- The check of the port. -/
def ValidPort (port : Int) : Prop :=
  ¬ (port < 1 ∨ port > 65535)

instance (port : Int) : Decidable (ValidPort port) :=
  inferInstanceAs (Decidable (¬ _))

/-! ## The overlay's copy -/

namespace Overlay

/-- An entry of the overlay's list. -/
structure SlpServer where
  name : CString 32
  host : CString 128
  port : UInt16
deriving DecidableEq

/-- The end of `parse_line`. -/
def accept (name : List UInt8) (address : Address) : Option SlpServer :=
  if ValidPort address.port then
    some
      { name := .strncpy 31 name
        host := .strncpy 127 address.host
        port := UInt16.ofNat address.port.toNat }
  else none

/-- `parse_line`: a third word is the port, whatever it is. -/
def parseLine (line : List UInt8) : Option SlpServer :=
  if lineText line = [] then none
  else
    match sscanfWords [31, 127, 7] (lineText line) with
    | [name, host, port] => accept name ⟨host, strtol port⟩
    | _ =>
        match sscanfWords [31, 127] (lineText line) with
        | [name, host] => accept name (splitAtColon host)
        | _ => none

/-- `slpServersParse`. -/
def slpServersParse (text : List UInt8) : List SlpServer :=
  parseLines parseLine slpcfgMaxServers (linesOf text)

/-- The size of the read buffer. -/
def bufferSize : Nat := slpcfgMaxServers * lineSize

/-- `slpServersLoad`, for a file with these contents. -/
def slpServersLoad (contents : List UInt8) : List SlpServer :=
  slpServersParse (contents.take (bufferSize - 1))

end Overlay

/-! ## The sysmodule's copy -/

/-- The first byte of a word is a digit. -/
def StartsWithDigit : List UInt8 → Prop
  | [] => False
  | byte :: _ => isDigit byte

instance : DecidablePred StartsWithDigit
  | [] => inferInstanceAs (Decidable False)
  | byte :: _ => inferInstanceAs (Decidable (isDigit byte = true))

/-- The end of `parse_line`; a login word that is missing is empty. -/
def accept (name : List UInt8) (address : Address)
    (login : List (List UInt8)) : Option SlpServer :=
  if ValidPort address.port then
    some
      { name := .strncpy 31 name
        host := .strncpy 127 address.host
        port := UInt16.ofNat address.port.toNat
        username := .strncpy 63 (login[0]?.getD [])
        password := .strncpy 63 (login[1]?.getD []) }
  else none

/-- The lines `name host[:port] [user [pass]]`. -/
def parseGlued (text : List UInt8) : Option SlpServer :=
  match sscanfWords [31, 127, 63, 63] text with
  | name :: host :: login => accept name (splitAtColon host) login
  | _ => none

/-- `parse_line`: a third word that starts with a digit is the port. -/
def parseLine (line : List UInt8) : Option SlpServer :=
  if lineText line = [] then none
  else
    match sscanfWords [31, 127, 7, 63, 63] (lineText line) with
    | name :: host :: port :: login =>
        if StartsWithDigit port then
          accept name ⟨host, strtol port⟩ login
        else parseGlued (lineText line)
    | _ => parseGlued (lineText line)

/-- `slpServersParse`. -/
def slpServersParse (text : List UInt8) : List SlpServer :=
  parseLines parseLine slpcfgMaxServers (linesOf text)

/-- `ReadConfigText`, for a file with these contents. -/
def readConfigText (capacity : Nat) (contents : List UInt8) :
    Option (List UInt8) :=
  if contents.length > 0 ∧ contents.length < capacity - 1 then
    some contents
  else none

/-- The list that `ReloadServers` parses, if it reads the file. -/
def loadServers (contents : List UInt8) : Option (List SlpServer) :=
  (readConfigText 4096 contents).map slpServersParse

/-- The part of an entry that the overlay has too. -/
def SlpServer.shown (server : SlpServer) : Overlay.SlpServer :=
  ⟨server.name, server.host, server.port⟩

/-! ## Words of a line -/

/-- More fields do not change the words of the fields before them. -/
theorem sscanfWords_append_take :
    ∀ (widths more : List Nat) (text : List UInt8),
      (sscanfWords (widths ++ more) text).take widths.length =
        sscanfWords widths text
  | [], more, text => by simp [sscanfWords]
  | width :: widths, more, text => by
      simp only [List.cons_append, sscanfWords, List.length_cons]
      split
      · rfl
      · rw [List.take_succ_cons, sscanfWords_append_take widths more]

theorem mem_of_mem_sscanfWords :
    ∀ {widths : List Nat} {text word : List UInt8} {byte : UInt8},
      word ∈ sscanfWords widths text → byte ∈ word → byte ∈ text
  | [], _, _, _, listed, _ => absurd listed List.not_mem_nil
  | width :: widths, text, word, byte, listed, member => by
      simp only [sscanfWords] at listed
      split at listed
      · exact absurd listed List.not_mem_nil
      · have skipped : ∀ byte ∈ text.dropWhile isSpace, byte ∈ text :=
          fun _ kept => (List.dropWhile_suffix _).subset kept
        rcases List.mem_cons.mp listed with rfl | later
        · exact skipped _
            (List.mem_of_mem_take ((List.takeWhile_prefix _).subset member))
        · exact skipped _
            (List.mem_of_mem_drop (mem_of_mem_sscanfWords later member))

theorem sscanfWords_second_length {width : Nat} {widths : List Nat}
    {text name host : List UInt8} {rest : List (List UInt8)}
    (first : Nat)
    (scanned :
      sscanfWords (first :: width :: widths) text = name :: host :: rest) :
    host.length ≤ width := by
  simp only [sscanfWords] at scanned
  split at scanned
  · nomatch scanned
  · split at scanned
    · simp at scanned
    · rw [← (List.cons.inj (List.cons.inj scanned).2).1]
      exact ((List.takeWhile_prefix _).length_le).trans
        (List.length_take_le _ _)

/-- The first three words of a line. -/
def lineWords (line : List UInt8) : List (List UInt8) :=
  sscanfWords [31, 127, 7] (lineText line)

theorem zero_notMem_lineText (line : List UInt8) : 0 ∉ lineText line := by
  intro member
  have kept :=
    List.mem_takeWhile_imp
      ((List.takeWhile_prefix _).subset
        ((List.rdropWhile_prefix _ _).subset member))
  simp at kept

theorem sscanfWords_nil (widths : List Nat) : sscanfWords widths [] = [] := by
  cases widths <;> simp [sscanfWords]

/-- The address of a line for the overlay. -/
def Overlay.addressOf : List (List UInt8) → Option (List UInt8 × Address)
  | [name, host] => some (name, splitAtColon host)
  | [name, host, port] => some (name, ⟨host, strtol port⟩)
  | _ => none

/-- The address of a line for the sysmodule. -/
def addressOf : List (List UInt8) → Option (List UInt8 × Address)
  | [name, host] => some (name, splitAtColon host)
  | [name, host, port] =>
      some
        (name,
          if StartsWithDigit port then ⟨host, strtol port⟩
          else splitAtColon host)
  | _ => none

theorem sscanfWords_length_le :
    ∀ (widths : List Nat) (text : List UInt8),
      (sscanfWords widths text).length ≤ widths.length
  | [], _ => by simp [sscanfWords]
  | width :: widths, text => by
      simp only [sscanfWords, List.length_cons]
      split
      · exact Nat.zero_le _
      · exact Nat.succ_le_succ (sscanfWords_length_le widths _)

theorem Overlay.parseLine_eq (line : List UInt8) :
    Overlay.parseLine line =
      (Overlay.addressOf (lineWords line)).bind
        fun found => Overlay.accept found.1 found.2 := by
  have two := sscanfWords_append_take [31, 127] [7] (lineText line)
  have short := sscanfWords_length_le [31, 127, 7] (lineText line)
  unfold Overlay.parseLine lineWords
  simp only [List.cons_append, List.nil_append] at two
  split
  · next empty => rw [empty, sscanfWords_nil]; rfl
  · rw [← two]
    generalize sscanfWords [31, 127, 7] (lineText line) = words at short
    rcases words with _ | ⟨name, _ | ⟨host, _ | ⟨port, _ | ⟨more, rest⟩⟩⟩⟩
    · rfl
    · rfl
    · rfl
    · rfl
    · simp only [List.length_cons, List.length_nil] at short
      omega

theorem accept_shown (name : List UInt8) (address : Address)
    (login : List (List UInt8)) :
    (accept name address login).map SlpServer.shown =
      Overlay.accept name address := by
  unfold accept Overlay.accept
  split
  · rfl
  · rfl

theorem parseGlued_shown (line : List UInt8) :
    (parseGlued (lineText line)).map SlpServer.shown =
      match lineWords line with
      | name :: host :: _ => Overlay.accept name (splitAtColon host)
      | _ => none := by
  have two := sscanfWords_append_take [31, 127] [7] (lineText line)
  have glued := sscanfWords_append_take [31, 127] [63, 63] (lineText line)
  simp only [List.cons_append, List.nil_append] at two glued
  rw [← two] at glued
  unfold parseGlued lineWords
  generalize sscanfWords [31, 127, 63, 63] (lineText line) = fields at glued
  generalize sscanfWords [31, 127, 7] (lineText line) = words at glued
  rcases fields with _ | ⟨name, _ | ⟨host, login⟩⟩ <;>
    rcases words with _ | ⟨word, _ | ⟨other, rest⟩⟩ <;>
    simp only [List.length_cons, List.length_nil, List.take_succ_cons,
      List.take_zero, List.take_nil, List.cons.injEq, reduceCtorEq, and_true,
      and_false] at glued
  · rfl
  · rfl
  · rcases glued with ⟨rfl, rfl⟩
    exact accept_shown _ _ _

theorem parseLine_shown (line : List UInt8) :
    (parseLine line).map SlpServer.shown =
      (addressOf (lineWords line)).bind
        fun found => Overlay.accept found.1 found.2 := by
  have three := sscanfWords_append_take [31, 127, 7] [63, 63] (lineText line)
  have short := sscanfWords_length_le [31, 127, 7] (lineText line)
  have glued := parseGlued_shown line
  simp only [List.cons_append, List.nil_append] at three
  unfold parseLine
  split
  · next empty =>
      unfold lineWords
      rw [empty, sscanfWords_nil]
      rfl
  · unfold lineWords at glued ⊢
    rw [← three] at glued short ⊢
    generalize sscanfWords [31, 127, 7, 63, 63] (lineText line) = fields
      at glued short ⊢
    rcases fields with _ | ⟨name, _ | ⟨host, _ | ⟨port, login⟩⟩⟩
    · exact glued
    · exact glued
    · exact glued
    · simp only [List.length_cons, List.length_nil, List.take_succ_cons,
        List.take_zero] at glued ⊢
      simp only [addressOf, Option.bind_some]
      split
      · exact accept_shown _ _ _
      · exact glued

/-! ## When the two copies agree -/

/-- The two copies make the same of a host and a third word that is no
number: both refuse the port they find, or both find the default port. -/
def SameAddress (host port : List UInt8) : Prop :=
  (¬ ValidPort (strtol port) ∧ ¬ ValidPort (splitAtColon host).port) ∨
    (58 ∉ host ∧ strtol port = defaultPort)

/-- There is no third word, or it starts with a digit, or it makes no
difference. -/
def WordsAgree (words : List (List UInt8)) : Prop :=
  ∀ name host port, words = [name, host, port] →
    StartsWithDigit port ∨ SameAddress host port

theorem CString.strncpy_bytes {count : Nat} {text : List UInt8}
    (terminated : 0 ∉ text) (fits : text.length ≤ count) :
    (CString.strncpy count text).bytes = text := by
  have whole : text.takeWhile (· ≠ 0) = text := by
    rw [List.takeWhile_eq_self_iff]
    intro byte member
    exact decide_eq_true fun zero => terminated (zero ▸ member)
  change (text.takeWhile (· ≠ 0)).take count = text
  rw [whole, List.take_of_length_le fits]

/-- A host cut at its last colon is shorter. -/
theorem splitAtColon_host {host : List UInt8} (colon : 58 ∈ host) :
    (splitAtColon host).host <+: host ∧
      (splitAtColon host).host.length < host.length := by
  have kept : (host.rdropWhile (· ≠ 58)) <+: host :=
    List.rdropWhile_prefix _ _
  have positive : 0 < host.length := List.length_pos_of_mem colon
  have shorter := kept.length_le
  simp only [splitAtColon, if_pos colon]
  refine ⟨(List.dropLast_prefix _).trans kept, ?_⟩
  rw [List.length_dropLast]
  omega

theorem strncpy_splitAtColon_ne {host : List UInt8} (terminated : 0 ∉ host)
    (fits : host.length ≤ 127) (colon : 58 ∈ host) :
    CString.strncpy 127 host ≠ .strncpy 127 (splitAtColon host).host := by
  rcases splitAtColon_host colon with ⟨kept, shorter⟩
  intro same
  have bytes := congrArg CString.bytes same
  rw [CString.strncpy_bytes terminated fits,
    CString.strncpy_bytes (fun zero => terminated (kept.subset zero))
      (shorter.le.trans fits)] at bytes
  exact absurd (congrArg List.length bytes) (Nat.ne_of_gt shorter)

theorem validPort_ofNat_inj {first second : Int} (one : ValidPort first)
    (two : ValidPort second)
    (same : UInt16.ofNat first.toNat = UInt16.ofNat second.toNat) :
    first = second := by
  unfold ValidPort at one two
  have values := congrArg UInt16.toNat same
  simp only [UInt16.toNat_ofNat'] at values
  omega

theorem validPort_defaultPort : ValidPort defaultPort := by decide

theorem accept_eq_accept_splitAtColon_iff {name host port : List UInt8}
    (terminated : 0 ∉ host) (fits : host.length ≤ 127) :
    Overlay.accept name ⟨host, strtol port⟩ =
        Overlay.accept name (splitAtColon host) ↔
      SameAddress host port := by
  unfold Overlay.accept SameAddress
  by_cases asPort : ValidPort (strtol port)
  · by_cases glued : ValidPort (splitAtColon host).port
    · rw [if_pos asPort, if_pos glued, Option.some.injEq,
        Overlay.SlpServer.mk.injEq]
      constructor
      · rintro ⟨-, hosts, ports⟩
        have noColon : 58 ∉ host := fun colon =>
          strncpy_splitAtColon_ne terminated fits colon hosts
        have same := validPort_ofNat_inj asPort glued ports
        simp only [splitAtColon, if_neg noColon] at same
        exact .inr ⟨noColon, same⟩
      · rintro (⟨refused, -⟩ | ⟨noColon, same⟩)
        · exact absurd asPort refused
        · simp only [splitAtColon, if_neg noColon, same, and_self]
    · rw [if_pos asPort, if_neg glued]
      refine iff_of_false (Option.some_ne_none _) ?_
      rintro (⟨refused, -⟩ | ⟨noColon, -⟩)
      · exact refused asPort
      · refine glued ?_
        simp only [splitAtColon, if_neg noColon]
        exact validPort_defaultPort
  · by_cases glued : ValidPort (splitAtColon host).port
    · rw [if_neg asPort, if_pos glued]
      refine iff_of_false (Option.some_ne_none _).symm ?_
      rintro (⟨-, refused⟩ | ⟨-, same⟩)
      · exact refused glued
      · exact asPort (same ▸ validPort_defaultPort)
    · rw [if_neg asPort, if_neg glued]
      exact iff_of_true rfl (.inl ⟨asPort, glued⟩)

/-- Exactly the lines from which both copies read the same entry or none. -/
theorem parseLine_eq_iff_wordsAgree (line : List UInt8) :
    Overlay.parseLine line = (parseLine line).map SlpServer.shown ↔
      WordsAgree (lineWords line) := by
  rw [Overlay.parseLine_eq, parseLine_shown]
  have short := sscanfWords_length_le [31, 127, 7] (lineText line)
  change (lineWords line).length ≤ 3 at short
  cases words : lineWords line with
  | nil => exact iff_of_true rfl fun _ _ _ same => nomatch same
  | cons name others =>
      rcases others with _ | ⟨host, _ | ⟨port, _ | ⟨more, rest⟩⟩⟩
      · exact iff_of_true rfl fun _ _ _ same => nomatch same
      · exact iff_of_true rfl fun _ _ _ same => nomatch same
      · have listed : host ∈ lineWords line := by rw [words]; simp
        have terminated : 0 ∉ host := fun zero =>
          zero_notMem_lineText line (mem_of_mem_sscanfWords listed zero)
        have fits : host.length ≤ 127 := sscanfWords_second_length 31 words
        simp only [Overlay.addressOf, addressOf, Option.bind_some,
          WordsAgree, List.cons.injEq, and_true]
        by_cases digit : StartsWithDigit port
        · rw [if_pos digit]
          refine iff_of_true rfl ?_
          rintro _ _ _ ⟨-, -, rfl⟩
          exact .inl digit
        · rw [if_neg digit,
            accept_eq_accept_splitAtColon_iff terminated fits]
          constructor
          · rintro same _ _ _ ⟨-, rfl, rfl⟩
            exact .inr same
          · intro agree
            exact (agree name host port ⟨rfl, rfl, rfl⟩).resolve_left digit
      · rw [words] at short
        simp only [List.length_cons] at short
        omega

/-! ## The lists -/

/-- A line of the overlay's part of the file and of the whole file; either
may be missing. -/
abbrev LinePair : Type := Option (List UInt8) × Option (List UInt8)

namespace LinePair

/-- The entry that the overlay reads. -/
def forOverlay (lines : LinePair) : Option Overlay.SlpServer :=
  lines.1.bind Overlay.parseLine

/-- The entry that the sysmodule reads, as far as the overlay has it. -/
def forSysmodule (lines : LinePair) : Option Overlay.SlpServer :=
  lines.2.bind fun line => (parseLine line).map SlpServer.shown

/-- The words of a line that both have whole agree; and where the overlay has
the line cut short, or not at all, this changes no entry. -/
def Agree (lines : LinePair) : Prop :=
  if lines.1 = lines.2 then
    ∀ line ∈ lines.2, WordsAgree (lineWords line)
  else lines.forOverlay = lines.forSysmodule

theorem agree_iff (lines : LinePair) :
    lines.Agree ↔ lines.forOverlay = lines.forSysmodule := by
  rcases lines with ⟨seen, whole⟩
  by_cases same : seen = whole
  · subst same
    simp only [Agree, if_true]
    cases seen with
    | none => exact iff_of_true (fun _ none => nomatch none) rfl
    | some line =>
        simp only [Option.mem_some_iff, forall_eq']
        exact (parseLine_eq_iff_wordsAgree line).symm
  · simp only [Agree, if_neg same]

end LinePair

/-- The lines of a file, as the overlay and the sysmodule have them. -/
def linePairs (contents : List UInt8) : List LinePair :=
  List.zipWithAll Prod.mk
    (linesOf (contents.take (Overlay.bufferSize - 1))) (linesOf contents)

theorem filterMap_zipWithAll_fst {α β γ : Type*} (read : α → Option γ) :
    ∀ (first : List α) (second : List β),
      (List.zipWithAll Prod.mk first second).filterMap
          (fun pair => pair.1.bind read) =
        first.filterMap read
  | [], second => by simp
  | item :: first, [] => by
      rw [List.zipWithAll_nil, List.filterMap_map]
      rfl
  | item :: first, other :: second => by
      rw [List.zipWithAll_cons_cons, List.filterMap_cons,
        List.filterMap_cons, filterMap_zipWithAll_fst read first second]
      rfl

theorem filterMap_zipWithAll_snd {α β γ : Type*} (read : β → Option γ) :
    ∀ (first : List α) (second : List β),
      (List.zipWithAll Prod.mk first second).filterMap
          (fun pair => pair.2.bind read) =
        second.filterMap read
  | [], second => by
      rw [List.nil_zipWithAll, List.filterMap_map]
      rfl
  | item :: first, [] => by simp
  | item :: first, other :: second => by
      rw [List.zipWithAll_cons_cons, List.filterMap_cons,
        List.filterMap_cons, filterMap_zipWithAll_snd read first second]
      rfl

theorem slpServersLoad_eq (contents : List UInt8) :
    Overlay.slpServersLoad contents =
      ((linePairs contents).filterMap LinePair.forOverlay).take
        slpcfgMaxServers := by
  have entries :=
    filterMap_zipWithAll_fst Overlay.parseLine
      (linesOf (contents.take (Overlay.bufferSize - 1))) (linesOf contents)
  unfold Overlay.slpServersLoad Overlay.slpServersParse
  rw [parseLines_eq_take]
  exact congrArg (List.take slpcfgMaxServers) entries.symm

theorem slpServersParse_shown (contents : List UInt8) :
    (slpServersParse contents).map SlpServer.shown =
      ((linePairs contents).filterMap LinePair.forSysmodule).take
        slpcfgMaxServers := by
  have entries :=
    filterMap_zipWithAll_snd
      (fun line => (parseLine line).map SlpServer.shown)
      (linesOf (contents.take (Overlay.bufferSize - 1))) (linesOf contents)
  unfold slpServersParse
  rw [parseLines_eq_take, List.map_take, List.map_filterMap]
  exact congrArg (List.take slpcfgMaxServers) entries.symm

/-! ## Rows and selections -/

/-- After `ReloadServers` the sysmodule's list is the overlay's, and
`SelectServer` with the number of a row selects the server of that row. -/
structure SameServers (runtime : Runtime) (contents : List UInt8) :
    Prop where
  rows :
    (runtime.reloadServers (loadServers contents)).1.servers.map
        SlpServer.shown =
      Overlay.slpServersLoad contents
  selects :
    ∀ (index : Nat) (row : Overlay.SlpServer),
      (Overlay.slpServersLoad contents)[index]? = some row →
        ((runtime.reloadServers (loadServers contents)).1.selectServer
              (UInt32.ofNat index)).1.selected.map SlpServer.shown =
          some row

/-- The sysmodule reads the file and the two copies agree line by line until
ten servers are read; or it does not read the file, and the list that it
keeps has the overlay's rows. -/
def InStep (runtime : Runtime) (contents : List UInt8) : Prop :=
  if contents.length > 0 ∧ contents.length < 4095 then
    Aligned LinePair.forOverlay LinePair.Agree slpcfgMaxServers
      (linePairs contents)
  else
    runtime.servers.map SlpServer.shown = Overlay.slpServersLoad contents

/-- No two lines give a server of the same name. -/
def NamesApart (contents : List UInt8) : Prop :=
  KeysApart LinePair.forOverlay LinePair.forSysmodule
    Overlay.SlpServer.name (linePairs contents)

theorem reloadServers_shown (runtime : Runtime) (contents : List UInt8) :
    (runtime.reloadServers (loadServers contents)).1.servers.map
        SlpServer.shown =
      if contents.length > 0 ∧ contents.length < 4095 then
        (slpServersParse contents).map SlpServer.shown
      else runtime.servers.map SlpServer.shown := by
  unfold loadServers readConfigText
  split
  · rfl
  · rfl

theorem slpServersLoad_length_le (contents : List UInt8) :
    (Overlay.slpServersLoad contents).length ≤ slpcfgMaxServers := by
  rw [slpServersLoad_eq]
  exact List.length_take_le _ _

theorem selectServer_selected {runtime : Runtime} {index : Nat}
    (small : index < 10) (listed : index < runtime.servers.length) :
    (runtime.selectServer (UInt32.ofNat index)).1.selected =
      runtime.servers[index]? := by
  have rows : ∀ row : Fin 10, (UInt32.ofNat row).toInt32.toInt = row := by
    decide
  have signed : (UInt32.ofNat index).toInt32.toInt = index :=
    rows ⟨index, small⟩
  have room : ¬ ((index : Int) ≥ runtime.servers.length) := by omega
  unfold Runtime.selectServer
  rw [signed, if_neg room]
  simp [Runtime.selected]

theorem sameServers_of_rows {runtime : Runtime} {contents : List UInt8}
    (rows :
      (runtime.reloadServers (loadServers contents)).1.servers.map
          SlpServer.shown =
        Overlay.slpServersLoad contents) :
    SameServers runtime contents where
  rows := rows
  selects index row shown := by
    have present := (List.getElem?_eq_some_iff.mp shown).1
    have small : index < 10 :=
      present.trans_le (slpServersLoad_length_le contents)
    rw [← rows] at shown present
    rw [List.length_map] at present
    rw [selectServer_selected small present, ← List.getElem?_map, shown]

theorem rows_iff (runtime : Runtime) (contents : List UInt8) :
    SameServers runtime contents ↔
      (if contents.length > 0 ∧ contents.length < 4095 then
          (slpServersParse contents).map SlpServer.shown
        else runtime.servers.map SlpServer.shown) =
        Overlay.slpServersLoad contents := by
  rw [← reloadServers_shown]
  exact ⟨SameServers.rows, sameServers_of_rows⟩

/-- Agreement line by line gives both the same list, so that each row selects
its own server; and as long as no two lines give a server of the same name,
the lists are the same only then. -/
theorem sameServers_iff_inStep (runtime : Runtime) (contents : List UInt8) :
    (InStep runtime contents → SameServers runtime contents) ∧
      (NamesApart contents →
        (SameServers runtime contents ↔ InStep runtime contents)) := by
  have enough : InStep runtime contents → SameServers runtime contents := by
    intro inStep
    rw [rows_iff]
    unfold InStep at inStep
    split at inStep
    · next read =>
        rw [if_pos read, slpServersParse_shown, slpServersLoad_eq]
        exact (inStep.entries_eq LinePair.agree_iff).symm
    · next unread =>
        rw [if_neg unread]
        exact inStep
  refine ⟨enough, fun apart => ⟨fun same => ?_, enough⟩⟩
  rw [rows_iff] at same
  unfold InStep
  split at same
  · next read =>
      rw [slpServersParse_shown, slpServersLoad_eq] at same
      rw [if_pos read]
      exact aligned_of_entries_eq LinePair.agree_iff _ apart same.symm
  · next unread =>
      rw [if_neg unread]
      exact same

/-- The two lines `a h 5` and `b g:6`. -/
def plainFile : List UInt8 :=
  [97, 32, 104, 32, 53, 10, 98, 32, 103, 58, 54, 10]

theorem plainFile_inStep : InStep Runtime.constructed plainFile := by
  refine ⟨?_, ?_, trivial⟩
  · exact (LinePair.agree_iff _).mpr (by decide)
  · exact (LinePair.agree_iff _).mpr (by decide)

theorem plainFile_namesApart : NamesApart plainFile := by
  unfold NamesApart KeysApart
  decide

/-- A port as a third word and a port after a colon are read alike. -/
theorem plainFile_sameServers :
    SameServers Runtime.constructed plainFile ∧
      (SameServers Runtime.constructed plainFile ↔
        InStep Runtime.constructed plainFile) :=
  ⟨(sameServers_iff_inStep _ plainFile).1 plainFile_inStep,
    (sameServers_iff_inStep _ plainFile).2 plainFile_namesApart⟩

/-- The two lines `a h:5 u p` and `b g`. -/
def loginFile : List UInt8 :=
  [97, 32, 104, 58, 53, 32, 117, 32, 112, 10, 98, 32, 103, 10]

/-- A login takes its line out of the overlay's list, and its first row
selects the server of that line. -/
theorem loginFile_not_sameServers :
    ¬ SameServers Runtime.constructed loginFile := by
  intro same
  have lengths := congrArg List.length same.rows
  revert lengths
  decide

end SlpClient.Slp
