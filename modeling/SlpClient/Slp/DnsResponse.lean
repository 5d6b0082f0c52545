import SlpClient.Lib.ByteCodec
import SlpClient.Lib.DnsFormat
import SlpClient.Lib.Memory
import SlpClient.Lib.Traced

/-!
# The response parser

`dns_parse_response` steps over the question and then over one answer after
the other, until it finds an address.  Each byte it reads is noted with its
index.  The loops are followed on the bytes they step over: a name is walked
from label to label, an answer is a name with ten bytes and its data.  The
parser finds the first address among the answers.  Only one check is too weak,
that for the data of an address: it asks for two bytes and four are copied.
-/

namespace SlpClient.Slp

open SlpClient.Lib
open SlpClient.Lib.Dns
open SlpClient.Lib.Memory

/-- `resp[i]`. -/
def readByte (resp : Nat → UInt8) (index : Nat) : Traced Nat UInt8 := do
  Traced.log index
  pure (resp index)

/-- `(uint16_t)((resp[i] << 8) | resp[i + 1])`. -/
def readWord (resp : Nat → UInt8) (index : Nat) : Traced Nat UInt16 := do
  let high ← readByte resp index
  let low ← readByte resp (index + 1)
  pure ((high.toUInt32 <<< 8) ||| low.toUInt32).toUInt16

/-- The `while` loop over the name of the question, and what follows it. -/
def skipQuestion (resp : Nat → UInt8) (len pos : Nat) : Traced Nat Nat :=
  if pos < len then do
    let l ← readByte resp pos
    if l = 0 then pure (pos + 5)
    else if l &&& 0xC0 = 0xC0 then pure (pos + 2)
    else skipQuestion resp len (pos + 1 + l.toNat)
  else pure (pos + 5)
termination_by len - pos

/-- The `while` loop over the name of an answer. -/
def skipName (resp : Nat → UInt8) (len pos : Nat) : Traced Nat Nat :=
  if pos < len then do
    let l ← readByte resp pos
    if l &&& 0xC0 = 0xC0 then pure (pos + 2)
    else if l = 0 then pure (pos + 1)
    else skipName resp len (pos + 1 + l.toNat)
  else pure pos
termination_by len - pos

/-- `memcpy` of `count` bytes. -/
def copyBytes (resp : Nat → UInt8) (index : Nat) :
    Nat → Traced Nat (List UInt8)
  | 0 => pure []
  | count + 1 => do
      let byte ← readByte resp index
      let rest ← copyBytes resp (index + 1) count
      pure (byte :: rest)

/-- The `for` loop over the answers, `left` of them to go. -/
def findAddress (resp : Nat → UInt8) (len : Nat) :
    Nat → Nat → Traced Nat (Option (List UInt8))
  | 0, _ => pure none
  | left + 1, start =>
      if start + 12 ≤ len then do
        let pos ← skipName resp len start
        if pos + 10 > len then pure none
        else do
          let type ← readWord resp pos
          let rdlen ← readWord resp (pos + 8)
          if type = 1 ∧ rdlen = 4 ∧ pos + 12 ≤ len then do
            let out ← copyBytes resp (pos + 10) 4
            pure (some out)
          else findAddress resp len left (pos + 10 + rdlen.toNat)
      else pure none

/-- `dns_parse_response`; the bytes stored, or nothing if it returns zero. -/
def dnsParseResponse (resp : Nat → UInt8) (len : Nat) :
    Traced Nat (Option (List UInt8)) :=
  if len < 12 then pure none
  else do
    let flags ← readWord resp 2
    if flags &&& 0x8000 = 0 ∨ flags &&& 0x000F ≠ 0 then pure none
    else do
      let ancount ← readWord resp 6
      if ancount = 0 then pure none
      else do
        let pos ← skipQuestion resp len 12
        findAddress resp len ancount.toNat pos

/-! ## What is stepped over -/

/-- The bytes that the loop over a name steps over. -/
inductive WalkedName : List UInt8 → Prop
  | root : WalkedName [0]
  | pointer (high low : UInt8) (marked : high &&& 0xC0 = 0xC0) :
      WalkedName [high, low]
  | label (length : UInt8) (label rest : List UInt8)
      (positive : length ≠ 0) (unmarked : length &&& 0xC0 ≠ 0xC0)
      (complete : label.length = length.toNat) (walked : WalkedName rest) :
      WalkedName (length :: (label ++ rest))

/-- The bytes of the question: a name, and four bytes unless the name ends in
a pointer. -/
inductive WalkedQuestion : List UInt8 → Prop
  | root (fixed : List UInt8) (four : fixed.length = 4) :
      WalkedQuestion (0 :: fixed)
  | pointer (high low : UInt8) (marked : high &&& 0xC0 = 0xC0) :
      WalkedQuestion [high, low]
  | label (length : UInt8) (label rest : List UInt8)
      (positive : length ≠ 0) (unmarked : length &&& 0xC0 ≠ 0xC0)
      (complete : label.length = length.toNat)
      (walked : WalkedQuestion rest) :
      WalkedQuestion (length :: (label ++ rest))

/-- The bytes of an answer. -/
structure WalkedAnswer where
  name : List UInt8
  walked : WalkedName name
  type : UInt16
  middle : List UInt8
  six : middle.length = 6
  data : List UInt8
  short : data.length < 65536

namespace WalkedAnswer

/-- The ten bytes after the name, for data of some length. -/
def fixed (answer : WalkedAnswer) (length : UInt16) : List UInt8 :=
  word16 answer.type ++ (answer.middle ++ word16 length)

def bytes (answer : WalkedAnswer) : List UInt8 :=
  answer.name ++
    (answer.fixed (UInt16.ofNat answer.data.length) ++ answer.data)

/-- TYPE A and RDLENGTH 4. -/
def IsAddress (answer : WalkedAnswer) : Prop :=
  answer.type = 1 ∧ answer.data.length = 4

instance decidableIsAddress : DecidablePred IsAddress :=
  fun answer =>
    inferInstanceAs
      (Decidable (answer.type = 1 ∧ answer.data.length = 4))

end WalkedAnswer

/-- The bytes of an answer that is an address, of which two or three bytes of
four are there. -/
def CutAddress (bytes : List UInt8) : Prop :=
  ∃ last : WalkedAnswer,
    last.type = 1 ∧ (last.data.length = 2 ∨ last.data.length = 3) ∧
      bytes = last.name ++ (last.fixed 4 ++ last.data)

/-- The datagram ends in an address that is cut off, after fewer than `left`
other answers. -/
def EndsInAddress (resp : Nat → UInt8) (len left start : Nat) : Prop :=
  ∃ (answers : List WalkedAnswer) (cut : List UInt8),
    answers.length < left ∧
      (∀ answer ∈ answers, ¬ WalkedAnswer.IsAddress answer) ∧
      CutAddress cut ∧
      Holds resp start (answers.flatMap WalkedAnswer.bytes ++ cut) ∧
      len =
        start + (answers.flatMap WalkedAnswer.bytes ++ cut).length

/-- A response without an error. -/
def IsResponse (flags : UInt16) : Prop :=
  ¬ (flags &&& 0x8000 = 0 ∨ flags &&& 0x000F ≠ 0)

/--
The datagram is a response without an error, and its first address among the
answers that are announced is cut off after two or three bytes.
-/
def CutDatagram (resp : Nat → UInt8) (len : Nat) : Prop :=
  12 ≤ len ∧ IsResponse (joinBytes (resp 2) (resp 3)) ∧
    ∃ question, WalkedQuestion question ∧ Holds resp 12 question ∧
      EndsInAddress resp len (joinBytes (resp 6) (resp 7)).toNat
        (12 + question.length)

/-! ## Reading -/

theorem joinBytes_eq (high low : UInt8) :
    ((high.toUInt32 <<< 8) ||| low.toUInt32).toUInt16 =
      joinBytes high low := by
  unfold joinBytes
  rw [← UInt16.toNat_inj, UInt32.toNat_toUInt16, shiftLeft_or_toNat,
    UInt16.toNat_ofNat', Nat.mul_comm]

@[simp]
theorem readWord_value (resp : Nat → UInt8) (index : Nat) :
    (readWord resp index).value =
      joinBytes (resp index) (resp (index + 1)) :=
  joinBytes_eq ..

variable {resp : Nat → UInt8} {len : Nat}

theorem readByte_meets {index : Nat} (inside : index < len) :
    (readByte resp index).Meets (· < len) fun byte => byte = resp index :=
  Traced.Meets.bind (Traced.Meets.log inside) fun _ _ =>
    Traced.Meets.pure rfl

theorem readWord_meets {index : Nat} (inside : index + 1 < len) :
    (readWord resp index).Meets (· < len) fun word =>
      word = joinBytes (resp index) (resp (index + 1)) := by
  apply Traced.Meets.bind (readByte_meets (Nat.lt_of_succ_lt inside))
  rintro high rfl
  apply Traced.Meets.bind (readByte_meets inside)
  rintro low rfl
  exact Traced.Meets.pure (joinBytes_eq ..)

theorem copyBytes_meets {index count : Nat} (inside : index + count ≤ len) :
    (copyBytes resp index count).Meets (· < len) fun _ => True := by
  induction count generalizing index with
  | zero => exact Traced.Meets.pure trivial
  | succ count induction =>
      apply Traced.Meets.bind (readByte_meets (by omega))
      intro byte _
      apply Traced.Meets.bind (induction (by omega))
      intro rest _
      exact Traced.Meets.pure trivial

@[simp]
theorem copyBytes_value (index count : Nat) :
    (copyBytes resp index count).value = slice resp index count := by
  induction count generalizing index with
  | zero => rfl
  | succ count induction =>
      exact List.cons_eq_cons.mpr ⟨rfl, induction _⟩

/-! ## Names -/

/-- A label that is there, with what comes after it. -/
theorem holds_label {pos : Nat} {rest : List UInt8}
    (holds : Holds resp (pos + 1 + (resp pos).toNat) rest) :
    Holds resp pos
        (resp pos :: (slice resp (pos + 1) (resp pos).toNat ++ rest)) ∧
      pos + 1 + (resp pos).toNat + rest.length =
        pos +
          (resp pos ::
            (slice resp (pos + 1) (resp pos).toNat ++ rest)).length := by
  constructor
  · refine ⟨rfl, holds_append.mpr ⟨holds_slice .., ?_⟩⟩
    rw [length_slice]
    exact holds
  · rw [List.length_cons, List.length_append, length_slice]
    omega

/-- The loop over a name reads in the datagram, and stops behind the bytes it
stepped over if it stops in it. -/
theorem skipName_meets (pos : Nat) :
    (skipName resp len pos).Meets (· < len) fun next =>
      next < len →
        ∃ bytes, WalkedName bytes ∧ Holds resp pos bytes ∧
          next = pos + bytes.length := by
  induction gap : len - pos using Nat.strong_induction_on
    generalizing pos with
  | _ gap induction =>
      rw [skipName]
      apply Traced.Meets.ite
      · intro inside
        apply Traced.Meets.bind (readByte_meets inside)
        rintro byte rfl
        apply Traced.Meets.ite
        · intro marked
          apply Traced.Meets.pure
          intro _
          exact
            ⟨[resp pos, resp (pos + 1)], .pointer _ _ marked,
              ⟨rfl, rfl, trivial⟩, rfl⟩
        · intro unmarked
          apply Traced.Meets.ite
          · intro zero
            apply Traced.Meets.pure
            intro _
            exact ⟨[0], .root, ⟨zero, trivial⟩, rfl⟩
          · intro positive
            apply
              (induction (len - (pos + 1 + (resp pos).toNat)) (by omega) _
                rfl).mono
            intro next walks reached
            rcases walks reached with ⟨rest, walked, holds, rfl⟩
            exact
              ⟨_, .label _ _ _ positive unmarked (length_slice ..) walked,
                holds_label holds⟩
      · intro outside
        apply Traced.Meets.pure
        intro reached
        exact absurd reached outside

theorem skipName_value_eq {pos : Nat} (inside : pos < len) :
    (skipName resp len pos).value =
      if resp pos &&& 0xC0 = 0xC0 then pos + 2
      else if resp pos = 0 then pos + 1
      else (skipName resp len (pos + 1 + (resp pos).toNat)).value := by
  rw [skipName, if_pos inside]
  show
    (if resp pos &&& 0xC0 = 0xC0 then pure (pos + 2)
      else if resp pos = 0 then pure (pos + 1)
      else skipName resp len (pos + 1 + (resp pos).toNat) :
        Traced Nat Nat).value = _
  rw [apply_ite Traced.value, apply_ite Traced.value]
  rfl

/-- The loop steps over a name that is in the datagram. -/
theorem skipName_value {bytes : List UInt8} (walked : WalkedName bytes)
    {pos : Nat} (holds : Holds resp pos bytes)
    (inside : pos + bytes.length ≤ len) :
    (skipName resp len pos).value = pos + bytes.length := by
  induction walked generalizing pos with
  | root =>
      rw [List.length_singleton] at inside
      rw [skipName_value_eq (by omega), show resp pos = 0 from holds.1]
      rfl
  | pointer high low marked =>
      rw [skipName_value_eq (Nat.lt_of_lt_of_le (by simp) inside),
        show resp pos = high from holds.1, if_pos marked]
      rfl
  | label length label rest positive unmarked complete walked induction =>
      rw [List.length_cons, List.length_append] at inside ⊢
      have after := (holds_append.mp holds.2).2
      rw [complete] at after inside ⊢
      rw [skipName_value_eq (by omega), show resp pos = length from holds.1,
        if_neg unmarked, if_neg positive, induction after (by omega)]
      omega

/-! ## The question -/

/-- The question is read in the datagram, and stepped over as a whole if the
loop stops in it. -/
theorem skipQuestion_meets (pos : Nat) :
    (skipQuestion resp len pos).Meets (· < len) fun next =>
      next < len →
        ∃ bytes, WalkedQuestion bytes ∧ Holds resp pos bytes ∧
          next = pos + bytes.length := by
  induction gap : len - pos using Nat.strong_induction_on
    generalizing pos with
  | _ gap induction =>
      rw [skipQuestion]
      apply Traced.Meets.ite
      · intro inside
        apply Traced.Meets.bind (readByte_meets inside)
        rintro byte rfl
        apply Traced.Meets.ite
        · intro zero
          apply Traced.Meets.pure
          intro _
          exact
            ⟨0 :: slice resp (pos + 1) 4, .root _ (length_slice ..),
              ⟨zero, holds_slice ..⟩, rfl⟩
        · intro positive
          apply Traced.Meets.ite
          · intro marked
            apply Traced.Meets.pure
            intro _
            exact
              ⟨[resp pos, resp (pos + 1)], .pointer _ _ marked,
                ⟨rfl, rfl, trivial⟩, rfl⟩
          · intro unmarked
            apply
              (induction (len - (pos + 1 + (resp pos).toNat)) (by omega) _
                rfl).mono
            intro next walks reached
            rcases walks reached with ⟨rest, walked, holds, rfl⟩
            exact
              ⟨_, .label _ _ _ positive unmarked (length_slice ..) walked,
                holds_label holds⟩
      · intro outside
        apply Traced.Meets.pure
        intro reached
        omega

theorem skipQuestion_value_eq {pos : Nat} (inside : pos < len) :
    (skipQuestion resp len pos).value =
      if resp pos = 0 then pos + 5
      else if resp pos &&& 0xC0 = 0xC0 then pos + 2
      else
        (skipQuestion resp len (pos + 1 + (resp pos).toNat)).value := by
  rw [skipQuestion, if_pos inside]
  show
    (if resp pos = 0 then pure (pos + 5)
      else if resp pos &&& 0xC0 = 0xC0 then pure (pos + 2)
      else skipQuestion resp len (pos + 1 + (resp pos).toNat) :
        Traced Nat Nat).value = _
  rw [apply_ite Traced.value, apply_ite Traced.value]
  rfl

/-- A question that is in the datagram is stepped over. -/
theorem skipQuestion_value {bytes : List UInt8}
    (walked : WalkedQuestion bytes) {pos : Nat}
    (holds : Holds resp pos bytes) (inside : pos + bytes.length ≤ len) :
    (skipQuestion resp len pos).value = pos + bytes.length := by
  induction walked generalizing pos with
  | root fixed four =>
      rw [List.length_cons, four] at inside ⊢
      rw [skipQuestion_value_eq (by omega),
        show resp pos = 0 from holds.1]
      rfl
  | pointer high low marked =>
      have positive : high ≠ 0 := by
        rintro rfl
        exact absurd marked (by decide)
      rw [skipQuestion_value_eq (Nat.lt_of_lt_of_le (by simp) inside),
        show resp pos = high from holds.1, if_neg positive,
        if_pos marked]
      rfl
  | label length label rest positive unmarked complete walked induction =>
      rw [List.length_cons, List.length_append] at inside ⊢
      have after := (holds_append.mp holds.2).2
      rw [complete] at after inside ⊢
      rw [skipQuestion_value_eq (by omega),
        show resp pos = length from holds.1, if_neg positive,
        if_neg unmarked, induction after (by omega)]
      omega

/-! ## Answers -/

/-- What the loop does with an answer whose name ends before `pos`. -/
def atAnswer (resp : Nat → UInt8) (len left pos : Nat) :
    Traced Nat (Option (List UInt8)) :=
  let rdlen := joinBytes (resp (pos + 8)) (resp (pos + 9))
  if joinBytes (resp pos) (resp (pos + 1)) = 1 ∧ rdlen = 4 ∧
      pos + 12 ≤ len then do
    let out ← copyBytes resp (pos + 10) 4
    pure (some out)
  else findAddress resp len left (pos + 10 + rdlen.toNat)

theorem findAddress_step {start left : Nat} (room : start + 12 ≤ len)
    (fixed : (skipName resp len start).value + 10 ≤ len) :
    (findAddress resp len (left + 1) start).value =
        (atAnswer resp len left (skipName resp len start).value).value ∧
      ∃ front,
        (findAddress resp len (left + 1) start).trace =
          front ++
            (atAnswer resp len left
              (skipName resp len start).value).trace := by
  generalize stepped : (skipName resp len start).value = pos at fixed
  have body :
      findAddress resp len (left + 1) start =
        ⟨(atAnswer resp len left pos).value,
          (skipName resp len start).trace ++
            ((readWord resp pos).trace ++
              ((readWord resp (pos + 8)).trace ++
                (atAnswer resp len left pos).trace))⟩ := by
    have behind :
        (if pos + 10 > len then pure none
          else do
            let type ← readWord resp pos
            let rdlen ← readWord resp (pos + 8)
            if type = 1 ∧ rdlen = 4 ∧ pos + 12 ≤ len then do
              let out ← copyBytes resp (pos + 10) 4
              pure (some out)
            else findAddress resp len left (pos + 10 + rdlen.toNat) :
              Traced Nat (Option (List UInt8))) =
          ⟨(atAnswer resp len left pos).value,
            (readWord resp pos).trace ++
              ((readWord resp (pos + 8)).trace ++
                (atAnswer resp len left pos).trace)⟩ := by
      rw [if_neg (Nat.not_lt.mpr fixed)]
      unfold atAnswer
      rw [← readWord_value, ← readWord_value]
      rfl
    rw [findAddress, if_pos room]
    show
      (⟨_, _⟩ : Traced Nat (Option (List UInt8))) = _
    rw [stepped]
    dsimp only
    rw [behind]
  rw [body]
  exact ⟨rfl, _, by rw [← List.append_assoc, ← List.append_assoc]⟩

theorem holds_word16 {index : Nat} {word : UInt16}
    (holds : Holds resp index (word16 word)) :
    joinBytes (resp index) (resp (index + 1)) = word := by
  rw [show resp index = _ from holds.1,
    show resp (index + 1) = _ from holds.2.1, joinBytes_word16]

namespace WalkedAnswer

theorem length_fixed (answer : WalkedAnswer) (length : UInt16) :
    (answer.fixed length).length = 10 := by
  unfold fixed
  rw [List.length_append, List.length_append, length_word16,
    length_word16, answer.six]

theorem length_bytes (answer : WalkedAnswer) :
    answer.bytes.length =
      answer.name.length + 10 + answer.data.length := by
  unfold bytes
  rw [List.length_append, List.length_append, length_fixed]
  omega

/-- The two words of an answer that the loop looks at. -/
theorem holds_fixed {answer : WalkedAnswer} {length : UInt16} {pos : Nat}
    (holds : Holds resp pos (answer.fixed length)) :
    joinBytes (resp pos) (resp (pos + 1)) = answer.type ∧
      joinBytes (resp (pos + 8)) (resp (pos + 9)) = length := by
  rcases holds_append.mp holds with ⟨type, rest⟩
  rcases holds_append.mp rest with ⟨-, size⟩
  rw [length_word16, answer.six] at size
  exact ⟨holds_word16 type, holds_word16 size⟩

end WalkedAnswer

theorem WalkedName.length_pos {bytes : List UInt8}
    (walked : WalkedName bytes) : 0 < bytes.length := by
  cases walked <;> simp

/-- Ten bytes behind a name, and what follows them, are those of an answer. -/
theorem exists_answer {start pos : Nat} {name : List UInt8}
    (walked : WalkedName name) (holds : Holds resp start name)
    (ends : pos = start + name.length) (count : Nat)
    (small : count < 65536) :
    ∃ answer : WalkedAnswer,
      answer.name = name ∧
        answer.type = joinBytes (resp pos) (resp (pos + 1)) ∧
        answer.data = slice resp (pos + 10) count ∧
        Holds resp start
          (name ++
            (answer.fixed
                (joinBytes (resp (pos + 8)) (resp (pos + 9))) ++
              answer.data)) := by
  subst ends
  refine
    ⟨{ name := name
       walked := walked
       type := joinBytes (resp (start + name.length))
         (resp (start + name.length + 1))
       middle := slice resp (start + name.length + 2) 6
       six := length_slice ..
       data := slice resp (start + name.length + 10) count
       short := by rw [length_slice]; exact small },
      rfl, rfl, rfl, ?_⟩
  rw [holds_append, holds_append, WalkedAnswer.length_fixed]
  refine ⟨holds, ?_, holds_slice ..⟩
  have fixed :
      ∀ index,
        Holds resp index
          (word16 (joinBytes (resp index) (resp (index + 1))) ++
            (slice resp (index + 2) 6 ++
              word16 (joinBytes (resp (index + 8)) (resp (index + 9))))) := by
    intro index
    rw [word16_joinBytes, word16_joinBytes, holds_append, holds_append,
      length_slice]
    exact
      ⟨⟨rfl, rfl, trivial⟩, holds_slice .., ⟨rfl, rfl, trivial⟩⟩
  exact fixed _

/-- The datagram ends in an address that starts here. -/
theorem endsInAddress_last {left start pos : Nat} {name : List UInt8}
    (walked : WalkedName name) (holds : Holds resp start name)
    (ends : pos = start + name.length)
    (address : joinBytes (resp pos) (resp (pos + 1)) = 1)
    (four : joinBytes (resp (pos + 8)) (resp (pos + 9)) = 4)
    (two : pos + 12 ≤ len) (outside : len < pos + 14) :
    EndsInAddress resp len (left + 1) start := by
  rcases exists_answer walked holds ends (len - (pos + 10)) (by omega) with
    ⟨last, rfl, type, data, rest⟩
  have length : last.data.length = len - (pos + 10) := by
    rw [data, length_slice]
  rw [four] at rest
  refine
    ⟨[], _, Nat.succ_pos left, by simp,
      ⟨last, type.trans address, by omega, rfl⟩, rest, ?_⟩
  simp only [List.flatMap_nil, List.nil_append, List.length_append,
    last.length_fixed]
  omega

theorem EndsInAddress.length_lt {left start : Nat}
    (ends : EndsInAddress resp len left start) : start + 12 ≤ len := by
  rcases ends with ⟨answers, cut, -, -, ⟨last, -, parts, rfl⟩, -, total⟩
  rw [List.length_append, List.length_append, List.length_append,
    last.length_fixed] at total
  omega

/-- What the datagram ends in stays so behind another answer. -/
theorem EndsInAddress.cons {answer : WalkedAnswer} {left start : Nat}
    (holds : Holds resp start answer.bytes) (other : ¬ answer.IsAddress)
    (ends : EndsInAddress resp len left (start + answer.bytes.length)) :
    EndsInAddress resp len (left + 1) start := by
  rcases ends with ⟨answers, cut, fewer, others, last, rest, total⟩
  refine
    ⟨answer :: answers, cut, Nat.succ_lt_succ fewer,
      List.forall_mem_cons.mpr ⟨other, others⟩, last, ?_, ?_⟩
  · rw [List.flatMap_cons, List.append_assoc, holds_append]
    exact ⟨holds, rest⟩
  · rw [List.flatMap_cons, List.append_assoc, List.length_append,
      ← Nat.add_assoc]
    exact total

/-- Unless an address is cut off, the answers are read in the datagram. -/
theorem findAddress_meets {left start : Nat}
    (whole : ¬ EndsInAddress resp len left start) :
    (findAddress resp len left start).Meets (· < len) fun _ => True := by
  induction left generalizing start with
  | zero => exact Traced.Meets.pure trivial
  | succ left induction =>
      rw [findAddress]
      apply Traced.Meets.ite
      · intro room
        apply Traced.Meets.bind (skipName_meets start)
        intro pos walks
        apply Traced.Meets.ite
        · intro _
          exact Traced.Meets.pure trivial
        · intro fixed
          rcases walks (by omega) with ⟨name, walked, holds, ends⟩
          apply Traced.Meets.bind (readWord_meets (by omega))
          rintro type rfl
          apply Traced.Meets.bind (readWord_meets (by omega))
          rintro rdlen rfl
          apply Traced.Meets.ite
          · rintro ⟨address, four, two⟩
            have inside : pos + 10 + 4 ≤ len := by
              by_contra outside
              exact
                whole
                  (endsInAddress_last walked holds ends address four two
                    (Nat.lt_of_not_le outside))
            apply Traced.Meets.bind (copyBytes_meets inside)
            intro out _
            exact Traced.Meets.pure trivial
          · intro other
            apply induction
            intro later
            apply whole
            generalize size :
              joinBytes (resp (pos + 8)) (resp (pos + 9)) = rdlen
                at other later
            rcases
              exists_answer walked holds ends rdlen.toNat
                rdlen.toNat_lt with
              ⟨answer, rfl, type, data, bytes⟩
            have length : answer.data.length = rdlen.toNat := by
              rw [data, length_slice]
            have written :
                answer.bytes =
                  answer.name ++ (answer.fixed rdlen ++ answer.data) := by
              unfold WalkedAnswer.bytes
              rw [length, UInt16.ofNat_toNat]
            have behind := later.length_lt
            have next :
                pos + 10 + rdlen.toNat = start + answer.bytes.length := by
              rw [answer.length_bytes, length]
              omega
            rw [size, ← written] at bytes
            rw [next] at later
            apply EndsInAddress.cons bytes _ later
            rintro ⟨address, four⟩
            have fourWord : rdlen = 4 := by
              rw [← UInt16.toNat_inj, ← length, four]
              rfl
            exact other ⟨type.symm.trans address, fourWord, by omega⟩
      · intro _
        exact Traced.Meets.pure trivial

theorem atAnswer_eq {answer : WalkedAnswer} {rdlen : UInt16}
    {left pos : Nat} (holds : Holds resp pos (answer.fixed rdlen)) :
    atAnswer resp len left pos =
      if answer.type = 1 ∧ rdlen = 4 ∧ pos + 12 ≤ len then
        (copyBytes resp (pos + 10) 4) >>= fun out => pure (some out)
      else findAddress resp len left (pos + 10 + rdlen.toNat) := by
  have words := WalkedAnswer.holds_fixed holds
  unfold atAnswer
  rw [words.1, words.2]

theorem mem_copyBytes_trace {index count : Nat} {place : Nat}
    (low : index ≤ place) (high : place < index + count) :
    place ∈ (copyBytes resp index count).trace := by
  induction count generalizing index with
  | zero => omega
  | succ count induction =>
      rcases Nat.eq_or_lt_of_le low with rfl | later
      · exact List.mem_append_left _ List.mem_cons_self
      · apply List.mem_append_right
        apply List.mem_append_left
        exact induction later (by omega)

/-- What the loop does with an answer that is there. -/
theorem findAddress_answer {answer : WalkedAnswer} {left start : Nat}
    (holds : Holds resp start answer.bytes) (room : start + 12 ≤ len)
    (inside : start + answer.bytes.length ≤ len) :
    (findAddress resp len (left + 1) start).value =
        (if answer.IsAddress then some answer.data
          else
            (findAddress resp len left
              (start + answer.bytes.length)).value) ∧
      (¬ answer.IsAddress →
        ∃ front,
          (findAddress resp len (left + 1) start).trace =
            front ++
              (findAddress resp len left
                (start + answer.bytes.length)).trace) := by
  have length := answer.length_bytes
  have short := answer.short
  rcases holds_append.mp holds with ⟨name, rest⟩
  rcases holds_append.mp rest with ⟨fixed, data⟩
  rw [answer.length_fixed] at data
  have stepped :
      (skipName resp len start).value = start + answer.name.length :=
    skipName_value answer.walked name (by omega)
  have rdlen :
      (UInt16.ofNat answer.data.length).toNat = answer.data.length := by
    rw [UInt16.toNat_ofNat']
    omega
  have four :
      UInt16.ofNat answer.data.length = 4 ↔ answer.data.length = 4 := by
    rw [← UInt16.toNat_inj, rdlen]
    exact Iff.rfl
  have next :
      start + answer.name.length + 10 + answer.data.length =
        start + answer.bytes.length := by
    omega
  have step := @findAddress_step resp len start left room (by omega)
  rw [stepped, atAnswer_eq fixed, rdlen, next] at step
  by_cases address : answer.IsAddress
  · have complete := address.2
    rw [if_pos ⟨address.1, four.mpr complete, by omega⟩] at step
    refine ⟨?_, fun other => absurd address other⟩
    rw [step.1, if_pos address]
    simp only [Traced.bind_value, copyBytes_value, Traced.pure_value]
    have copied := data.slice_eq
    rw [address.2] at copied
    rw [copied]
  · have other :
        ¬ (answer.type = 1 ∧ UInt16.ofNat answer.data.length = 4 ∧
          start + answer.name.length + 12 ≤ len) :=
      fun both => address ⟨both.1, four.mp both.2.1⟩
    rw [if_neg other] at step
    exact ⟨step.1.trans (if_neg address).symm, fun _ => step.2⟩

/-- An address that is cut off is copied beyond the datagram. -/
theorem findAddress_over {left start : Nat}
    (ends : EndsInAddress resp len left start) :
    ∃ index ∈ (findAddress resp len left start).trace, len ≤ index := by
  rcases ends with ⟨answers, cut, fewer, others, cutOff, holds, total⟩
  induction answers generalizing left start with
  | nil =>
      obtain ⟨left, rfl⟩ : ∃ smaller, left = smaller + 1 :=
        ⟨left - 1, (Nat.sub_add_cancel fewer).symm⟩
      rcases cutOff with ⟨last, address, parts, rfl⟩
      rw [List.flatMap_nil, List.nil_append] at holds total
      rw [List.length_append, List.length_append, last.length_fixed]
        at total
      rcases holds_append.mp holds with ⟨name, rest⟩
      have named := last.walked.length_pos
      have stepped :
          (skipName resp len start).value = start + last.name.length :=
        skipName_value last.walked name (by omega)
      have step :=
        @findAddress_step resp len start left (by omega) (by omega)
      rcases step.2 with ⟨front, trace⟩
      rw [trace, stepped, atAnswer_eq (holds_append.mp rest).1,
        if_pos ⟨address, rfl, by omega⟩]
      refine ⟨start + last.name.length + 13, ?_, by omega⟩
      apply List.mem_append_right
      apply List.mem_append_left
      exact mem_copyBytes_trace (by omega) (by omega)
  | cons answer answers induction =>
      obtain ⟨left, rfl⟩ : ∃ smaller, left = smaller + 1 :=
        ⟨left - 1, (Nat.sub_add_cancel (Nat.zero_lt_of_lt fewer)).symm⟩
      rw [List.flatMap_cons, List.append_assoc] at holds total
      rcases holds_append.mp holds with ⟨bytes, rest⟩
      rw [List.length_append, ← Nat.add_assoc] at total
      have cutLength : 12 ≤ cut.length := by
        rcases cutOff with ⟨last, -, parts, rfl⟩
        rw [List.length_append, List.length_append, last.length_fixed]
        omega
      have size := answer.length_bytes
      have named := answer.walked.length_pos
      have behind :
          (answers.flatMap WalkedAnswer.bytes ++ cut).length ≥ 12 := by
        rw [List.length_append]
        omega
      rcases
        (@findAddress_answer resp len answer left start bytes (by omega)
          (by omega)).2 (others answer List.mem_cons_self) with
        ⟨front, trace⟩
      have later :=
        induction (Nat.lt_of_succ_lt_succ fewer)
          (fun member listed =>
            others member (List.mem_cons_of_mem _ listed))
          rest total
      rcases later with ⟨index, member, beyond⟩
      rw [trace]
      exact ⟨index, List.mem_append_right _ member, beyond⟩

/-! ## The whole response -/

/-- What is done with a response without an error and with answers. -/
theorem dnsParseResponse_eq (long : 12 ≤ len)
    (response : IsResponse (joinBytes (resp 2) (resp 3)))
    (answered : joinBytes (resp 6) (resp 7) ≠ 0) :
    ∃ front,
      dnsParseResponse resp len =
        ⟨(findAddress resp len (joinBytes (resp 6) (resp 7)).toNat
            (skipQuestion resp len 12).value).value,
          front ++
            (findAddress resp len (joinBytes (resp 6) (resp 7)).toNat
              (skipQuestion resp len 12).value).trace⟩ := by
  unfold IsResponse at response
  rw [← readWord_value] at response answered ⊢
  have counted :
      (if (readWord resp 6).value = 0 then pure none
        else do
          let pos ← skipQuestion resp len 12
          findAddress resp len (readWord resp 6).value.toNat pos :
            Traced Nat (Option (List UInt8))) =
        ⟨(findAddress resp len (readWord resp 6).value.toNat
            (skipQuestion resp len 12).value).value,
          (skipQuestion resp len 12).trace ++
            (findAddress resp len (readWord resp 6).value.toNat
              (skipQuestion resp len 12).value).trace⟩ :=
    if_neg answered
  have flagged :
      (if (readWord resp 2).value &&& 0x8000 = 0 ∨
            (readWord resp 2).value &&& 0x000F ≠ 0 then pure none
        else do
          let ancount ← readWord resp 6
          if ancount = 0 then pure none
          else do
            let pos ← skipQuestion resp len 12
            findAddress resp len ancount.toNat pos :
              Traced Nat (Option (List UInt8))) =
        ⟨(findAddress resp len (readWord resp 6).value.toNat
            (skipQuestion resp len 12).value).value,
          (readWord resp 6).trace ++
            ((skipQuestion resp len 12).trace ++
              (findAddress resp len (readWord resp 6).value.toNat
                (skipQuestion resp len 12).value).trace)⟩ := by
    rw [if_neg response]
    show (⟨_, _⟩ : Traced Nat (Option (List UInt8))) = _
    dsimp only
    rw [counted]
  refine
    ⟨(readWord resp 2).trace ++
      ((readWord resp 6).trace ++ (skipQuestion resp len 12).trace), ?_⟩
  unfold dnsParseResponse
  rw [if_neg (Nat.not_lt.mpr long)]
  show (⟨_, _⟩ : Traced Nat (Option (List UInt8))) = _
  dsimp only
  rw [flagged, List.append_assoc, List.append_assoc]

/-- Unless its first address is cut off, a datagram is read inside. -/
theorem dnsParseResponse_meets (whole : ¬ CutDatagram resp len) :
    (dnsParseResponse resp len).Meets (· < len) fun _ => True := by
  unfold dnsParseResponse
  apply Traced.Meets.ite
  · intro _
    exact Traced.Meets.pure trivial
  · intro long
    apply Traced.Meets.bind (readWord_meets (by omega))
    rintro flags rfl
    apply Traced.Meets.ite
    · intro _
      exact Traced.Meets.pure trivial
    · intro response
      apply Traced.Meets.bind (readWord_meets (by omega))
      rintro ancount rfl
      apply Traced.Meets.ite
      · intro _
        exact Traced.Meets.pure trivial
      · intro _
        apply Traced.Meets.bind (skipQuestion_meets 12)
        intro pos walks
        apply findAddress_meets
        intro ends
        have behind := ends.length_lt
        rcases walks (by omega) with ⟨question, walked, holds, rfl⟩
        exact
          whole
            ⟨Nat.le_of_not_lt long, response, question, walked, holds, ends⟩

/-- If it is cut off, bytes behind the datagram are read. -/
theorem exists_read_of_cut (cut : CutDatagram resp len) :
    ∃ index ∈ (dnsParseResponse resp len).trace, len ≤ index := by
  rcases cut with ⟨long, response, question, walked, holds, ends⟩
  have inside := ends.length_lt
  have answered : joinBytes (resp 6) (resp 7) ≠ 0 := by
    intro zero
    rcases ends with ⟨answers, -, fewer, -⟩
    rw [zero] at fewer
    exact absurd fewer (Nat.not_lt_zero _)
  have stepped :
      (skipQuestion resp len 12).value = 12 + question.length :=
    skipQuestion_value walked holds (by omega)
  rcases dnsParseResponse_eq long response answered with ⟨front, whole⟩
  rw [whole, stepped]
  rcases findAddress_over ends with ⟨index, member, beyond⟩
  exact ⟨index, List.mem_append_right _ member, beyond⟩

/--
The parser stops for every datagram, and reads bytes of the datagram only
exactly if the first address among its answers is not cut off after two or
three bytes.
-/
theorem dnsParseResponse_reads_iff (resp : Nat → UInt8) (len : Nat) :
    (∀ index ∈ (dnsParseResponse resp len).trace, index < len) ↔
      ¬ CutDatagram resp len := by
  constructor
  · intro inside cut
    rcases exists_read_of_cut cut with ⟨index, member, beyond⟩
    exact absurd (inside index member) (Nat.not_lt.mpr beyond)
  · intro whole
    exact (dnsParseResponse_meets whole).1

/-- An answer of TYPE A with two bytes of four. -/
def cutAnswer : WalkedAnswer where
  name := [0xC0, 0x0C]
  walked := .pointer 0xC0 0x0C (by decide)
  type := 1
  middle := [0, 1, 0, 0, 0, 0]
  six := rfl
  data := [10, 0]
  short := by decide

/-- A response that ends in it. -/
def cutResponse : List UInt8 :=
  [0, 0, 0x81, 0x80, 0, 1, 0, 1, 0, 0, 0, 0] ++
    ([0, 0, 1, 0, 1] ++
      (cutAnswer.name ++ (cutAnswer.fixed 4 ++ cutAnswer.data)))

theorem cutResponse_cut :
    CutDatagram (ofList 0 cutResponse) cutResponse.length := by
  refine
    ⟨by decide, ?_, [0, 0, 1, 0, 1], .root _ rfl,
      ⟨rfl, rfl, rfl, rfl, rfl, trivial⟩, [], _, by decide, ?_,
      ⟨cutAnswer, rfl, .inl rfl, rfl⟩, ?_, rfl⟩
  · rintro (query | failed)
    · exact absurd query (by decide)
    · exact failed (by decide)
  · intro answer listed
    exact absurd listed List.not_mem_nil
  · exact
      ⟨rfl, rfl, rfl, rfl, rfl, rfl, rfl, rfl, rfl, rfl, rfl, rfl, rfl,
        rfl, trivial⟩

theorem cutResponse_reads_beyond :
    ¬ ∀ (resp : Nat → UInt8) (len : Nat), len ≤ 512 →
        ∀ index ∈ (dnsParseResponse resp len).trace, index < len := by
  intro inside
  rcases exists_read_of_cut cutResponse_cut with ⟨index, member, beyond⟩
  have below := inside _ _ (by decide) index member
  exact absurd below (Nat.not_lt.mpr beyond)

end SlpClient.Slp
