import Mathlib.Data.List.Basic
import Mathlib.Data.Nat.Init

/-!
# Domain messages

Names are sequences of labels that end in a zero byte or in a pointer to
another place of the message.  A message has a header, a question and resource
records; words are written with the high byte first.  A query, which has
nothing but one question, can be read back.
-/

namespace SlpClient.Lib.Dns

/-! ## Words -/

/-- A word as two bytes. -/
def word16 (value : UInt16) : List UInt8 :=
  [UInt8.ofNat (value.toNat / 256), UInt8.ofNat value.toNat]

/-- A double word as four bytes. -/
def word32 (value : UInt32) : List UInt8 :=
  word16 (UInt16.ofNat (value.toNat / 65536)) ++
    word16 (UInt16.ofNat value.toNat)

/-- The word that two bytes are. -/
def joinBytes (high low : UInt8) : UInt16 :=
  UInt16.ofNat (256 * high.toNat + low.toNat)

@[simp]
theorem length_word16 (value : UInt16) : (word16 value).length = 2 :=
  rfl

theorem word16_joinBytes (high low : UInt8) :
    word16 (joinBytes high low) = [high, low] := by
  have first := high.toNat_lt
  have second := low.toNat_lt
  have value :
      (joinBytes high low).toNat = 256 * high.toNat + low.toNat := by
    unfold joinBytes
    rw [UInt16.toNat_ofNat']
    omega
  have upper :
      UInt8.ofNat ((256 * high.toNat + low.toNat) / 256) = high := by
    rw [← UInt8.toNat_inj, UInt8.toNat_ofNat']
    omega
  have lower : UInt8.ofNat (256 * high.toNat + low.toNat) = low := by
    rw [← UInt8.toNat_inj, UInt8.toNat_ofNat']
    omega
  unfold word16
  rw [value, upper, lower]

theorem joinBytes_word16 (value : UInt16) :
    joinBytes (UInt8.ofNat (value.toNat / 256))
        (UInt8.ofNat value.toNat) =
      value := by
  have bound := value.toNat_lt
  unfold joinBytes
  rw [← UInt16.toNat_inj, UInt16.toNat_ofNat', UInt8.toNat_ofNat',
    UInt8.toNat_ofNat']
  omega

/-! ## Names -/

/-- A label has 1 to 63 bytes. -/
structure Label where
  bytes : List UInt8
  nonempty : 0 < bytes.length
  short : bytes.length ≤ 63

/-- A label with its length before it. -/
def Label.encode (label : Label) : List UInt8 :=
  UInt8.ofNat label.bytes.length :: label.bytes

namespace Label

/-- The byte before a label. -/
theorem length_toNat (label : Label) :
    (UInt8.ofNat label.bytes.length).toNat = label.bytes.length := by
  have short := label.short
  rw [UInt8.toNat_ofNat']
  omega

theorem length_ne_zero (label : Label) :
    UInt8.ofNat label.bytes.length ≠ 0 := by
  intro zero
  have positive := label.nonempty
  rw [← label.length_toNat, zero] at positive
  exact absurd positive (Nat.lt_irrefl 0)

/-- It is no part of a pointer. -/
theorem length_unmarked (label : Label) :
    UInt8.ofNat label.bytes.length &&& 0xC0 ≠ 0xC0 := by
  have unmarked : ∀ length < 64, UInt8.ofNat length &&& 0xC0 ≠ 0xC0 := by
    decide
  exact unmarked _ (Nat.lt_succ_of_le label.short)

end Label

/-- A zero byte, or a pointer, which has its two highest bits set. -/
inductive NameEnd
  | root
  | pointer (high low : UInt8) (marked : high &&& 0xC0 = 0xC0)

def NameEnd.encode : NameEnd → List UInt8
  | root => [0]
  | pointer high low _ => [high, low]

structure Name where
  labels : List Label
  last : NameEnd

def Name.encode (name : Name) : List UInt8 :=
  name.labels.flatMap Label.encode ++ name.last.encode

/-! ## Messages -/

structure Question where
  labels : List Label
  type : UInt16
  qclass : UInt16

/-- A question; its name has no pointer. -/
def Question.encode (question : Question) : List UInt8 :=
  question.labels.flatMap Label.encode ++
    0 :: (word16 question.type ++ word16 question.qclass)

structure Record where
  name : Name
  type : UInt16
  rclass : UInt16
  ttl : UInt32
  data : List UInt8
  short : data.length < 65536

def Record.encode (record : Record) : List UInt8 :=
  record.name.encode ++
    (word16 record.type ++
      ((word16 record.rclass ++ word32 record.ttl) ++
        (word16 (UInt16.ofNat record.data.length) ++ record.data)))

/-- A message with one question; the sections after the answers are kept as
they are. -/
structure Message where
  id : UInt16
  flags : UInt16
  question : Question
  answers : List Record
  few : answers.length < 65536
  authorities : UInt16
  additionals : UInt16
  rest : List UInt8

namespace Message

def header (message : Message) : List UInt8 :=
  word16 message.id ++ word16 message.flags ++ word16 1 ++
    word16 (UInt16.ofNat message.answers.length) ++
    word16 message.authorities ++ word16 message.additionals

def encode (message : Message) : List UInt8 :=
  message.header ++
    (message.question.encode ++
      (message.answers.flatMap Record.encode ++ message.rest))

@[simp]
theorem length_header (message : Message) :
    message.header.length = 12 :=
  rfl

end Message

/-! ## Reading a query -/

/-- The labels up to the zero byte, and what comes after it. -/
def readLabels : List UInt8 → Option (List (List UInt8) × List UInt8)
  | [] => none
  | length :: rest =>
      if length = 0 then some ([], rest)
      else if length.toNat ≤ 63 ∧ length.toNat ≤ rest.length then
        (readLabels (rest.drop length.toNat)).map fun read =>
          (rest.take length.toNat :: read.1, read.2)
      else none
termination_by bytes => bytes.length
decreasing_by
  rw [List.length_drop, List.length_cons]
  omega

/-- What a query asks. -/
structure Query where
  id : UInt16
  labels : List (List UInt8)
  type : UInt16
  qclass : UInt16
deriving DecidableEq

/-- A query has one question, no records, and nothing after the question. -/
def readQuery : List UInt8 → Option Query
  | idHigh :: idLow :: _ :: _ :: questionsHigh :: questionsLow ::
      answersHigh :: answersLow :: authoritiesHigh :: authoritiesLow ::
      additionalsHigh :: additionalsLow :: body =>
      if joinBytes questionsHigh questionsLow = 1 ∧
          joinBytes answersHigh answersLow = 0 ∧
          joinBytes authoritiesHigh authoritiesLow = 0 ∧
          joinBytes additionalsHigh additionalsLow = 0 then
        match readLabels body with
        | some (labels, [typeHigh, typeLow, classHigh, classLow]) =>
            some
              { id := joinBytes idHigh idLow
                labels := labels
                type := joinBytes typeHigh typeLow
                qclass := joinBytes classHigh classLow }
        | _ => none
      else none
  | _ => none

/-- Labels that were written are read back. -/
theorem readLabels_encode (labels : List Label) (rest : List UInt8) :
    readLabels (labels.flatMap Label.encode ++ 0 :: rest) =
      some (labels.map Label.bytes, rest) := by
  induction labels with
  | nil =>
      show readLabels (0 :: rest) = _
      rw [readLabels, if_pos rfl]
      rfl
  | cons label labels induction =>
      rw [List.flatMap_cons, List.append_assoc]
      unfold Label.encode
      rw [List.cons_append, readLabels, if_neg label.length_ne_zero,
        label.length_toNat, if_pos ⟨label.short, by simp⟩, List.drop_left,
        List.take_left]
      have later := induction
      unfold Label.encode at later
      rw [later]
      rfl

namespace Question

/-- A query with the question. -/
def query (question : Question) (id flags : UInt16) : Message where
  id := id
  flags := flags
  question := question
  answers := []
  few := Nat.zero_lt_succ _
  authorities := 0
  additionals := 0
  rest := []

/-- A query is read back. -/
theorem readQuery_query (question : Question) (id flags : UInt16) :
    readQuery (question.query id flags).encode =
      some
        { id := id
          labels := question.labels.map Label.bytes
          type := question.type
          qclass := question.qclass } := by
  have body :
      readLabels (question.encode ++ []) =
        some
          (question.labels.map Label.bytes,
            word16 question.type ++ word16 question.qclass) := by
    rw [List.append_nil]
    exact readLabels_encode ..
  have read :
      readQuery (question.query id flags).encode =
        match readLabels (question.encode ++ []) with
        | some (labels, [typeHigh, typeLow, classHigh, classLow]) =>
            some
              { id :=
                  joinBytes (UInt8.ofNat (id.toNat / 256))
                    (UInt8.ofNat id.toNat)
                labels := labels
                type := joinBytes typeHigh typeLow
                qclass := joinBytes classHigh classLow }
        | _ => none :=
    if_pos
      ⟨joinBytes_word16 1, joinBytes_word16 0, joinBytes_word16 0,
        joinBytes_word16 0⟩
  rw [read, body]
  show some (Query.mk _ _ _ _) = _
  rw [joinBytes_word16, joinBytes_word16, joinBytes_word16]

end Question

/-! ## Names as text -/

/-- The dot between labels. -/
def dot : UInt8 := 46

/-- Labels with dots between them. -/
def joined (labels : List Label) : List UInt8 :=
  [dot].intercalate (labels.map Label.bytes)

/-- The text less one dot at its end. -/
def stripDot (text : List UInt8) : List UInt8 :=
  if text.getLast? = some dot then text.dropLast else text

/-- The labels that a text is read as, up to a dot or up to its end. -/
inductive Spells : List UInt8 → List Label → Prop
  | empty : Spells [] []
  | last (label : Label) (undotted : dot ∉ label.bytes) :
      Spells label.bytes [label]
  | more (label : Label) (undotted : dot ∉ label.bytes)
      (rest : List UInt8) (labels : List Label)
      (spells : Spells rest labels) :
      Spells (label.bytes ++ dot :: rest) (label :: labels)

theorem joined_cons_cons (label next : Label) (labels : List Label) :
    joined (label :: next :: labels) =
      label.bytes ++ dot :: joined (next :: labels) := by
  unfold joined
  rw [List.map_cons, List.map_cons, List.intercalate_cons_cons,
    List.append_assoc]
  rfl

@[simp]
theorem joined_singleton (label : Label) :
    joined [label] = label.bytes :=
  List.intercalate_singleton

/-- There is one more label than there are dots. -/
theorem length_encode_labels {labels : List Label}
    (nonempty : labels ≠ []) :
    (labels.flatMap Label.encode).length = (joined labels).length + 1 := by
  induction labels with
  | nil => exact absurd rfl nonempty
  | cons label labels induction =>
      rw [List.flatMap_cons, List.length_append]
      have first : label.encode.length = label.bytes.length + 1 := rfl
      cases labels with
      | nil =>
          rw [joined_singleton, first]
          rfl
      | cons next labels =>
          rw [induction (List.cons_ne_nil _ _), joined_cons_cons,
            List.length_append, List.length_cons, first]
          omega

/-- A text is spelled as the labels that are joined in it. -/
theorem Spells.eq_joined {text : List UInt8} {labels : List Label}
    (spells : Spells text labels) (nonempty : text ≠ []) :
    labels ≠ [] ∧ (∀ label ∈ labels, dot ∉ label.bytes) ∧
      (text = joined labels ∨ text = joined labels ++ [dot]) := by
  induction spells with
  | empty => exact absurd rfl nonempty
  | last label undotted =>
      refine ⟨List.cons_ne_nil _ _, ?_, .inl (joined_singleton label).symm⟩
      intro other listed
      rw [List.mem_singleton.mp listed]
      exact undotted
  | more label undotted rest labels spells induction =>
      refine ⟨List.cons_ne_nil _ _, ?_⟩
      cases spells with
      | empty =>
          refine ⟨?_, .inr (by rw [joined_singleton])⟩
          intro other listed
          rw [List.mem_singleton.mp listed]
          exact undotted
      | last next clean =>
          rcases induction (List.ne_nil_of_length_pos next.nonempty) with
            ⟨-, others, -⟩
          refine ⟨List.forall_mem_cons.mpr ⟨undotted, others⟩, .inl ?_⟩
          rw [joined_cons_cons, joined_singleton]
      | more next clean tail labels spells =>
          rcases induction (by simp) with ⟨-, others, whole | dotted⟩
          · refine ⟨List.forall_mem_cons.mpr ⟨undotted, others⟩, .inl ?_⟩
            rw [joined_cons_cons, whole]
          · refine ⟨List.forall_mem_cons.mpr ⟨undotted, others⟩, .inr ?_⟩
            rw [joined_cons_cons, dotted, List.append_assoc,
              List.cons_append]

theorem Spells.eq_nil {text : List UInt8} {labels : List Label}
    (spells : Spells text labels) (empty : text = []) : labels = [] := by
  cases spells with
  | empty => rfl
  | last label =>
      exact absurd empty (List.ne_nil_of_length_pos label.nonempty)
  | more label => simp at empty

theorem Spells.eq_joined_or {text : List UInt8} {labels : List Label}
    (spells : Spells text labels) :
    text = joined labels ∨ text = joined labels ++ [dot] := by
  by_cases empty : text = []
  · rw [spells.eq_nil empty]
    exact .inl empty
  · exact (spells.eq_joined empty).2.2

theorem stripDot_append_dot (text : List UInt8) :
    stripDot (text ++ [dot]) = text := by
  unfold stripDot
  rw [if_pos (by simp), List.dropLast_concat]

theorem stripDot_joined {labels : List Label}
    (undotted : ∀ label ∈ labels, dot ∉ label.bytes) :
    stripDot (joined labels) = joined labels := by
  apply if_neg
  induction labels with
  | nil => simp [joined]
  | cons label labels induction =>
      rcases List.forall_mem_cons.mp undotted with ⟨first, others⟩
      cases labels with
      | nil =>
          rw [joined_singleton]
          intro last
          exact first (List.mem_of_getLast? last)
      | cons next labels =>
          have filled : joined (next :: labels) ≠ [] := by
            have more :=
              length_encode_labels (List.cons_ne_nil next labels)
            have some := next.nonempty
            intro empty
            rw [empty, List.flatMap_cons, List.length_append] at more
            simp only [Label.encode, List.length_cons,
              List.length_nil] at more
            omega
          rw [joined_cons_cons, List.getLast?_append_of_ne_nil _ (by simp),
            List.getLast?_cons_of_ne_nil filled]
          exact induction others

theorem Spells.stripDot_eq {text : List UInt8} {labels : List Label}
    (spells : Spells text labels) (nonempty : text ≠ []) :
    stripDot text = joined labels := by
  rcases spells.eq_joined nonempty with ⟨-, undotted, rfl | rfl⟩
  · exact stripDot_joined undotted
  · exact stripDot_append_dot _

theorem stripDot_eq_or (text : List UInt8) :
    text = stripDot text ∨ text = stripDot text ++ [dot] := by
  unfold stripDot
  split
  · next last =>
    exact .inr (List.dropLast_append_getLast? dot last).symm
  · exact .inl rfl

/-- A name whose labels have 1 to 63 bytes. -/
def IsHostName (text : List UInt8) : Prop :=
  ∀ part ∈ (stripDot text).splitOn dot,
    0 < part.length ∧ part.length ≤ 63

theorem exists_spells_of_parts (text : List UInt8)
    (parts :
      ∀ part ∈ text.splitOn dot, 0 < part.length ∧ part.length ≤ 63) :
    ∃ labels, Spells text labels ∧ Spells (text ++ [dot]) labels := by
  induction size : text.length using Nat.strong_induction_on
    generalizing text with
  | _ size induction =>
      by_cases dotted : dot ∈ text
      · rcases List.eq_append_cons_of_mem dotted with
          ⟨front, rest, rfl, undotted⟩
        rw [List.splitOn_append_cons_self_of_not_mem undotted,
          List.forall_mem_cons] at parts
        rw [List.length_append, List.length_cons] at size
        rcases induction rest.length (by omega) rest parts.2 rfl with
          ⟨labels, whole, ended⟩
        obtain ⟨label, rfl⟩ : ∃ label : Label, label.bytes = front :=
          ⟨⟨front, parts.1.1, parts.1.2⟩, rfl⟩
        refine ⟨label :: labels, .more _ undotted _ _ whole, ?_⟩
        rw [List.append_assoc]
        exact .more _ undotted _ _ ended
      · rw [List.splitOn_eq_singleton dotted, List.forall_mem_singleton]
          at parts
        obtain ⟨label, rfl⟩ : ∃ label : Label, label.bytes = text :=
          ⟨⟨text, parts.1, parts.2⟩, rfl⟩
        exact
          ⟨[label], .last _ dotted, .more _ dotted _ _ .empty⟩

theorem isHostName_joined {labels : List Label} (nonempty : labels ≠ [])
    (undotted : ∀ label ∈ labels, dot ∉ label.bytes) :
    IsHostName (joined labels) := by
  unfold IsHostName
  rw [stripDot_joined undotted]
  unfold joined
  rw [List.splitOn_intercalate dot (by simpa using undotted)
    (by simpa using nonempty)]
  intro part listed
  rcases List.mem_map.mp listed with ⟨label, -, rfl⟩
  exact ⟨label.nonempty, label.short⟩

/-- The texts that are spelled are those with labels of 1 to 63 bytes. -/
theorem exists_spells_iff {text : List UInt8} (nonempty : text ≠ []) :
    (∃ labels, Spells text labels) ↔ IsHostName text := by
  constructor
  · rintro ⟨labels, spells⟩
    rcases spells.eq_joined nonempty with ⟨filled, undotted, -⟩
    have parts := isHostName_joined filled undotted
    unfold IsHostName at parts ⊢
    rw [stripDot_joined undotted] at parts
    rw [spells.stripDot_eq nonempty]
    exact parts
  · intro parts
    rcases exists_spells_of_parts _ parts with ⟨labels, whole, ended⟩
    refine ⟨labels, ?_⟩
    rcases stripDot_eq_or text with same | dotted
    · rw [same]
      exact whole
    · rw [dotted]
      exact ended

end SlpClient.Lib.Dns
