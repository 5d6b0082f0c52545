import SlpClient.Slp.DnsResponse

/-!
# The address of a response

A message that is there as a whole is stepped over as it was written: its
question, then its records.  What the parser finds is the first address among
the records, whatever comes before it.
-/

namespace SlpClient.Slp

open SlpClient.Lib
open SlpClient.Lib.Dns
open SlpClient.Lib.Memory

/-! ## What was written -/

theorem walkedName_labels (labels : List Label) {rest : List UInt8}
    (walked : WalkedName rest) :
    WalkedName (labels.flatMap Label.encode ++ rest) := by
  induction labels with
  | nil => exact walked
  | cons label labels induction =>
      rw [List.flatMap_cons, List.append_assoc]
      exact
        .label _ _ _ label.length_ne_zero label.length_unmarked
          label.length_toNat.symm induction

theorem walkedName_encode (name : Name) : WalkedName name.encode := by
  apply walkedName_labels
  cases name.last with
  | root => exact .root
  | pointer high low marked => exact .pointer high low marked

theorem walkedQuestion_encode (question : Question) :
    WalkedQuestion question.encode := by
  unfold Question.encode
  induction question.labels with
  | nil => exact .root _ rfl
  | cons label labels induction =>
      rw [List.flatMap_cons, List.append_assoc]
      exact
        .label _ _ _ label.length_ne_zero label.length_unmarked
          label.length_toNat.symm induction

/-- A record that the parser takes. -/
def IsAddressRecord (record : Record) : Prop :=
  record.type = 1 ∧ record.data.length = 4

instance decidableIsAddressRecord : DecidablePred IsAddressRecord :=
  fun record =>
    inferInstanceAs (Decidable (record.type = 1 ∧ record.data.length = 4))

/-- A record as the loop walks it. -/
def walkRecord (record : Record) : WalkedAnswer where
  name := record.name.encode
  walked := walkedName_encode record.name
  type := record.type
  middle := word16 record.rclass ++ word32 record.ttl
  six := rfl
  data := record.data
  short := record.short

theorem bytes_walkRecord (record : Record) :
    (walkRecord record).bytes = record.encode := by
  unfold Record.encode WalkedAnswer.bytes WalkedAnswer.fixed
  simp only [walkRecord, List.append_assoc]

theorem flatMap_walkRecord (records : List Record) :
    (records.map walkRecord).flatMap WalkedAnswer.bytes =
      records.flatMap Record.encode := by
  rw [List.flatMap_map]
  exact List.flatMap_congr fun record _ => bytes_walkRecord record

/-! ## The first address -/

variable {resp : Nat → UInt8} {len : Nat}

/-- The loop finds the first address. -/
theorem findAddress_value (answers : List WalkedAnswer) {start : Nat}
    {rest : List UInt8}
    (holds :
      Holds resp start (answers.flatMap WalkedAnswer.bytes ++ rest))
    (total :
      len = start + (answers.flatMap WalkedAnswer.bytes ++ rest).length) :
    (findAddress resp len answers.length start).value =
      (answers.find? (WalkedAnswer.IsAddress ·)).map WalkedAnswer.data := by
  induction answers generalizing start with
  | nil => rfl
  | cons answer answers induction =>
      rw [List.flatMap_cons, List.append_assoc] at holds total
      rw [List.length_append, ← Nat.add_assoc] at total
      rcases holds_append.mp holds with ⟨bytes, later⟩
      have size := answer.length_bytes
      have named := answer.walked.length_pos
      by_cases room : start + 12 ≤ len
      · rw [List.length_cons,
          (findAddress_answer bytes room (by omega)).1,
          induction later total]
        by_cases address : answer.IsAddress
        · rw [if_pos address,
            List.find?_cons_of_pos (by simpa using address)]
          rfl
        · rw [if_neg address,
            List.find?_cons_of_neg (by simpa using address)]
      · have other : ¬ answer.IsAddress := by
          rintro ⟨-, four⟩
          omega
        have last : answers = [] := by
          cases answers with
          | nil => rfl
          | cons next answers =>
              have nextSize := next.length_bytes
              rw [List.flatMap_cons, List.append_assoc,
                List.length_append] at total
              omega
        subst last
        rw [List.find?_cons_of_neg (by simpa using other),
          List.length_singleton, findAddress, if_neg room]
        rfl

theorem dnsParseResponse_value (long : 12 ≤ len)
    (response : IsResponse (joinBytes (resp 2) (resp 3))) :
    (dnsParseResponse resp len).value =
      (findAddress resp len (joinBytes (resp 6) (resp 7)).toNat
        (skipQuestion resp len 12).value).value := by
  by_cases answered : joinBytes (resp 6) (resp 7) = 0
  · unfold IsResponse at response
    rw [← readWord_value] at response answered ⊢
    unfold dnsParseResponse
    rw [if_neg (Nat.not_lt.mpr long), Traced.bind_value, if_neg response,
      Traced.bind_value, if_pos answered, answered]
    rfl
  · rcases dnsParseResponse_eq long response answered with ⟨front, whole⟩
    rw [whole]

/-- The words of the header that the parser looks at. -/
theorem words_of_header {message : Message}
    (holds : Holds resp 0 message.header) :
    joinBytes (resp 2) (resp 3) = message.flags ∧
      joinBytes (resp 6) (resp 7) =
        UInt16.ofNat message.answers.length := by
  rcases holds with
    ⟨-, -, flagsHigh, flagsLow, -, -, answersHigh, answersLow, -⟩
  exact
    ⟨holds_word16 ⟨flagsHigh, flagsLow, trivial⟩,
      holds_word16 ⟨answersHigh, answersLow, trivial⟩⟩

theorem dnsParseResponse_message {message : Message}
    (holds : Holds resp 0 message.encode)
    (response : IsResponse message.flags) :
    (dnsParseResponse resp message.encode.length).value =
      (message.answers.find? (IsAddressRecord ·)).map Record.data := by
  rcases holds_append.mp holds with ⟨header, body⟩
  rcases holds_append.mp body with ⟨question, records⟩
  have words := words_of_header header
  have few :
      (UInt16.ofNat message.answers.length).toNat =
        (message.answers.map walkRecord).length := by
    have bound := message.few
    rw [UInt16.toNat_ofNat', List.length_map]
    omega
  have total :
      message.encode.length =
        12 + message.question.encode.length +
          ((message.answers.map walkRecord).flatMap WalkedAnswer.bytes ++
            message.rest).length := by
    unfold Message.encode
    rw [flatMap_walkRecord, List.length_append, List.length_append,
      message.length_header, Nat.add_assoc]
  rw [message.length_header, Nat.zero_add] at question records
  rw [← flatMap_walkRecord] at records
  have stepped :
      (skipQuestion resp message.encode.length 12).value =
        12 + message.question.encode.length :=
    skipQuestion_value (walkedQuestion_encode _) question (by omega)
  rw [dnsParseResponse_value (by omega) (words.1.symm ▸ response), words.2,
    stepped, few, findAddress_value _ records total, List.find?_map,
    Option.map_map]
  rfl

/--
For a message that is a response without an error, the parser stores an
address exactly if one of the answers is one, and it is the first of them.
-/
theorem dnsParseResponse_finds (message : Message) (resp : Nat → UInt8)
    (holds : Holds resp 0 message.encode)
    (isResponse : message.flags &&& 0x8000 ≠ 0)
    (noError : message.flags &&& 0x000F = 0) :
    ((dnsParseResponse resp message.encode.length).value.isSome ↔
        ∃ answer ∈ message.answers, IsAddressRecord answer) ∧
      ∀ out,
        (dnsParseResponse resp message.encode.length).value = some out →
          ∃ before answer behind,
            message.answers = before ++ answer :: behind ∧
              (∀ other ∈ before, ¬ IsAddressRecord other) ∧
              IsAddressRecord answer ∧ out = answer.data := by
  have response : IsResponse message.flags := by
    rintro (query | failed)
    · exact isResponse query
    · exact failed noError
  rw [dnsParseResponse_message holds response]
  constructor
  · rw [Option.isSome_map, List.find?_isSome]
    simp only [decide_eq_true_eq]
  · intro out found
    rcases Option.map_eq_some_iff.mp found with ⟨answer, first, rfl⟩
    rcases List.find?_eq_some_iff_append.mp first with
      ⟨address, before, behind, split, others⟩
    refine
      ⟨before, answer, behind, split, ?_, of_decide_eq_true address, rfl⟩
    intro other listed
    simpa using others other listed

/-- A response with an alias and an address behind it. -/
def relayAnswer : Message where
  id := 0x5A5A
  flags := 0x8180
  question := ⟨[⟨[114], by decide, by decide⟩], 1, 1⟩
  answers :=
    [⟨⟨[], .pointer 0xC0 0x0C (by decide)⟩, 5, 1, 60, [1, 98, 0],
        by decide⟩,
      ⟨⟨[⟨[98], by decide, by decide⟩], .root⟩, 1, 1, 60, [10, 0, 0, 1],
        by decide⟩]
  few := by decide
  authorities := 0
  additionals := 0
  rest := []

theorem relayAnswer_found :
    (dnsParseResponse (ofList 0 relayAnswer.encode)
      relayAnswer.encode.length).value.isSome := by
  have holds :
      Holds (ofList 0 relayAnswer.encode) 0 relayAnswer.encode := by
    simpa using holds_ofList 0 [] relayAnswer.encode []
  exact
    (dnsParseResponse_finds relayAnswer _ holds (by decide)
      (by decide)).1.mpr
      ⟨_, List.mem_cons_of_mem _ List.mem_cons_self, rfl, rfl⟩

end SlpClient.Slp
