import SlpClient.Lib.DnsFormat
import SlpClient.Lib.Memory
import SlpClient.Lib.Traced

/-!
# The query encoder

`dns_build_query` writes the name of a host behind the header of a message,
then the header, then the type and the class.  Every byte that is stored is
noted with its index.  A name is written only if there is room for it, but no
room is kept for the four bytes behind it.
-/

namespace SlpClient.Slp

open SlpClient.Lib
open SlpClient.Lib.Dns
open SlpClient.Lib.Memory

/-- Bytes stored from an index on. -/
def store (index : Nat) (bytes : List UInt8) :
    Traced (Nat × UInt8) Unit :=
  ⟨(), segment index bytes⟩

/-- What `dns_encode_name` does behind its loop. -/
def encodeEnd (out cap pos : Nat) : Traced (Nat × UInt8) Nat :=
  if pos + 2 > cap then pure 0
  else do
    store (out + pos) [0x00]
    pure (pos + 1)

/-- `dns_encode_name` from some label of the host on.  `idxOf` is the distance
to the dot, or the length if there is none. -/
def dnsEncodeName (out cap : Nat) (label : List UInt8) (pos : Nat) :
    Traced (Nat × UInt8) Nat :=
  if label = [] then encodeEnd out cap pos
  else
    let len := label.idxOf dot
    if len = 0 ∨ len > 63 ∨ pos + len + 2 > cap then pure 0
    else do
      store (out + pos) [UInt8.ofNat len]
      store (out + pos + 1) (label.take len)
      if dot ∉ label then encodeEnd out cap (pos + 1 + len)
      else dnsEncodeName out cap (label.drop (len + 1)) (pos + 1 + len)
termination_by label.length
decreasing_by
  rw [List.length_drop]
  have := List.length_pos_of_ne_nil ‹_›
  omega

/-- `dns_build_query`. -/
def dnsBuildQuery (host : List UInt8) (id : UInt16) (cap : Nat) :
    Traced (Nat × UInt8) Int := do
  let nameLen ← dnsEncodeName 12 (if cap > 12 then cap - 12 else 0) host 0
  if nameLen = 0 then pure (-1)
  else do
    store 0
      [(id >>> 8).toUInt8, (id &&& 0xFF).toUInt8, 0x01, 0x00, 0x00, 0x01,
        0x00, 0x00, 0x00, 0x00, 0x00, 0x00]
    store (12 + nameLen) [0x00, 0x01, 0x00, 0x01]
    pure ((12 + nameLen + 4 : Nat) : Int)

/-- What is asked for a host. -/
def Asks (query : Query) (host : List UInt8) (id : UInt16) : Prop :=
  query.id = id ∧ query.type = 1 ∧ query.qclass = 1 ∧
    (∀ label ∈ query.labels, 1 ≤ label.length ∧ label.length ≤ 63) ∧
    (host = [dot].intercalate query.labels ∨
      host = [dot].intercalate query.labels ++ [dot])

/-- A packet of 512 bytes is built that asks for the host, or none. -/
def Encodes (packet : Nat → UInt8) (host : List UInt8) (id : UInt16) :
    Prop :=
  let built := dnsBuildQuery host id 512
  built.value = -1 ∨
    (∀ write ∈ built.trace, write.1 < 512) ∧
      ∃ length : Nat, built.value = length ∧ length ≤ 512 ∧
        ∃ query,
          readQuery (slice (after packet built.trace) 0 length) =
              some query ∧
            Asks query host id

/-- Labels of 1 to 63 bytes, for which the name ends less than four bytes
before the end of the packet. -/
def IsOverlong (host : List UInt8) : Prop :=
  IsHostName host ∧ 495 ≤ (stripDot host).length ∧
    (stripDot host).length ≤ 497

/-! ## Names -/

variable {out cap pos : Nat}

/-- Bytes are written at `pos` if they fit with one byte to spare, and zero is
returned if they do not. -/
structure Writes (out cap pos : Nat) (bytes : List UInt8)
    (written : Traced (Nat × UInt8) Nat) : Prop where
  fits :
    pos + bytes.length + 1 ≤ cap →
      written = ⟨pos + bytes.length, segment (out + pos) bytes⟩
  overflow : cap < pos + bytes.length + 1 → written.value = 0

theorem encodeEnd_writes :
    Writes out cap pos [0] (encodeEnd out cap pos) where
  fits room := if_neg (Nat.not_lt.mpr room)
  overflow full := congrArg Traced.value (if_pos full)

theorem Writes.label {label : Label} {rest : List UInt8}
    {next : Traced (Nat × UInt8) Nat}
    (writes : Writes out cap (pos + 1 + label.bytes.length) rest next) :
    Writes out cap pos (label.encode ++ rest)
      (if pos + label.bytes.length + 2 > cap then pure 0
        else store (out + pos) label.encode >>= fun _ => next) := by
  have size : label.encode.length = label.bytes.length + 1 := rfl
  constructor
  · intro room
    rw [List.length_append, size] at room
    have behind :
        out + (pos + 1 + label.bytes.length) =
          out + pos + label.encode.length := by
      omega
    have total :
        pos + 1 + label.bytes.length + rest.length =
          pos + (label.encode ++ rest).length := by
      rw [List.length_append, size]
      omega
    rw [if_neg (by omega), writes.fits (by omega), behind, total,
      segment_append]
    rfl
  · intro full
    rw [List.length_append, size] at full
    by_cases room : pos + label.bytes.length + 2 > cap
    · rw [if_pos room]
      rfl
    · rw [if_neg room]
      exact writes.overflow (by omega)

/-- A label is written if there is room for it. -/
theorem dnsEncodeName_label {label : Label} (undotted : dot ∉ label.bytes)
    {tail : List UInt8} (ends : ∀ byte ∈ tail.head?, byte = dot) :
    dnsEncodeName out cap (label.bytes ++ tail) pos =
      if pos + label.bytes.length + 2 > cap then pure 0
      else
        store (out + pos) label.encode >>= fun _ =>
          if tail = [] then
            encodeEnd out cap (pos + 1 + label.bytes.length)
          else
            dnsEncodeName out cap tail.tail
              (pos + 1 + label.bytes.length) := by
  have positive := label.nonempty
  have short := label.short
  have nonempty : label.bytes ++ tail ≠ [] := by
    intro empty
    rw [List.append_eq_nil_iff.mp empty |>.1] at positive
    exact absurd positive (Nat.lt_irrefl 0)
  have distance : (label.bytes ++ tail).idxOf dot = label.bytes.length := by
    rw [List.idxOf_append_of_notMem undotted]
    cases tail with
    | nil => rfl
    | cons byte rest =>
        rw [ends byte rfl]
        rfl
  rw [dnsEncodeName, if_neg nonempty]
  dsimp only
  rw [distance, List.take_left]
  by_cases room : pos + label.bytes.length + 2 > cap
  · rw [if_pos room, if_pos (.inr (.inr room))]
  · rw [if_neg room, if_neg (by omega)]
    cases tail with
    | nil =>
        rw [List.append_nil, if_pos undotted, if_pos rfl]
        rfl
    | cons byte rest =>
        have dotted : ¬ dot ∉ label.bytes ++ byte :: rest := by
          rw [ends byte rfl]
          exact not_not.mpr (List.mem_append_right _ List.mem_cons_self)
        rw [if_neg dotted, if_neg (List.cons_ne_nil _ _),
          List.drop_length_add_append]
        rfl

/-- A name is written as its labels and a zero byte. -/
theorem dnsEncodeName_writes {text : List UInt8} {labels : List Label}
    (spells : Spells text labels) :
    Writes out cap pos (labels.flatMap Label.encode ++ [0])
      (dnsEncodeName out cap text pos) := by
  induction spells generalizing pos with
  | empty =>
      rw [dnsEncodeName, if_pos rfl]
      exact encodeEnd_writes
  | last label undotted =>
      have step :=
        @dnsEncodeName_label out cap pos label undotted []
          (fun byte listed => nomatch listed)
      rw [List.append_nil, if_pos rfl] at step
      rw [step, List.flatMap_singleton]
      exact encodeEnd_writes.label
  | more label undotted rest labels spells induction =>
      have step :=
        @dnsEncodeName_label out cap pos label undotted (dot :: rest)
          (fun byte listed => (Option.some.inj listed).symm)
      rw [if_neg (List.cons_ne_nil _ _), List.tail_cons] at step
      rw [step, List.flatMap_cons, List.append_assoc]
      exact induction.label

/-- Nothing else is written as a name. -/
theorem exists_spells_of_encoded {text : List UInt8}
    (encoded : (dnsEncodeName out cap text pos).value ≠ 0) :
    ∃ labels, Spells text labels := by
  induction size : text.length using Nat.strong_induction_on
    generalizing text pos with
  | _ size induction =>
      rw [dnsEncodeName] at encoded
      by_cases empty : text = []
      · rw [empty]
        exact ⟨[], .empty⟩
      · rw [if_neg empty] at encoded
        dsimp only at encoded
        by_cases rejected :
            text.idxOf dot = 0 ∨ text.idxOf dot > 63 ∨
              pos + text.idxOf dot + 2 > cap
        · rw [if_pos rejected] at encoded
          exact absurd rfl encoded
        · rw [if_neg rejected] at encoded
          by_cases dotted : dot ∈ text
          · rcases List.eq_append_cons_of_mem dotted with
              ⟨front, rest, rfl, undotted⟩
            have distance :
                (front ++ dot :: rest).idxOf dot = front.length := by
              rw [List.idxOf_append_of_notMem undotted]
              rfl
            rw [distance] at encoded rejected
            obtain ⟨label, rfl⟩ : ∃ label : Label, label.bytes = front :=
              ⟨⟨front, by omega, by omega⟩, rfl⟩
            rw [if_neg (not_not.mpr dotted), List.drop_length_add_append]
              at encoded
            rw [List.length_append, List.length_cons] at size
            rcases induction rest.length (by omega) encoded rfl with
              ⟨labels, spells⟩
            exact ⟨label :: labels, .more _ undotted _ _ spells⟩
          · rw [List.idxOf_of_notMem dotted] at rejected
            obtain ⟨label, rfl⟩ : ∃ label : Label, label.bytes = text :=
              ⟨⟨text, by omega, by omega⟩, rfl⟩
            exact ⟨[label], .last _ dotted⟩

/-! ## The packet -/

variable {host : List UInt8} {id : UInt16} {labels : List Label}

/-- The query that is to be written. -/
def hostQuery (labels : List Label) (id : UInt16) : Message :=
  (Question.mk labels 1 1).query id 0x0100

theorem header_hostQuery (labels : List Label) (id : UInt16) :
    (hostQuery labels id).header =
      [(id >>> 8).toUInt8, (id &&& 0xFF).toUInt8, 0x01, 0x00, 0x00, 0x01,
        0x00, 0x00, 0x00, 0x00, 0x00, 0x00] := by
  have high : UInt8.ofNat (id.toNat / 256) = (id >>> 8).toUInt8 := by
    rw [← UInt8.toNat_inj, UInt8.toNat_ofNat', UInt16.toNat_toUInt8,
      UInt16.toNat_shiftRight, Nat.shiftRight_eq_div_pow]
    rfl
  have low : UInt8.ofNat id.toNat = (id &&& 0xFF).toUInt8 := by
    rw [← UInt8.toNat_inj, UInt8.toNat_ofNat', UInt16.toNat_toUInt8,
      UInt16.toNat_and]
    show _ = (id.toNat &&& (2 ^ 8 - 1)) % 256
    rw [Nat.and_two_pow_sub_one_eq_mod, Nat.mod_mod]
  have flags : word16 0x0100 = [0x01, 0x00] := by decide
  have one : word16 1 = [0x00, 0x01] := by decide
  have zero : word16 0 = [0x00, 0x00] := by decide
  show
    word16 id ++ word16 0x0100 ++ word16 1 ++ word16 0 ++ word16 0 ++
      word16 0 = _
  rw [← high, ← low, flags, one, zero]
  rfl

/-- What is stored for a name that fits. -/
theorem dnsBuildQuery_eq (spells : Spells host labels)
    (room : (labels.flatMap Label.encode).length + 2 ≤ 500) :
    dnsBuildQuery host id 512 =
      ⟨(((labels.flatMap Label.encode).length + 17 : Nat) : Int),
        segment 12 (labels.flatMap Label.encode ++ [0]) ++
          (segment 0 (hostQuery labels id).header ++
            segment (12 + (labels.flatMap Label.encode ++ [0]).length)
              (word16 1 ++ word16 1))⟩ := by
  have name : dnsEncodeName 12 500 host 0 = _ :=
    (dnsEncodeName_writes spells).fits (by
      rw [List.length_append, List.length_singleton]
      omega)
  have fixed : word16 1 ++ word16 1 = [0x00, 0x01, 0x00, 0x01] := by
    decide
  have size :
      (labels.flatMap Label.encode ++ [0]).length =
        (labels.flatMap Label.encode).length + 1 := by
    rw [List.length_append, List.length_singleton]
  have total :
      12 + ((labels.flatMap Label.encode).length + 1) + 4 =
        (labels.flatMap Label.encode).length + 17 := by
    omega
  rw [Nat.zero_add, Nat.add_zero, size] at name
  show
    (⟨_, _⟩ : Traced (Nat × UInt8) Int) = _
  rw [if_pos (by decide : 512 > 12), show 512 - 12 = 500 from rfl, name]
  dsimp only
  rw [if_neg (Nat.succ_ne_zero _), header_hostQuery, fixed, size,
    total]
  rfl

/-- No query is built without a name. -/
theorem dnsBuildQuery_fails
    (failed : (dnsEncodeName 12 500 host 0).value = 0) :
    (dnsBuildQuery host id 512).value = -1 := by
  show
    (if (dnsEncodeName 12 500 host 0).value = 0 then pure (-1) else _ :
      Traced (Nat × UInt8) Int).value = -1
  rw [if_pos failed]
  rfl

theorem encode_hostQuery (labels : List Label) (id : UInt16) :
    (hostQuery labels id).encode =
      (hostQuery labels id).header ++
        ((labels.flatMap Label.encode ++ [0]) ++
          (word16 1 ++ word16 1)) := by
  show
    _ ++ ((labels.flatMap Label.encode ++ 0 :: (word16 1 ++ word16 1)) ++
      []) = _
  rw [List.append_nil, List.append_assoc]
  rfl

/-- The packet holds the query after it was built. -/
theorem holds_hostQuery (packet : Nat → UInt8)
    (spells : Spells host labels)
    (room : (labels.flatMap Label.encode).length + 2 ≤ 500) :
    Holds (after packet (dnsBuildQuery host id 512).trace) 0
      (hostQuery labels id).encode := by
  rw [dnsBuildQuery_eq spells room, encode_hostQuery]
  show Holds (after packet (_ ++ (_ ++ _))) 0 _
  rw [after_append, after_append, holds_append, holds_append,
    Message.length_header, Nat.zero_add]
  refine ⟨?_, ?_, holds_after_segment ..⟩
  · apply (holds_after_segment 0 _).after_segment
    rw [Message.length_header]
    omega
  · apply ((holds_after_segment 12 _).after_segment _).after_segment
    · exact .inl (Nat.le_refl _)
    · rw [Message.length_header]
      exact .inr (Nat.le_refl _)

/-- A name that fits is asked for if the packet holds the four bytes behind
it. -/
theorem encodes_of_spells (packet : Nat → UInt8)
    (spells : Spells host labels)
    (room : (labels.flatMap Label.encode).length + 17 ≤ 512) :
    Encodes packet host id := by
  have built := @dnsBuildQuery_eq host id labels spells (by omega)
  have name :
      (labels.flatMap Label.encode ++ [0]).length =
        (labels.flatMap Label.encode).length + 1 := by
    rw [List.length_append, List.length_singleton]
  have total :
      (hostQuery labels id).encode.length =
        (labels.flatMap Label.encode).length + 17 := by
    rw [encode_hostQuery, List.length_append, List.length_append, name,
      Message.length_header]
    show 12 + (_ + 1 + 4) = _
    omega
  have held :=
    (@holds_hostQuery host id labels packet spells (by omega)).slice_eq
  have read := (Question.mk labels 1 1).readQuery_query id 0x0100
  rw [total] at held
  refine
    .inr
      ⟨?_, _, congrArg Traced.value built, room, _,
        (congrArg readQuery held).trans read, rfl, rfl, rfl, ?_,
        spells.eq_joined_or⟩
  · rw [built]
    intro write listed
    rcases List.mem_append.mp listed with inName | listed
    · have range := mem_segment_iff.mp ⟨write, inName, rfl⟩
      omega
    · rcases List.mem_append.mp listed with inHeader | inFixed
      · have range := mem_segment_iff.mp ⟨write, inHeader, rfl⟩
        rw [Message.length_header] at range
        omega
      · have range := mem_segment_iff.mp ⟨write, inFixed, rfl⟩
        rw [name, List.length_append, length_word16] at range
        omega
  · intro bytes listed
    rcases List.mem_map.mp listed with ⟨label, -, rfl⟩
    exact ⟨label.nonempty, label.short⟩

/-- If it does not, bytes behind the packet are stored. -/
theorem not_encodes_of_overlong (packet : Nat → UInt8)
    (overlong : IsOverlong host) : ¬ Encodes packet host id := by
  rcases overlong with ⟨isHost, low, high⟩
  have nonempty : host ≠ [] := by
    rintro rfl
    exact absurd low (by decide)
  rcases (exists_spells_iff nonempty).mpr isHost with ⟨labels, spells⟩
  have size := length_encode_labels (spells.eq_joined nonempty).1
  rw [spells.stripDot_eq nonempty] at low high
  have built := @dnsBuildQuery_eq host id labels spells (by omega)
  rintro (failed | ⟨inside, -⟩)
  · rw [built] at failed
    dsimp only at failed
    omega
  · rw [built] at inside
    have range :=
      @mem_segment_iff _ (12 + (labels.flatMap Label.encode ++ [0]).length)
        (word16 1 ++ word16 1)
        (12 + (labels.flatMap Label.encode ++ [0]).length + 3)
    rcases range.mpr ⟨by omega, Nat.lt_succ_self _⟩ with
      ⟨write, listed, place⟩
    have below :=
      inside write
        (List.mem_append_right _ (List.mem_append_right _ listed))
    rw [place, List.length_append, List.length_singleton] at below
    omega

/--
For every host and every identifier, no query is built or a query is built in
the packet that asks for the host, exactly if the host is not a name with an
encoding that ends less than four bytes before the end of the packet.
-/
theorem dnsBuildQuery_encodes_iff (packet : Nat → UInt8)
    (host : List UInt8) (id : UInt16) :
    Encodes packet host id ↔ ¬ IsOverlong host := by
  constructor
  · intro encodes overlong
    exact not_encodes_of_overlong packet overlong encodes
  · intro fitting
    by_cases encoded : (dnsEncodeName 12 500 host 0).value = 0
    · exact .inl (dnsBuildQuery_fails encoded)
    · rcases exists_spells_of_encoded encoded with ⟨labels, spells⟩
      apply encodes_of_spells packet spells
      by_contra long
      have fits :
          ¬ 500 < 0 + (labels.flatMap Label.encode ++ [0]).length + 1 :=
        fun full => encoded ((dnsEncodeName_writes spells).overflow full)
      rw [List.length_append, List.length_singleton] at fits
      have nonempty : host ≠ [] := by
        intro empty
        rw [spells.eq_nil empty] at long
        exact absurd long (by decide)
      have size := length_encode_labels (spells.eq_joined nonempty).1
      apply fitting
      refine ⟨(exists_spells_iff nonempty).mp ⟨labels, spells⟩, ?_, ?_⟩
      · rw [spells.stripDot_eq nonempty]
        omega
      · rw [spells.stripDot_eq nonempty]
        omega

/-- A label of one letter. -/
def letter : Label := ⟨[97], by decide, by decide⟩

/-- A host of 248 such labels. -/
def longHost : List UInt8 :=
  joined (List.replicate 248 letter)

theorem longHost_overlong : IsOverlong longHost := by
  have nonempty : List.replicate 248 letter ≠ [] := List.cons_ne_nil _ _
  have undotted :
      ∀ label ∈ List.replicate 248 letter, dot ∉ label.bytes := by
    intro label listed
    rw [List.eq_of_mem_replicate listed]
    decide
  have size := length_encode_labels nonempty
  rw [List.length_flatMap, List.map_replicate, List.sum_replicate_nat]
    at size
  have two : letter.encode.length = 2 := rfl
  refine ⟨isHostName_joined nonempty undotted, ?_, ?_⟩
  · rw [longHost, stripDot_joined undotted]
    omega
  · rw [longHost, stripDot_joined undotted]
    omega

theorem longHost_overruns :
    ¬ ∀ (packet : Nat → UInt8) (host : List UInt8) (id : UInt16),
        Encodes packet host id :=
  fun encodes =>
    not_encodes_of_overlong (fun _ => 0) longHost_overlong
      (encodes _ longHost 0)

end SlpClient.Slp
