import SlpClient.Lib.OnesComplement
import SlpClient.Tunnel.Packets

/-!
# The header checksum

`IpChecksum` sums the words of a header in 32 bits and folds the carries at
the end.  For everything shorter than 64 KiB nothing is lost on the way, so
the result is the complement of the one's-complement sum, whatever the order
in which a receiver folds its carries; with the checksum in place that sum is
all ones.
-/

namespace SlpClient.Tunnel

open SlpClient.Lib

/-! ## The loops, in 32 bits -/

/-- A big-endian word of the first loop. -/
def word32 (high low : UInt8) : UInt32 :=
  ((high.toUInt32 <<< 8) ||| low.toUInt32).toUInt16.toUInt32

/-- The first loop of `IpChecksum`, with an odd last byte padded. -/
def accumulate (sum : UInt32) : List UInt8 → UInt32
  | [] => sum
  | [high] => sum + word32 high 0
  | high :: low :: rest => accumulate (sum + word32 high low) rest

/-- One round of the second loop. -/
def carryRound (sum : UInt32) : UInt32 :=
  (sum &&& (0xFFFF : UInt32)) + (sum >>> (16 : UInt32))

theorem shiftRight_toNat (sum : UInt32) :
    (sum >>> 16).toNat = sum.toNat / 65536 := by
  rw [UInt32.toNat_shiftRight]
  exact Nat.shiftRight_eq_div_pow ..

theorem carryRound_toNat (sum : UInt32) :
    (carryRound sum).toNat = sum.toNat % 65536 + sum.toNat / 65536 := by
  have bound : sum.toNat < 2 ^ 32 := sum.toNat_lt
  have mask : sum.toNat &&& (0xFFFF : UInt32).toNat = sum.toNat % 65536 :=
    Nat.and_two_pow_sub_one_eq_mod sum.toNat 16
  unfold carryRound
  rw [UInt32.toNat_add, UInt32.toNat_and, shiftRight_toNat, mask]
  omega

theorem shiftRight_eq_zero_iff (sum : UInt32) :
    sum >>> 16 = 0 ↔ sum.toNat < 65536 := by
  rw [← UInt32.toNat_inj, shiftRight_toNat]
  show sum.toNat / 65536 = 0 ↔ _
  omega

/-- The second loop of `IpChecksum`. -/
def foldLoop (sum : UInt32) : UInt32 :=
  if sum >>> 16 = 0 then sum else foldLoop (carryRound sum)
termination_by sum.toNat
decreasing_by
  rename_i carries
  rw [shiftRight_eq_zero_iff] at carries
  rw [carryRound_toNat]
  omega

/-- `IpChecksum`, with its 32-bit accumulator. -/
def ipChecksum32 (bytes : List UInt8) : UInt16 :=
  (~~~ foldLoop (accumulate 0 bytes)).toUInt16

/-! ## Nothing is lost in 32 bits -/

theorem word32_toNat (high low : UInt8) :
    (word32 high low).toNat = high.toNat * 256 + low.toNat := by
  have highBound := high.toNat_lt
  have lowBound := low.toNat_lt
  unfold word32
  rw [UInt16.toNat_toUInt32, UInt32.toNat_toUInt16, shiftLeft_or_toNat]
  omega

/-- Half as many words as bytes, none above 65535. -/
theorem wordSum_le (bytes : List UInt8) :
    2 * wordSum bytes ≤ 65535 * (bytes.length + 1) := by
  fun_induction wordSum bytes with
  | case1 => exact Nat.zero_le _
  | case2 high =>
      have bound := high.toNat_lt
      rw [List.length_singleton]
      omega
  | case3 high low rest induction =>
      have highBound := high.toNat_lt
      have lowBound := low.toNat_lt
      rw [List.length_cons, List.length_cons]
      omega

/-- While the exact sum fits, it is the accumulator. -/
theorem accumulate_toNat (bytes : List UInt8) (sum : UInt32)
    (fits : sum.toNat + wordSum bytes < 2 ^ 32) :
    (accumulate sum bytes).toNat = sum.toNat + wordSum bytes := by
  fun_induction wordSum bytes generalizing sum with
  | case1 => rfl
  | case2 high =>
      show (sum + word32 high 0).toNat = _
      rw [UInt32.toNat_add, word32_toNat, UInt8.toNat_zero, Nat.add_zero]
      omega
  | case3 high low rest induction =>
      have word :
          (sum + word32 high low).toNat =
            sum.toNat + (high.toNat * 256 + low.toNat) := by
        rw [UInt32.toNat_add, word32_toNat]
        omega
      show (accumulate (sum + word32 high low) rest).toNat = _
      rw [induction _ (by rw [word]; omega), word]
      omega

theorem foldLoop_toNat (sum : UInt32) :
    (foldLoop sum).toNat = foldCarries sum.toNat := by
  fun_induction foldLoop sum with
  | case1 sum small =>
      rw [shiftRight_eq_zero_iff] at small
      rw [foldCarries, if_pos (Nat.div_eq_of_lt small)]
  | case2 sum carries induction =>
      rw [shiftRight_eq_zero_iff] at carries
      have more : sum.toNat / 65536 ≠ 0 := by omega
      rw [foldCarries, if_neg more, induction, carryRound_toNat]

/-- Two rounds fold all the carries of 32 bits. -/
theorem carryRound_twice (sum : UInt32) :
    carryRound (carryRound sum) >>> 16 = 0 := by
  have bound : sum.toNat < 2 ^ 32 := sum.toNat_lt
  rw [shiftRight_eq_zero_iff, carryRound_toNat, carryRound_toNat]
  omega

theorem foldCarries_folds (sum : Nat) :
    OnesComplement.Folds 65536 sum (foldCarries sum) := by
  fun_induction foldCarries sum with
  | case1 sum small =>
      exact OnesComplement.Folds.refl (by omega)
  | case2 sum carries induction =>
      exact OnesComplement.Folds.of_step (by decide) (by omega) induction

/-- The 32-bit loops compute the complement of the folded sum. -/
theorem ipChecksum32_eq {bytes : List UInt8}
    (short : bytes.length < 65536) :
    ipChecksum32 bytes = ipChecksum bytes := by
  have bound := wordSum_le bytes
  have exact : (accumulate 0 bytes).toNat = wordSum bytes := by
    have summed := accumulate_toNat bytes 0 (by
      show 0 + wordSum bytes < 2 ^ 32
      omega)
    rw [summed]
    exact Nat.zero_add _
  have folded := foldLoop_toNat (accumulate 0 bytes)
  have small := (foldCarries_folds (wordSum bytes)).small
  rw [exact] at folded
  apply UInt16.toNat_inj.mp
  unfold ipChecksum32 ipChecksum
  rw [UInt32.toNat_toUInt16, UInt32.toNat_not, folded, UInt16.toNat_ofNat']
  show (2 ^ 32 - 1 - _) % 2 ^ 16 = _
  omega

/-! ## Headers that verify -/

/-- The big-endian words of a header, an odd last byte padded. -/
def headerWords : List UInt8 → List Nat
  | [] => []
  | [high] => [high.toNat * 256]
  | high :: low :: rest =>
      (high.toNat * 256 + low.toNat) :: headerWords rest

/-- A receiver adds up the words with end-around carries to all ones. -/
def Verifies (header : List UInt8) : Prop :=
  OnesComplement.sum 65536 (headerWords header) = 0xFFFF

/-- The header with a checksum in its bytes 10 and 11. -/
def withChecksum (header : List UInt8) (checksum : UInt16) : List UInt8 :=
  header.take 10 ++ wr16be checksum ++ header.drop 12

/--
Whatever is cut off, the 32-bit accumulator holds the exact sum, and two
rounds at most fold its carries.
-/
structure SumsExactly (bytes : List UInt8) : Prop where
  accumulated :
    ∀ count,
      (accumulate 0 (bytes.take count)).toNat =
        wordSum (bytes.take count)
  folded : ∃ rounds ≤ 2, carryRound^[rounds] (accumulate 0 bytes) >>> 16 = 0

theorem sumsExactly {bytes : List UInt8} (short : bytes.length < 65536) :
    SumsExactly bytes where
  accumulated count := by
    have bound := wordSum_le (bytes.take count)
    have fewer : (bytes.take count).length ≤ bytes.length :=
      List.length_take_le' ..
    have summed := accumulate_toNat (bytes.take count) 0 (by
      show 0 + wordSum (bytes.take count) < 2 ^ 32
      omega)
    rw [summed]
    exact Nat.zero_add _
  folded := ⟨2, le_rfl, carryRound_twice _⟩

theorem headerWords_sum (bytes : List UInt8) :
    (headerWords bytes).sum = wordSum bytes := by
  fun_induction headerWords bytes with
  | case1 => rfl
  | case2 high =>
      rw [List.sum_singleton]
      rfl
  | case3 high low rest induction =>
      rw [List.sum_cons, induction]
      rfl

theorem headerWords_lt (bytes : List UInt8) :
    ∀ word ∈ headerWords bytes, word < 65536 := by
  fun_induction headerWords bytes with
  | case1 => exact fun _ member => absurd member List.not_mem_nil
  | case2 high =>
      intro word member
      have bound := high.toNat_lt
      rw [List.mem_singleton.mp member]
      omega
  | case3 high low rest induction =>
      intro word member
      have highBound := high.toNat_lt
      have lowBound := low.toNat_lt
      rcases List.mem_cons.mp member with rfl | later
      · omega
      · exact induction word later

/-- A receiver may as well add everything and fold at the end. -/
theorem verifies_iff (header : List UInt8) :
    Verifies header ↔ foldCarries (wordSum header) = 0xFFFF := by
  have added :=
    OnesComplement.folds_sum (by decide) (headerWords_lt header)
  rw [headerWords_sum] at added
  unfold Verifies
  rw [added.unique (by decide) (foldCarries_folds _)]

theorem wordSum_append {first : List UInt8} (rest : List UInt8)
    (even : first.length % 2 = 0) :
    wordSum (first ++ rest) = wordSum first + wordSum rest := by
  fun_induction wordSum first with
  | case1 => exact (Nat.zero_add _).symm
  | case2 high => nomatch even
  | case3 high low tail induction =>
      rw [List.length_cons, List.length_cons] at even
      show _ + wordSum (tail ++ rest) = _
      rw [induction (by omega)]
      exact (Nat.add_assoc ..).symm

theorem wordSum_wr16be (value : UInt16) :
    wordSum (wr16be value) = value.toNat := by
  have length := wr16be_length value
  have read : beValue (wr16be value) = value.toNat := by
    rw [wr16be, beValue_beBytes]
    exact Nat.mod_eq_of_lt value.toNat_lt
  rcases field : wr16be value with _ | ⟨high, _ | ⟨low, _ | ⟨more, rest⟩⟩⟩
  · rw [field] at length
    simp at length
  · rw [field] at length
    simp at length
  · rw [field] at read
    rw [← read]
    simp [wordSum, beValue, leValue]
    omega
  · rw [field] at length
    simp at length

/-- A header whose checksum field is zero, around that field. -/
theorem eq_withChecksum_zero {header : List UInt8}
    (first : header[10]? = some 0) (second : header[11]? = some 0) :
    header = header.take 10 ++ ([0, 0] ++ header.drop 12) := by
  rcases List.getElem?_eq_some_iff.mp first with ⟨inside, high⟩
  rcases List.getElem?_eq_some_iff.mp second with ⟨inside', low⟩
  have rest : header.drop 10 = 0 :: 0 :: header.drop 12 := by
    rw [List.drop_eq_getElem_cons inside, List.drop_eq_getElem_cons inside',
      high, low]
  calc
    header = header.take 10 ++ header.drop 10 :=
      (List.take_append_drop 10 header).symm
    _ = header.take 10 ++ ([0, 0] ++ header.drop 12) := by
      rw [rest]
      rfl

theorem wordSum_withChecksum {header : List UInt8}
    (first : header[10]? = some 0) (second : header[11]? = some 0)
    (checksum : UInt16) :
    wordSum (withChecksum header checksum) =
      wordSum header + checksum.toNat := by
  have inside : 11 < header.length :=
    (List.getElem?_eq_some_iff.mp second).1
  have even : (header.take 10).length % 2 = 0 := by
    rw [List.length_take]
    omega
  have blank :
      wordSum header =
        wordSum (header.take 10) + (0 + wordSum (header.drop 12)) := by
    conv_lhs => rw [eq_withChecksum_zero first second]
    rw [wordSum_append _ even, wordSum_append _ rfl]
    rfl
  rw [withChecksum, List.append_assoc, wordSum_append _ even,
    wordSum_append _ (by rw [wr16be_length]), wordSum_wr16be, blank]
  omega

/-- The complement of the sum makes a header verify. -/
theorem verifies_withChecksum {header : List UInt8}
    (first : header[10]? = some 0) (second : header[11]? = some 0) :
    Verifies (withChecksum header (ipChecksum header)) := by
  have folds := foldCarries_folds (wordSum header)
  have small := folds.small
  have complement :
      (ipChecksum header).toNat = 65535 - foldCarries (wordSum header) := by
    rw [ipChecksum, UInt16.toNat_ofNat']
    omega
  rw [verifies_iff, wordSum_withChecksum first second, complement]
  exact
    (foldCarries_folds _).unique (by decide) (folds.complement (by decide))

/-- The checksum field of a header stands behind its first ten bytes. -/
theorem exists_ipHeader_eq (src dst : UInt32) (id total : UInt16) :
    ∃ front : List UInt8, front.length = 10 ∧
      ∀ checksum, ipHeader src dst id total checksum =
        front ++ (wr16be checksum ++ (wr32be src ++ wr32be dst)) := by
  refine
    ⟨[0x45, 0x00] ++ wr16be total ++ wr16be id ++ [0x40, 0x00, 64, 17],
      ?_, ?_⟩
  · simp
  · intro checksum
    simp [ipHeader, List.append_assoc]

/-- The header before its checksum is known, and after. -/
theorem ipHeader_blank (src dst : UInt32) (id total : UInt16) :
    (ipHeader src dst id total 0)[10]? = some 0 ∧
      (ipHeader src dst id total 0)[11]? = some 0 ∧
      ∀ checksum,
        ipHeader src dst id total checksum =
          withChecksum (ipHeader src dst id total 0) checksum := by
  rcases exists_ipHeader_eq src dst id total with ⟨front, length, shape⟩
  have zeros : wr16be 0 = [0, 0] := rfl
  have rest :
      (front ++ (wr16be 0 ++ (wr32be src ++ wr32be dst))).drop 12 =
        wr32be src ++ wr32be dst := by
    rw [← List.append_assoc]
    exact List.drop_left' (by rw [List.length_append, length]; rfl)
  refine ⟨?_, ?_, ?_⟩
  · rw [shape, zeros, List.getElem?_append_right length.le, length]
    rfl
  · rw [shape, zeros, List.getElem?_append_right (by omega), length]
    rfl
  · intro checksum
    rw [shape checksum, shape 0, withChecksum, List.take_left' length, rest,
      List.append_assoc]

/-- The header of every packet that is sent verifies. -/
theorem verifies_ipPacket (call : SendCall) (src : UInt32) (id : UInt16) :
    Verifies ((ipPacket call src id).take 20) := by
  have length (total checksum : UInt16) :
      (ipHeader src call.dst id total checksum).length = 20 := by
    simp [ipHeader]
  unfold ipPacket
  dsimp only
  rw [List.append_assoc, List.take_left' (length ..)]
  rcases ipHeader_blank src call.dst id
    (UInt16.ofNat (20 + 8 + call.data.length)) with ⟨first, second, filled⟩
  rw [filled]
  exact verifies_withChecksum first second

/--
A header whose checksum field is zero verifies once its checksum is written
there, and its checksum is zero then.  Nothing is lost in the 32-bit sums,
and the carries are folded after two rounds at most.  So every header that
`slp::tun::Send` builds verifies.
-/
theorem ipChecksum_verifies {header : List UInt8}
    (short : header.length < 65536)
    (first : header[10]? = some 0) (second : header[11]? = some 0) :
    SumsExactly header ∧
      SumsExactly (withChecksum header (ipChecksum32 header)) ∧
      foldCarries
          (wordSum (withChecksum header (ipChecksum32 header))) =
        0xFFFF ∧
      Verifies (withChecksum header (ipChecksum32 header)) ∧
      ipChecksum32 (withChecksum header (ipChecksum32 header)) = 0 ∧
      ∀ (call : SendCall) (src : UInt32) (id : UInt16),
        Verifies ((ipPacket call src id).take 20) := by
  have inside : 11 < header.length :=
    (List.getElem?_eq_some_iff.mp second).1
  have verifies := verifies_withChecksum first second
  have ones := (verifies_iff _).mp verifies
  have length (checksum : UInt16) :
      (withChecksum header checksum).length < 65536 := by
    simp only [withChecksum, List.length_append, List.length_take,
      wr16be_length, List.length_drop]
    omega
  rw [ipChecksum32_eq short, ipChecksum32_eq (length _)]
  refine
    ⟨sumsExactly short, sumsExactly (length _), ones, verifies, ?_,
      verifies_ipPacket⟩
  unfold ipChecksum at ones ⊢
  rw [ones]
  rfl

/-- An empty datagram from 10.13.0.2 to 10.13.0.3, as it is sent. -/
theorem ipHeader_verifies_empty :
    Verifies
      (withChecksum (ipHeader 0x0A0D0002 0x0A0D0003 0 28 0)
        (ipChecksum32 (ipHeader 0x0A0D0002 0x0A0D0003 0 28 0))) :=
  (ipChecksum_verifies (by decide) rfl rfl).2.2.2.1

end SlpClient.Tunnel
