import Mathlib.Algebra.Group.Nat.Defs
import Mathlib.Data.List.Basic

/-!
# Virtual addresses and ports

IPv4 addresses are 32-bit numbers whose most significant byte is the first
octet, as the tunnel and the node tables keep them.
-/

namespace SlpClient.Net

/-- Destinations that `slp::tun::Send` delivers locally: `127.0.0.0/8`. -/
def isLoopback (ip : UInt32) : Bool :=
  ip &&& 0xFF000000 == 0x7F000000

/-- Addresses of the virtual LAN: `10.13.0.0/16`. -/
def isLanAddress (ip : UInt32) : Bool :=
  ip &&& 0xFFFF0000 == 0x0A0D0000

/-- Ports exempt from the session filter: LAN browse, session and auxiliary. -/
def isLanModePort (port : UInt16) : Bool :=
  port == 30000 || port == 40000 || port == 35000 ||
    (49152 ≤ port && port ≤ 49155)

/-- Dotted text of the virtual address with the given two low octets. -/
def virtualIpText (octets : UInt8 × UInt8) : List Char :=
  ['1', '0', '.', '1', '3', '.'] ++ Nat.toDigits 10 octets.1.toNat ++
    ['.'] ++ Nat.toDigits 10 octets.2.toNat

/-- The loop of `ParseIp`: value so far, octets read, current octet. -/
def parseIpFrom : List Char → UInt32 → Nat → Nat → UInt32
  | [], value, octets, current =>
      if current > 255 ∨ octets > 3 then 0
      else if octets + 1 = 4 then value <<< 8 ||| UInt32.ofNat current
      else 0
  | char :: rest, value, octets, current =>
      if char.isDigit then
        parseIpFrom rest value octets
          (current * 10 + (char.toNat - '0'.toNat))
      else if char = '.' then
        if current > 255 ∨ octets > 3 then 0
        else
          parseIpFrom rest (value <<< 8 ||| UInt32.ofNat current)
            (octets + 1) 0
      else 0

/-- `ParseIp`: a dotted quad as a number, zero when malformed. -/
def parseIp (text : List Char) : UInt32 :=
  parseIpFrom text 0 0 0

/-- The decimal digits of an octet are read as that octet. -/
theorem parseIpFrom_octet
    (octet : UInt8) (rest : List Char) (value : UInt32) (octets : Nat) :
    parseIpFrom (Nat.toDigits 10 octet.toNat ++ rest) value octets 0 =
      parseIpFrom rest value octets octet.toNat := by
  have digits :
      ∀ number : Fin 256,
        (Nat.toDigits 10 number).all Char.isDigit ∧
          (Nat.toDigits 10 number).foldl
            (fun current char => current * 10 + (char.toNat - '0'.toNat))
            0 = number := by
    decide +kernel
  have fold :
      ∀ (text : List Char) (current : Nat), text.all Char.isDigit →
        parseIpFrom (text ++ rest) value octets current =
          parseIpFrom rest value octets
            (text.foldl
              (fun current char =>
                current * 10 + (char.toNat - '0'.toNat)) current) := by
    intro text
    induction text with
    | nil => simp
    | cons char tail induction =>
        intro current allDigits
        simp only [List.all_cons, Bool.and_eq_true] at allDigits
        simp only [List.cons_append, parseIpFrom, allDigits.1, if_true,
          List.foldl_cons]
        exact induction _ allDigits.2
  have spelled := digits ⟨octet.toNat, octet.toNat_lt⟩
  rw [fold _ 0 spelled.1, spelled.2]

/-- Shifting in one octet multiplies by 256 and adds it. -/
theorem shiftLeft_or_octet (value : Nat) (bound : value < 2 ^ 24)
    (octet : UInt8) :
    UInt32.ofNat value <<< 8 ||| UInt32.ofNat octet.toNat =
      UInt32.ofNat (value * 256 + octet.toNat) := by
  have octetLt : octet.toNat < 2 ^ 8 := octet.toNat_lt
  apply UInt32.toNat_inj.mp
  have shifted := Nat.shiftLeft_add_eq_or_of_lt octetLt value
  rw [Nat.shiftLeft_eq] at shifted
  simp only [UInt32.toNat_or, UInt32.toNat_shiftLeft, UInt32.toNat_ofNat',
    UInt32.reduceToNat, Nat.reduceMod, Nat.shiftLeft_eq]
  rw [Nat.mod_eq_of_lt (a := value) (by omega),
    Nat.mod_eq_of_lt (a := octet.toNat) (by omega),
    Nat.mod_eq_of_lt (a := value * 2 ^ 8) (by omega), ← shifted]
  omega

/-- Every virtual address is read back as `10.13.c.d`. -/
theorem parseIp_virtualIpText (octets : UInt8 × UInt8) :
    parseIp (virtualIpText octets) =
      UInt32.ofNat
        (0x0A0D0000 + octets.1.toNat * 256 + octets.2.toNat) := by
  have firstLt : octets.1.toNat < 256 := octets.1.toNat_lt
  have secondLt : octets.2.toNat < 256 := octets.2.toNat_lt
  have subnet :
      parseIp (virtualIpText octets) =
        parseIpFrom
          (Nat.toDigits 10 octets.1.toNat ++
            ('.' :: Nat.toDigits 10 octets.2.toNat))
          (UInt32.ofNat 0x0A0D) 2 0 := by
    simp [parseIp, virtualIpText, parseIpFrom, Char.isDigit]
    rfl
  have dot :
      parseIpFrom ('.' :: Nat.toDigits 10 octets.2.toNat)
          (UInt32.ofNat 0x0A0D) 2 octets.1.toNat =
        parseIpFrom (Nat.toDigits 10 octets.2.toNat)
          (UInt32.ofNat 0x0A0D <<< 8 ||| UInt32.ofNat octets.1.toNat)
          3 0 := by
    have small : ¬ octets.1.toNat > 255 := by omega
    simp [parseIpFrom, Char.isDigit, small]
  have last :
      parseIpFrom (Nat.toDigits 10 octets.2.toNat)
          (UInt32.ofNat 0x0A0D <<< 8 ||| UInt32.ofNat octets.1.toNat)
          3 0 =
        (UInt32.ofNat 0x0A0D <<< 8 ||| UInt32.ofNat octets.1.toNat)
            <<< 8 ||| UInt32.ofNat octets.2.toNat := by
    have small : ¬ octets.2.toNat > 255 := by omega
    have read :=
      parseIpFrom_octet octets.2 []
        (UInt32.ofNat 0x0A0D <<< 8 ||| UInt32.ofNat octets.1.toNat) 3
    rw [List.append_nil] at read
    rw [read]
    simp [parseIpFrom, small]
  rw [subnet, parseIpFrom_octet, dot, last,
    shiftLeft_or_octet _ (by decide), shiftLeft_or_octet _ (by omega)]
  congr 1
  omega

/-- Masking away the `low` least significant bits rounds down. -/
theorem and_highMask (value low width : Nat) (bound : value < 2 ^ width)
    (fits : low ≤ width) :
    value &&& (2 ^ (width - low) - 1) <<< low =
      value / 2 ^ low * 2 ^ low := by
  rw [← Nat.shiftRight_eq_div_pow, ← Nat.shiftLeft_eq]
  apply Nat.eq_of_testBit_eq
  intro index
  simp only [Nat.testBit_and, Nat.testBit_shiftLeft,
    Nat.testBit_two_pow_sub_one, Nat.testBit_shiftRight]
  by_cases high : index ≥ low
  · have position : low + (index - low) = index := by omega
    by_cases inside : index < width
    · have kept : index - low < width - low := by omega
      simp [high, position, kept]
    · have clear : value.testBit index = false := by
        apply Nat.testBit_lt_two_pow
        exact
          Nat.lt_of_lt_of_le bound
            (Nat.pow_le_pow_right (by decide) (by omega))
      simp [position, clear]
  · simp [high]

theorem isLoopback_iff (ip : UInt32) :
    isLoopback ip = true ↔ ip.toNat / 2 ^ 24 = 127 := by
  have masked := and_highMask ip.toNat 24 32 ip.toNat_lt (by decide)
  simp only [isLoopback, beq_iff_eq, ← UInt32.toNat_inj,
    UInt32.toNat_and, UInt32.reduceToNat]
  rw [show (4278190080 : Nat) = (2 ^ (32 - 24) - 1) <<< 24 by rfl, masked]
  omega

theorem isLanAddress_iff (ip : UInt32) :
    isLanAddress ip = true ↔ ip.toNat / 2 ^ 16 = 0x0A0D := by
  have masked := and_highMask ip.toNat 16 32 ip.toNat_lt (by decide)
  simp only [isLanAddress, beq_iff_eq, ← UInt32.toNat_inj,
    UInt32.toNat_and, UInt32.reduceToNat]
  rw [show (4294901760 : Nat) = (2 ^ (32 - 16) - 1) <<< 16 by rfl, masked]
  omega

/-- Every virtual address lies in the virtual LAN. -/
theorem isLanAddress_virtualIp (octets : UInt8 × UInt8) :
    isLanAddress (parseIp (virtualIpText octets)) = true := by
  have firstLt : octets.1.toNat < 256 := octets.1.toNat_lt
  have secondLt : octets.2.toNat < 256 := octets.2.toNat_lt
  rw [isLanAddress_iff, parseIp_virtualIpText, UInt32.toNat_ofNat']
  omega

/-- The broadcast address of the virtual LAN lies in it. -/
theorem isLanAddress_broadcast {ip : UInt32}
    (lan : isLanAddress ip = true) :
    isLanAddress (ip ||| ~~~0xFFFF0000) = true := by
  rw [isLanAddress_iff] at lan ⊢
  have low : (~~~0xFFFF0000 : UInt32).toNat = 0xFFFF := rfl
  rw [UInt32.toNat_or, low, ← Nat.shiftRight_eq_div_pow,
    Nat.shiftRight_or_distrib, Nat.shiftRight_eq_div_pow, lan]
  rfl

theorem not_isLoopback_of_isLanAddress {ip : UInt32}
    (lan : isLanAddress ip = true) : isLoopback ip = false := by
  rw [isLanAddress_iff] at lan
  rw [Bool.eq_false_iff, ne_eq, isLoopback_iff]
  omega

end SlpClient.Net
