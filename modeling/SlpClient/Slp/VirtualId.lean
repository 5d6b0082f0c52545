import SlpClient.Net.Address
import SlpClient.Slp.Servers

/-!
# The virtual address and its file

`GetVirtualIp` reads the two low octets from a file.  Without them it draws
new ones and writes them to the file, or, while the network is down, reports
the fixed address `10.13.37.2`.  Each call asks the file and the network
again, and each of these may fail.
-/

namespace SlpClient.Slp

/-- The two low octets of a virtual address. -/
abbrev Octets : Type := UInt8 × UInt8

/-- `IsReservedVirtualOctet`. -/
def isReservedVirtualOctet (c d : Nat) : Bool :=
  c = 0 ∨ c = 255 ∨ c = 37 ∨ d = 0 ∨ d = 255

/-- Octets that may be drawn and persisted. -/
def Octets.Free (octets : Octets) : Prop :=
  isReservedVirtualOctet octets.1.toNat octets.2.toNat = false

instance (octets : Octets) : Decidable octets.Free :=
  inferInstanceAs (Decidable (_ = _))

/-- The octets of `DefaultVirtualIp`. -/
def defaultOctets : Octets := (37, 2)

/-- `GenerateVirtualOctets`, for the bytes of its 64 attempts. -/
def generateVirtualOctets (draws : Nat → Octets) : Octets :=
  (((List.range 64).map draws).find? fun octets => octets.Free).getD
    (100, 100)

/-! ## The file -/

/-- What `%u` stores, and the text after it. -/
def sscanfUnsigned (text : List UInt8) : Option (Nat × List UInt8) :=
  let field := text.dropWhile isSpace
  let unsigned :=
    if field.head? = some 45 ∨ field.head? = some 43 then field.tail
    else field
  let value := digitsValue unsigned
  if unsigned.takeWhile isDigit = [] then none
  else
    some
      ((if value ≥ 2 ^ 64 then 2 ^ 64 - 1
        else if field.head? = some 45 then 2 ^ 64 - value
        else value) % 2 ^ 32,
        unsigned.dropWhile isDigit)

/-- What `%u.%u` stores, if it stores both. -/
def sscanfOctets (text : List UInt8) : Option (Nat × Nat) :=
  match sscanfUnsigned text with
  | some (c, 46 :: rest) =>
      match sscanfUnsigned rest with
      | some (d, _) => some (c, d)
      | none => none
  | _ => none

/-- `ReadPersistedVirtualOctets`, for the file as it is, if there is one. -/
def readPersistedVirtualOctets (reads : Bool) (file : Option (List UInt8)) :
    Option Octets :=
  if reads then
    match file.bind (readConfigText 32) with
    | none => none
    | some text =>
        match sscanfOctets (text.takeWhile (· ≠ 0)) with
        | none => none
        | some (c, d) =>
            if c > 255 ∨ d > 255 ∨ isReservedVirtualOctet c d then none
            else some (UInt8.ofNat c, UInt8.ofNat d)
  else none

/-- An octet in decimal. -/
def decimal (octet : UInt8) : List UInt8 :=
  (Nat.toDigits 10 octet.toNat).map fun digit => UInt8.ofNat digit.toNat

/-- The text that is persisted. -/
def virtualIdText (octets : Octets) : List UInt8 :=
  decimal octets.1 ++ 46 :: (decimal octets.2 ++ [10])

/-- What the file system answers to `PersistVirtualOctets`, and what stands in
a file that was created but not written. -/
structure PersistEnv where
  deleted : Bool
  created : Bool
  opened : Bool
  written : Bool
  left : List UInt8

/-- `PersistVirtualOctets`: a file that is still there is not created again. -/
def persistVirtualOctets (env : PersistEnv) (octets : Octets)
    (file : Option (List UInt8)) : Option (List UInt8) :=
  let remaining := if env.deleted then none else file
  if env.created ∧ remaining = none then
    if env.opened ∧ env.written then some (virtualIdText octets)
    else some env.left
  else remaining

/-- What one call of `GetVirtualIp` finds. -/
structure IdEnv where
  reads : Bool
  nifm : Bool
  draws : Nat → Octets
  persist : PersistEnv

/-- `GetVirtualIp`: the octets it reports, and the file after it. -/
def getVirtualIp (env : IdEnv) (file : Option (List UInt8)) :
    Octets × Option (List UInt8) :=
  match readPersistedVirtualOctets env.reads file with
  | some octets => (octets, file)
  | none =>
      if env.nifm then
        let octets := generateVirtualOctets env.draws
        (octets, persistVirtualOctets env.persist octets file)
      else (defaultOctets, file)

/-! ## Reading back what was written -/

theorem generateVirtualOctets_free (draws : Nat → Octets) :
    (generateVirtualOctets draws).Free := by
  unfold generateVirtualOctets
  cases found : ((List.range 64).map draws).find? fun octets => octets.Free with
  | none => decide
  | some octets =>
      have free := List.find?_some found
      exact of_decide_eq_true free

theorem exists_byte (byte : UInt8) :
    ∃ number < 256, UInt8.ofNat number = byte :=
  ⟨byte.toNat, byte.toNat_lt, UInt8.ofNat_toNat⟩

theorem decimal_spec (octet : UInt8) :
    (decimal octet ≠ [] ∧ (decimal octet).length ≤ 3) ∧
      (∀ byte ∈ decimal octet, isDigit byte) ∧
      digitsValue (decimal octet) = octet.toNat := by
  rw [← List.all_eq_true]
  rcases exists_byte octet with ⟨number, small, rfl⟩
  revert number
  decide +kernel

theorem isDigit_not_other {byte : UInt8} (digit : isDigit byte = true) :
    isSpace byte = false ∧ byte ≠ 45 ∧ byte ≠ 43 ∧ byte ≠ 0 := by
  rcases exists_byte byte with ⟨number, small, rfl⟩
  revert number
  decide +kernel

/-- `%u` reads back a decimal octet that something else follows. -/
theorem sscanfUnsigned_decimal (octet : UInt8) {byte : UInt8}
    (stops : isDigit byte = false) (rest : List UInt8) :
    sscanfUnsigned (decimal octet ++ byte :: rest) =
      some (octet.toNat, byte :: rest) := by
  rcases decimal_spec octet with ⟨⟨nonempty, -⟩, digits, value⟩
  have small : octet.toNat < 256 := octet.toNat_lt
  have taken :
      (decimal octet ++ byte :: rest).takeWhile isDigit = decimal octet := by
    rw [List.takeWhile_append_of_pos digits, List.takeWhile_cons, stops]
    simp
  have dropped :
      (decimal octet ++ byte :: rest).dropWhile isDigit = byte :: rest := by
    rw [List.dropWhile_append_of_pos digits, List.dropWhile_cons, stops]
    simp
  have number :
      digitsValue (decimal octet ++ byte :: rest) = octet.toNat := by
    rw [← value]
    unfold digitsValue
    rw [taken, List.takeWhile_eq_self_iff.mpr digits]
  have first :
      (decimal octet ++ byte :: rest).dropWhile isSpace =
          decimal octet ++ byte :: rest ∧
        (decimal octet ++ byte :: rest).head? ≠ some 45 ∧
        (decimal octet ++ byte :: rest).head? ≠ some 43 := by
    cases text : decimal octet with
    | nil => exact absurd text nonempty
    | cons digit others =>
        rw [text] at digits
        rcases isDigit_not_other (digits digit List.mem_cons_self) with
          ⟨space, minus, plus, -⟩
        simp [space, minus, plus]
  simp only [sscanfUnsigned, first.1, first.2.1, first.2.2, taken, dropped,
    number, nonempty, or_self, if_false]
  rw [if_neg (by omega), Nat.mod_eq_of_lt (by omega)]

theorem sscanfOctets_virtualIdText (octets : Octets) :
    sscanfOctets (virtualIdText octets) =
      some (octets.1.toNat, octets.2.toNat) := by
  have dot : isDigit 46 = false := by decide
  have newline : isDigit 10 = false := by decide
  have first :=
    sscanfUnsigned_decimal octets.1 dot (decimal octets.2 ++ [10])
  have second := sscanfUnsigned_decimal octets.2 newline []
  simp only [sscanfOctets, virtualIdText, first, second]

theorem virtualIdText_spec (octets : Octets) :
    readConfigText 32 (virtualIdText octets) = some (virtualIdText octets) ∧
      (virtualIdText octets).takeWhile (· ≠ 0) = virtualIdText octets := by
  rcases decimal_spec octets.1 with ⟨⟨-, short⟩, digits, -⟩
  rcases decimal_spec octets.2 with ⟨⟨-, shortLast⟩, digitsLast, -⟩
  constructor
  · refine if_pos ?_
    simp only [virtualIdText, List.length_append, List.length_cons,
      List.length_nil]
    omega
  · rw [List.takeWhile_eq_self_iff]
    intro byte member
    simp only [virtualIdText, List.mem_append, List.mem_cons,
      List.not_mem_nil, or_false] at member
    apply decide_eq_true
    rcases member with digit | rfl | digit | rfl
    · exact (isDigit_not_other (digits byte digit)).2.2.2
    · decide
    · exact (isDigit_not_other (digitsLast byte digit)).2.2.2
    · decide

/-- Persisted octets are read back. -/
theorem readPersistedVirtualOctets_virtualIdText {octets : Octets}
    (free : octets.Free) :
    readPersistedVirtualOctets true (some (virtualIdText octets)) =
      some octets := by
  rcases virtualIdText_spec octets with ⟨read, text⟩
  have first : octets.1.toNat < 256 := octets.1.toNat_lt
  have second : octets.2.toNat < 256 := octets.2.toNat_lt
  have accepted :
      ¬ (octets.1.toNat > 255 ∨ octets.2.toNat > 255 ∨
        isReservedVirtualOctet octets.1.toNat octets.2.toNat = true) := by
    rintro (large | large | reserved)
    · omega
    · omega
    · rw [show isReservedVirtualOctet _ _ = false from free] at reserved
      nomatch reserved
  simp only [readPersistedVirtualOctets, if_true, Option.bind_some, read,
    text, sscanfOctets_virtualIdText, if_neg accepted, UInt8.ofNat_toNat]

/-- The octets that are read from the file are never reserved. -/
theorem free_of_readPersistedVirtualOctets {reads : Bool}
    {file : Option (List UInt8)} {octets : Octets}
    (read : readPersistedVirtualOctets reads file = some octets) :
    octets.Free := by
  unfold readPersistedVirtualOctets at read
  split at read
  · split at read
    · nomatch read
    · split at read
      · nomatch read
      · next c d _ =>
          split at read
          · nomatch read
          · next accepted =>
              simp only [not_or, Bool.not_eq_true] at accepted
              rw [← Option.some.inj read]
              unfold Octets.Free
              rw [UInt8.toNat_ofNat', UInt8.toNat_ofNat',
                Nat.mod_eq_of_lt (by omega), Nat.mod_eq_of_lt (by omega)]
              exact accepted.2.2
  · nomatch read

/-! ## Calls -/

/-- The drawn octets reach the file. -/
def PersistEnv.Stores (env : PersistEnv) (file : Option (List UInt8)) :
    Prop :=
  (env.deleted = true ∨ file = none) ∧ env.created = true ∧
    env.opened = true ∧ env.written = true

theorem persistVirtualOctets_stores {env : PersistEnv}
    {file : Option (List UInt8)} (stores : env.Stores file)
    (octets : Octets) :
    persistVirtualOctets env octets file = some (virtualIdText octets) := by
  rcases stores with ⟨gone, created, opened, written⟩
  have remaining : (if env.deleted then none else file) = none := by
    rcases gone with deleted | missing
    · rw [if_pos deleted]
    · rw [missing, ite_self]
  simp only [persistVirtualOctets, remaining, created, opened, written,
    and_self, if_true]

/-- A call that finds octets in the file reports them. -/
theorem getVirtualIp_of_read {env : IdEnv} {file : Option (List UInt8)}
    {octets : Octets}
    (read : readPersistedVirtualOctets env.reads file = some octets) :
    getVirtualIp env file = (octets, file) := by
  simp only [getVirtualIp, read]

/-- A call that finds neither octets nor the network falls back. -/
theorem getVirtualIp_of_down {env : IdEnv} {file : Option (List UInt8)}
    (unread : readPersistedVirtualOctets env.reads file = none)
    (down : env.nifm = false) :
    getVirtualIp env file = (defaultOctets, file) := by
  simp [getVirtualIp, unread, down]

/-- A call that finds octets, or stores those it draws, leaves a file from
which they can be read. -/
theorem getVirtualIp_settles {env : IdEnv} {file : Option (List UInt8)}
    (settles :
      readPersistedVirtualOctets env.reads file ≠ none ∨
        (env.nifm = true ∧ env.persist.Stores file)) :
    (getVirtualIp env file).1.Free ∧
      readPersistedVirtualOctets true (getVirtualIp env file).2 =
        some (getVirtualIp env file).1 := by
  cases read : readPersistedVirtualOctets env.reads file with
  | some octets =>
      rw [getVirtualIp_of_read read]
      refine ⟨free_of_readPersistedVirtualOctets read, ?_⟩
      cases reads : env.reads with
      | true => rwa [reads] at read
      | false =>
          rw [reads] at read
          nomatch read
  | none =>
      rcases settles with found | ⟨up, stores⟩
      · exact absurd read found
      · have free := generateVirtualOctets_free env.draws
        simp only [getVirtualIp, read, up, if_true,
          persistVirtualOctets_stores stores]
        exact ⟨free, readPersistedVirtualOctets_virtualIdText free⟩

end SlpClient.Slp
