import SlpClient.Slp.Servers

/-!
# The selected server

The selection is a row of the list or none, as long as no row from 2^31 on is
selected; such a row is a negative number to `SelectServer`.  Selecting a row
succeeds exactly when the list has it.  `ReloadServers` says how long the new
list is, or zero when it cannot read the file and keeps the old one.
-/

namespace SlpClient.Slp

open SlpClient.Lib

/-- The file is read: it is there, not empty, and not too long. -/
def Readable (file : Option (List UInt8)) : Prop :=
  ∃ contents, file = some contents ∧ 0 < contents.length ∧
    contents.length < 4095

namespace RuntimeInput

/-- `ReloadServers` with this file, or with none that can be read. -/
def reloadFile (file : Option (List UInt8)) : RuntimeInput :=
  .reloadServers (file.bind loadServers)

/-- Rows that are selected are below 2^31. -/
def SmallIndex : RuntimeInput → Prop
  | .selectServer index => index.toNat < 2 ^ 31
  | _ => True

end RuntimeInput

namespace Runtime

/-- No row is selected, or one that the list has. -/
def ValidSelection (runtime : Runtime) : Prop :=
  runtime.selIndex = -1 ∨
    0 ≤ runtime.selIndex ∧ runtime.selIndex < runtime.servers.length

/-- A row is selected exactly if the list has it, and nothing happens
otherwise. -/
def SelectsRow (sha1 : List UInt8 → Digest) (runtime : Runtime)
    (input : RuntimeInput) : Prop :=
  ∀ index, input = .selectServer index →
    (((machine sha1).output runtime input).returned ≠ 0 ↔
        index.toNat < runtime.servers.length) ∧
      (((machine sha1).output runtime input).returned = 0 →
        (machine sha1).next runtime input = runtime)

/-- The number of rows is returned. -/
def ReturnsCount (sha1 : List UInt8 → Digest) (runtime : Runtime)
    (input : RuntimeInput) : Prop :=
  ∀ file, input = .reloadFile file →
    ((machine sha1).output runtime input).returned =
      ((machine sha1).next runtime input).servers.length

/-- The number of rows is returned if the file is read, and zero if not; then
nothing happens. -/
def ReturnsCountIfRead (sha1 : List UInt8 → Digest) (runtime : Runtime)
    (input : RuntimeInput) : Prop :=
  ∀ file, input = .reloadFile file →
    (Readable file →
      ((machine sha1).output runtime input).returned =
        ((machine sha1).next runtime input).servers.length) ∧
      (¬ Readable file →
        ((machine sha1).output runtime input).returned = 0 ∧
          (machine sha1).next runtime input = runtime)

variable {sha1 : List UInt8 → Digest}

/-! ## What the requests do to the selection -/

theorem start_selection (runtime : Runtime) (env : StartEnv) :
    (runtime.start sha1 env).1.servers = runtime.servers ∧
      (runtime.start sha1 env).1.selIndex = runtime.selIndex := by
  unfold start
  split
  · exact ⟨rfl, rfl⟩
  · split
    · exact ⟨rfl, rfl⟩
    · dsimp only
      split
      · exact ⟨rfl, rfl⟩
      · split
        · exact ⟨rfl, rfl⟩
        · exact ⟨rfl, rfl⟩

theorem stop_selection (runtime : Runtime) :
    runtime.stop.1.servers = runtime.servers ∧
      runtime.stop.1.selIndex = runtime.selIndex := by
  unfold stop
  split
  · exact ⟨rfl, rfl⟩
  · exact ⟨rfl, rfl⟩

theorem keepalive_selection (runtime : Runtime) (pass : Pass) :
    (runtime.keepalive pass).1.servers = runtime.servers ∧
      (runtime.keepalive pass).1.selIndex = runtime.selIndex := by
  unfold keepalive
  split
  · split
    · exact ⟨rfl, rfl⟩
    · split
      · exact ⟨rfl, rfl⟩
      · exact ⟨rfl, rfl⟩
  · exact ⟨rfl, rfl⟩

theorem receive_selection (runtime : Runtime) (pass : Pass) :
    (runtime.receive sha1 pass).1.servers = runtime.servers ∧
      (runtime.receive sha1 pass).1.selIndex = runtime.selIndex := by
  unfold receive
  split
  · exact ⟨rfl, rfl⟩
  · dsimp only
    split
    · exact ⟨rfl, rfl⟩
    · split
      · exact ⟨rfl, rfl⟩
      · split
        · exact ⟨rfl, rfl⟩
        · exact ⟨rfl, rfl⟩

theorem runLoop_selection (runtime : Runtime) (pass : Pass) :
    (runtime.runLoop sha1 pass).1.servers = runtime.servers ∧
      (runtime.runLoop sha1 pass).1.selIndex = runtime.selIndex := by
  have received :=
    @receive_selection sha1 (runtime.keepalive pass).1 pass
  have kept := runtime.keepalive_selection pass
  exact ⟨received.1.trans kept.1, received.2.trans kept.2⟩

theorem ValidSelection.congr {before after : Runtime}
    (valid : before.ValidSelection)
    (same :
      after.servers = before.servers ∧ after.selIndex = before.selIndex) :
    after.ValidSelection := by
  unfold ValidSelection
  rw [same.1, same.2]
  exact valid

theorem ValidSelection.reloadServers {runtime : Runtime}
    (valid : runtime.ValidSelection)
    (loaded : Option (List SlpServer)) :
    (runtime.reloadServers loaded).1.ValidSelection := by
  cases loaded with
  | none => exact valid
  | some servers =>
      unfold ValidSelection Runtime.reloadServers
      dsimp only
      split
      · split
        · rename_i present
          exact .inr ⟨le_rfl, by exact_mod_cast present⟩
        · exact .inl rfl
      · rename_i inside
        exact .inr ⟨by omega, by omega⟩

/-- A small row is the same as a signed number. -/
theorem toInt_of_small {index : UInt32} (small : index.toNat < 2 ^ 31) :
    index.toInt32.toInt = index.toNat := by
  apply BitVec.toInt_eq_toNat_of_lt
  have bound : index.toBitVec.toNat < 2 ^ 31 := small
  show 2 * index.toBitVec.toNat < 2 ^ 32
  omega

theorem ValidSelection.next {runtime : Runtime}
    (valid : runtime.ValidSelection) {input : RuntimeInput}
    (small : input.SmallIndex) :
    ((machine sha1).next runtime input).ValidSelection := by
  cases input with
  | reloadServers loaded => exact valid.reloadServers loaded
  | selectServer index =>
      show (runtime.selectServer index).1.ValidSelection
      unfold selectServer
      rw [toInt_of_small small]
      split
      · exact valid
      · rename_i present
        exact .inr ⟨Int.natCast_nonneg _, Int.not_le.mp present⟩
  | start env => exact valid.congr (runtime.start_selection env)
  | stop => exact valid.congr runtime.stop_selection
  | pass pass =>
      show
        (if runtime.state = .running then runtime.runLoop sha1 pass
          else (runtime, .result 0)).1.ValidSelection
      split
      · exact valid.congr (runtime.runLoop_selection pass)
      · exact valid

theorem selectsRow_of_small (runtime : Runtime) {input : RuntimeInput}
    (small : input.SmallIndex) : runtime.SelectsRow sha1 input := by
  rintro index rfl
  show
    ((runtime.selectServer index).2.returned ≠ 0 ↔ _) ∧
      ((runtime.selectServer index).2.returned = 0 →
        (runtime.selectServer index).1 = runtime)
  unfold selectServer
  rw [toInt_of_small small]
  split
  · rename_i absent
    exact ⟨iff_of_false (fun nonzero => nonzero rfl) (by omega), fun _ => rfl⟩
  · rename_i present
    refine ⟨iff_of_true Int.one_ne_zero (by omega), ?_⟩
    intro failed
    exact absurd failed Int.one_ne_zero

theorem readable_iff {file : Option (List UInt8)} :
    Readable file ↔ (file.bind loadServers).isSome = true := by
  unfold Readable loadServers readConfigText
  cases file with
  | none => simp
  | some contents =>
      simp

theorem returnsCountIfRead (runtime : Runtime) (input : RuntimeInput) :
    runtime.ReturnsCountIfRead sha1 input := by
  rintro file rfl
  rw [readable_iff]
  show
    (_ → (runtime.reloadServers (file.bind loadServers)).2.returned =
        (runtime.reloadServers (file.bind loadServers)).1.servers.length) ∧
      (_ → (runtime.reloadServers (file.bind loadServers)).2.returned = 0 ∧
        (runtime.reloadServers (file.bind loadServers)).1 = runtime)
  cases file.bind loadServers with
  | none => exact ⟨(absurd · Bool.false_ne_true), fun _ => ⟨rfl, rfl⟩⟩
  | some servers =>
      exact ⟨fun _ => rfl, fun unread => absurd rfl unread⟩

/-! ## Runs -/

/--
In every run in which the selected rows are below 2^31, the selection is
valid, a row is selected exactly if the list has it, and `ReloadServers`
returns how many rows there are, or zero if it does not read the file.
-/
theorem selection_valid (sha1 : List UInt8 → Digest)
    (inputs : List RuntimeInput)
    (small : ∀ input ∈ inputs, input.SmallIndex) :
    (machine sha1).EachState ValidSelection constructed inputs ∧
      (machine sha1).EachStep
        (fun runtime input =>
          runtime.SelectsRow sha1 input ∧
            runtime.ReturnsCountIfRead sha1 input)
        constructed inputs := by
  have conditions :
      (machine sha1).EachStep (fun _ input => input.SmallIndex)
        constructed inputs :=
    Machine.eachStep_of_mem small constructed
  constructor
  · apply Machine.eachState_of_eachStep ?_ (.inl rfl) conditions
    intro runtime input valid small
    exact valid.next small
  · apply conditions.mono
    intro runtime input small
    exact
      ⟨runtime.selectsRow_of_small small,
        runtime.returnsCountIfRead input⟩

/-- Two servers are read, the second one is selected, and then the file is
gone. -/
def reloadedTwice : List RuntimeInput :=
  [.reloadFile (some plainFile), .selectServer 1, .reloadFile none]

theorem selection_valid_reloadedTwice :
    ((machine fun _ _ => 0).run constructed
      reloadedTwice).ValidSelection := by
  apply (selection_valid (fun _ _ => 0) reloadedTwice ?_).1.last
  intro input member
  rcases List.mem_cons.mp member with rfl | later
  · trivial
  · rcases List.mem_cons.mp later with rfl | last
    · show (1 : UInt32).toNat < 2 ^ 31
      decide
    · rw [List.mem_singleton.mp last]
      trivial

/-- When the file is gone, `ReloadServers` returns zero and two rows stay. -/
theorem reloadServers_not_returnsCount :
    ¬ ∀ (sha1 : List UInt8 → Digest) (inputs : List RuntimeInput),
      (machine sha1).EachState ValidSelection constructed inputs ∧
        (machine sha1).EachStep
          (fun runtime input =>
            runtime.SelectsRow sha1 input ∧
              runtime.ReturnsCount sha1 input)
          constructed inputs := by
  intro claim
  have steps := (claim (fun _ _ => 0) reloadedTwice).2
  have last := steps.2.2.1.2 none rfl
  have rows :
      ((machine fun _ _ => 0).run constructed
        reloadedTwice).servers.length = 2 := by
    decide
  have zero :
      (0 : Int) =
        ((machine fun _ _ => 0).run constructed
          reloadedTwice).servers.length := last
  rw [rows] at zero
  exact absurd zero (by decide)

end Runtime

end SlpClient.Slp
