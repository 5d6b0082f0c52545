import Mathlib.Algebra.Group.Nat.Defs
import Mathlib.Logic.Function.Basic
import SlpClient.Lib.Machine

/-!
# Bursts of sessions

A game opens its sessions in bursts, and the first session of a burst is a
dummy that must not be intercepted.  `ShouldMitm` tells it by a flag and a
count of the intercepted sessions of a process; the closing of a session
that it let pass is not seen.  The main theorem says exactly which runs keep
the law: a burst outlives its dummy, and the dummy does not outlive the
intercepted sessions.
-/

namespace SlpClient.Bsd

open SlpClient.Lib

/-! ## The two tables -/

/-- `g_mitm_pid_live` and `g_mitm_pid_skipped`. -/
structure MitmPids where
  live : UInt64 → Option UInt32
  skipped : UInt64 → Bool

/-- The sessions that are open for one process. -/
structure OpenSessions where
  skipped : Nat
  intercepted : Nat
deriving DecidableEq

/-- The sessions of a process, intercepted or not. -/
def OpenSessions.total (sessions : OpenSessions) : Nat :=
  sessions.skipped + sessions.intercepted

/-- The client that opens a session, and whether the relay is running. -/
structure Opening where
  running : Bool
  programId : UInt64
  processId : UInt64

/-- `OUR_PROGRAM_ID`. -/
def ourProgramId : UInt64 := 0x4200000000000011

namespace MitmPids

/-- No process was seen. -/
def empty : MitmPids where
  live _ := none
  skipped _ := false

/-- The flag and the count, for an application while the relay runs. -/
def countSession (pids : MitmPids) (pid : UInt64) : MitmPids × Bool :=
  if !pids.skipped pid then
    ({ pids with skipped := Function.update pids.skipped pid true }, false)
  else
    ({ pids with
       live :=
         Function.update pids.live pid
           (some ((pids.live pid).getD 0 + 1)) }, true)

/-- `ShouldMitm`; `isApplicationId` is `ncm::IsApplicationId`. -/
def shouldMitm (isApplicationId : UInt64 → Bool) (pids : MitmPids)
    (opening : Opening) : MitmPids × Bool :=
  if !opening.running then (pids, false)
  else if opening.programId = ourProgramId then (pids, false)
  else if !isApplicationId opening.programId then (pids, false)
  else pids.countSession opening.processId

/-- The end of the destructor of a service of `pid`. -/
def forgetSession (pids : MitmPids) (pid : UInt64) : MitmPids :=
  if pid = 0 then pids
  else
    match pids.live pid with
    | none => pids
    | some live =>
        if live ≤ 1 then
          { live := Function.update pids.live pid none
            skipped := Function.update pids.skipped pid false }
        else
          { pids with live := Function.update pids.live pid (some (live - 1)) }

end MitmPids

/-! ## Runs -/

/-- Sessions are opened, and open ones are closed. -/
inductive BurstEvent
  | open_ (opening : Opening)
  | closeSkipped (pid : UInt64)
  | closeIntercepted (pid : UInt64)

/-- The tables, and the sessions that are really open. -/
structure Bursts where
  pids : MitmPids
  sessions : UInt64 → OpenSessions

namespace Bursts

/-- No session is open. -/
def initial : Bursts where
  pids := .empty
  sessions _ := ⟨0, 0⟩

/-- One more session, intercepted or not. -/
def opened (bursts : Bursts) (pid : UInt64) (intercepted : Bool) :
    UInt64 → OpenSessions :=
  Function.update bursts.sessions pid
    (if intercepted then
      { bursts.sessions pid with
        intercepted := (bursts.sessions pid).intercepted + 1 }
    else
      { bursts.sessions pid with
        skipped := (bursts.sessions pid).skipped + 1 })

/-- A session that was let pass is closed, which runs no code. -/
def closeSkipped (bursts : Bursts) (pid : UInt64) : Bursts :=
  { bursts with
    sessions :=
      Function.update bursts.sessions pid
        { bursts.sessions pid with
          skipped := (bursts.sessions pid).skipped - 1 } }

/-- An intercepted session is closed; one that is not open is not. -/
def closeIntercepted (bursts : Bursts) (pid : UInt64) : Bursts :=
  if (bursts.sessions pid).intercepted = 0 then bursts
  else
    { pids := bursts.pids.forgetSession pid
      sessions :=
        Function.update bursts.sessions pid
          { bursts.sessions pid with
            intercepted := (bursts.sessions pid).intercepted - 1 } }

def step (isApplicationId : UInt64 → Bool) (bursts : Bursts) :
    BurstEvent → Bursts × Option Bool
  | .open_ opening =>
      let asked := bursts.pids.shouldMitm isApplicationId opening
      ({ pids := asked.1
         sessions := bursts.opened opening.processId asked.2 },
        some asked.2)
  | .closeSkipped pid => (bursts.closeSkipped pid, none)
  | .closeIntercepted pid => (bursts.closeIntercepted pid, none)

/-- Openings answer whether the session is intercepted. -/
def machine (isApplicationId : UInt64 → Bool) :
    Machine Bursts BurstEvent (Option Bool) where
  step := step isApplicationId

/-- The process that an event is about. -/
def subject : BurstEvent → UInt64
  | .open_ opening => opening.processId
  | .closeSkipped pid => pid
  | .closeIntercepted pid => pid

/-- The process is an application, and the relay runs when it asks. -/
def Admissible (isApplicationId : UInt64 → Bool) (pid : UInt64) :
    BurstEvent → Prop
  | .open_ opening =>
      opening.processId = pid →
        opening.running = true ∧ isApplicationId opening.programId = true
  | _ => True

/--
The law for one process: `ShouldMitm` would let a session pass exactly when
no other is open, and the count is that of the live services.
-/
def Lawful (isApplicationId : UInt64 → Bool) (pid : UInt64)
    (bursts : Bursts) : Prop :=
  (∀ opening : Opening,
      opening.processId = pid → opening.running = true →
        isApplicationId opening.programId = true →
          (bursts.pids.shouldMitm isApplicationId opening).2 =
            decide (0 < (bursts.sessions pid).total)) ∧
    ((bursts.pids.live pid).getD 0).toNat =
      (bursts.sessions pid).intercepted

/-- The steps of one process that keep the law. -/
def KeepsLaw (pid : UInt64) (bursts : Bursts) : BurstEvent → Prop
  | .open_ opening =>
      opening.processId = pid → 0 < (bursts.sessions pid).total →
        (bursts.sessions pid).intercepted + 1 < 2 ^ 32
  | .closeSkipped closed =>
      closed = pid → (bursts.sessions pid).total ≠ 1 ∨
        (bursts.sessions pid).skipped = 0
  | .closeIntercepted closed =>
      closed = pid → (bursts.sessions pid).intercepted ≠ 0 →
        pid ≠ 0 ∧
          ((bursts.sessions pid).intercepted = 1 →
            (bursts.sessions pid).skipped = 0)

instance (pid : UInt64) (bursts : Bursts) :
    (event : BurstEvent) → Decidable (bursts.KeepsLaw pid event)
  | .open_ _ => inferInstanceAs (Decidable (_ → _ → _))
  | .closeSkipped _ => inferInstanceAs (Decidable (_ → _ ∨ _))
  | .closeIntercepted _ => inferInstanceAs (Decidable (_ → _ → _ ∧ _))

/-! ## The law -/

section Law

variable {isApplicationId : UInt64 → Bool}

/-- An application is asked for by its process alone. -/
theorem shouldMitm_application
    (foreign : isApplicationId ourProgramId = false) (pids : MitmPids)
    {opening : Opening} (running : opening.running = true)
    (application : isApplicationId opening.programId = true) :
    pids.shouldMitm isApplicationId opening =
      pids.countSession opening.processId := by
  have other : opening.programId ≠ ourProgramId := by
    intro same
    rw [same, foreign] at application
    contradiction
  unfold MitmPids.shouldMitm
  rw [if_neg (by simp [running]), if_neg other,
    if_neg (by simp [application])]

theorem countSession_answer (pids : MitmPids) (pid : UInt64) :
    (pids.countSession pid).2 = pids.skipped pid := by
  unfold MitmPids.countSession
  cases pids.skipped pid <;> rfl

/-- The law is about the flag and the count. -/
theorem lawful_iff (foreign : isApplicationId ourProgramId = false)
    (games : ∃ programId, isApplicationId programId = true)
    {pid : UInt64} {bursts : Bursts} :
    bursts.Lawful isApplicationId pid ↔
      bursts.pids.skipped pid =
          decide (0 < (bursts.sessions pid).total) ∧
        ((bursts.pids.live pid).getD 0).toNat =
          (bursts.sessions pid).intercepted := by
  refine and_congr_left fun _ => ?_
  constructor
  · intro answers
    rcases games with ⟨programId, application⟩
    have asked := answers ⟨true, programId, pid⟩ rfl rfl application
    rwa [shouldMitm_application foreign _ rfl application,
      countSession_answer] at asked
  · rintro flag opening rfl running application
    rw [shouldMitm_application foreign _ running application,
      countSession_answer]
    exact flag

theorem initial_lawful (foreign : isApplicationId ourProgramId = false)
    (games : ∃ programId, isApplicationId programId = true)
    (pid : UInt64) : initial.Lawful isApplicationId pid :=
  (lawful_iff foreign games).mpr ⟨rfl, rfl⟩

section Steps

variable {pid : UInt64} {bursts : Bursts}

/-- The entries of other processes stay where they are. -/
theorem shouldMitm_other (pids : MitmPids) {opening : Opening}
    (differs : pid ≠ opening.processId) :
    (pids.shouldMitm isApplicationId opening).1.skipped pid =
        pids.skipped pid ∧
      (pids.shouldMitm isApplicationId opening).1.live pid =
        pids.live pid := by
  unfold MitmPids.shouldMitm MitmPids.countSession
  split_ifs <;> simp [differs]

theorem forgetSession_other (pids : MitmPids) {closed : UInt64}
    (differs : pid ≠ closed) :
    (pids.forgetSession closed).skipped pid = pids.skipped pid ∧
      (pids.forgetSession closed).live pid = pids.live pid := by
  unfold MitmPids.forgetSession
  split_ifs
  · exact ⟨rfl, rfl⟩
  · split
    · exact ⟨rfl, rfl⟩
    · split_ifs <;> simp [differs]

/-- One session less is counted, and with the last one the flag goes. -/
theorem forgetSession_own (pids : MitmPids) {count : Nat} (known : pid ≠ 0)
    (counted : ((pids.live pid).getD 0).toNat = count)
    (open_ : count ≠ 0) :
    (((pids.forgetSession pid).live pid).getD 0).toNat = count - 1 ∧
      (pids.forgetSession pid).skipped pid =
        (pids.skipped pid && decide (count ≠ 1)) := by
  unfold MitmPids.forgetSession
  rw [if_neg known]
  cases found : pids.live pid with
  | none =>
      rw [found] at counted
      exact absurd counted.symm open_
  | some live =>
      rw [found, Option.getD_some] at counted
      dsimp only
      split
      · rename_i last
        have small : live.toNat ≤ 1 := last
        have one : count = 1 := by omega
        simp [one]
      · rename_i more
        have big : 1 < live.toNat := Nat.lt_of_not_le more
        have several : count ≠ 1 := by omega
        have enough : (1 : UInt32) ≤ live :=
          UInt32.le_iff_toNat_le.mpr (Nat.le_of_lt big)
        constructor
        · dsimp only
          rw [Function.update_self, Option.getD_some,
            UInt32.toNat_sub_of_le _ _ enough, counted]
          rfl
        · rw [decide_eq_true several, Bool.and_true]

variable (foreign : isApplicationId ourProgramId = false)
  (games : ∃ programId, isApplicationId programId = true)

include foreign games

/-- The events of other processes do not matter. -/
theorem lawful_other_iff {event : BurstEvent}
    (differs : pid ≠ subject event) :
    ((machine isApplicationId).next bursts event).Lawful isApplicationId
        pid ↔
      bursts.Lawful isApplicationId pid := by
  have kept :
      ((machine isApplicationId).next bursts event).pids.skipped pid =
          bursts.pids.skipped pid ∧
        ((machine isApplicationId).next bursts event).pids.live pid =
          bursts.pids.live pid := by
    cases event with
    | open_ opening => exact shouldMitm_other bursts.pids differs
    | closeSkipped closed => exact ⟨rfl, rfl⟩
    | closeIntercepted closed =>
        change
          (bursts.closeIntercepted closed).pids.skipped pid = _ ∧
            (bursts.closeIntercepted closed).pids.live pid = _
        unfold closeIntercepted
        split_ifs
        · exact ⟨rfl, rfl⟩
        · exact forgetSession_other bursts.pids differs
  have same :
      ((machine isApplicationId).next bursts event).sessions pid =
        bursts.sessions pid := by
    cases event with
    | open_ opening => exact Function.update_of_ne differs _ _
    | closeSkipped closed => exact Function.update_of_ne differs _ _
    | closeIntercepted closed =>
        change (bursts.closeIntercepted closed).sessions pid = _
        unfold closeIntercepted
        split_ifs
        · rfl
        · exact Function.update_of_ne differs _ _
  rw [lawful_iff foreign games, lawful_iff foreign games, kept.1, kept.2,
    same]

variable (lawful : bursts.Lawful isApplicationId pid)

include lawful

theorem lawful_open_iff {opening : Opening}
    (own : opening.processId = pid) (running : opening.running = true)
    (application : isApplicationId opening.programId = true) :
    ((machine isApplicationId).next bursts (.open_ opening)).Lawful
        isApplicationId pid ↔
      bursts.KeepsLaw pid (.open_ opening) := by
  subst own
  rcases (lawful_iff foreign games).mp lawful with ⟨flag, count⟩
  have asked :=
    shouldMitm_application foreign bursts.pids running application
  rw [lawful_iff foreign games]
  change
    (bursts.pids.shouldMitm isApplicationId opening).1.skipped
            opening.processId =
          decide
            (0 <
              (bursts.opened opening.processId
                (bursts.pids.shouldMitm isApplicationId opening).2
                  opening.processId).total) ∧
        (((bursts.pids.shouldMitm isApplicationId opening).1.live
            opening.processId).getD 0).toNat =
          (bursts.opened opening.processId
            (bursts.pids.shouldMitm isApplicationId opening).2
              opening.processId).intercepted ↔
      (_ → 0 < (bursts.sessions opening.processId).total → _)
  rw [asked]
  unfold MitmPids.countSession opened
  by_cases others : 0 < (bursts.sessions opening.processId).total
  · rw [decide_eq_true others] at flag
    simp only [flag, Bool.not_true, Bool.false_eq_true, if_false, if_true,
      Function.update_self, Option.getD_some, true_implies, others]
    have sum :
        ((bursts.pids.live opening.processId).getD 0 + 1).toNat =
          ((bursts.sessions opening.processId).intercepted + 1) %
            2 ^ 32 := by
      rw [UInt32.toNat_add, count]
      rfl
    have more :
        0 <
          (OpenSessions.mk (bursts.sessions opening.processId).skipped
            ((bursts.sessions opening.processId).intercepted + 1)).total :=
      Nat.add_pos_right _ (Nat.succ_pos _)
    rw [sum, decide_eq_true more]
    simp only [true_and]
    constructor
    · intro same
      rw [← same]
      exact Nat.mod_lt _ (by decide)
    · exact Nat.mod_eq_of_lt
  · rw [decide_eq_false others] at flag
    simp only [flag, Bool.not_false, if_true, Bool.false_eq_true, if_false,
      Function.update_self, count, and_true, others, false_implies,
      implies_true, iff_true]
    have more :
        0 <
          (OpenSessions.mk
            ((bursts.sessions opening.processId).skipped + 1)
            (bursts.sessions opening.processId).intercepted).total :=
      Nat.add_pos_left (Nat.succ_pos _) _
    exact (decide_eq_true more).symm

theorem lawful_closeSkipped_iff :
    ((machine isApplicationId).next bursts (.closeSkipped pid)).Lawful
        isApplicationId pid ↔
      bursts.KeepsLaw pid (.closeSkipped pid) := by
  rcases (lawful_iff foreign games).mp lawful with ⟨flag, count⟩
  rw [lawful_iff foreign games]
  change
    bursts.pids.skipped pid =
          decide (0 < ((bursts.closeSkipped pid).sessions pid).total) ∧
        ((bursts.pids.live pid).getD 0).toNat =
          ((bursts.closeSkipped pid).sessions pid).intercepted ↔
      (pid = pid → _)
  unfold closeSkipped
  simp only [Function.update_self, flag, count, and_true, true_implies]
  rw [decide_eq_decide]
  unfold OpenSessions.total
  dsimp only
  omega

theorem lawful_closeIntercepted_iff :
    ((machine isApplicationId).next bursts (.closeIntercepted pid)).Lawful
        isApplicationId pid ↔
      bursts.KeepsLaw pid (.closeIntercepted pid) := by
  rcases (lawful_iff foreign games).mp lawful with ⟨flag, count⟩
  change
    (bursts.closeIntercepted pid).Lawful isApplicationId pid ↔
      (pid = pid → (bursts.sessions pid).intercepted ≠ 0 → _)
  rw [forall_prop_of_true rfl]
  unfold closeIntercepted
  by_cases none : (bursts.sessions pid).intercepted = 0
  · rw [if_pos none]
    exact iff_of_true lawful (fun some => absurd none some)
  · rw [if_neg none, forall_prop_of_true none, lawful_iff foreign games]
    simp only [Function.update_self]
    by_cases zero : pid = 0
    · refine iff_of_false ?_ (fun both => both.1 zero)
      rintro ⟨_, same⟩
      unfold MitmPids.forgetSession at same
      rw [if_pos zero, count] at same
      omega
    · rcases forgetSession_own bursts.pids zero count none with
        ⟨fewer, kept⟩
      rw [fewer, kept, flag, ← Bool.decide_and, decide_eq_decide]
      unfold OpenSessions.total
      dsimp only
      constructor
      · rintro ⟨still, _⟩
        exact ⟨zero, by omega⟩
      · rintro ⟨_, last⟩
        exact ⟨by omega, rfl⟩

/-- Exactly which steps keep the law. -/
theorem lawful_next_iff {event : BurstEvent}
    (admissible : Admissible isApplicationId pid event) :
    ((machine isApplicationId).next bursts event).Lawful isApplicationId
        pid ↔
      bursts.KeepsLaw pid event := by
  by_cases own : pid = subject event
  · cases event with
    | open_ opening =>
        have asks := admissible own.symm
        exact
          lawful_open_iff foreign games lawful own.symm asks.1 asks.2
    | closeSkipped closed =>
        cases own
        exact lawful_closeSkipped_iff foreign games lawful
    | closeIntercepted closed =>
        cases own
        exact lawful_closeIntercepted_iff foreign games lawful
  · rw [lawful_other_iff foreign games own]
    refine iff_of_true lawful ?_
    cases event with
    | open_ opening => exact fun same => absurd same.symm own
    | closeSkipped closed => exact fun same => absurd same.symm own
    | closeIntercepted closed => exact fun same => absurd same.symm own

end Steps

end Law

/--
For every application that asks while the relay runs: the law of the bursts
holds in every state of a run exactly when every step of the run keeps it.
The sysmodule itself is no application, and there are applications.
-/
theorem lawful_iff_keepsLaw (isApplicationId : UInt64 → Bool)
    (foreign : isApplicationId ourProgramId = false)
    (games : ∃ programId, isApplicationId programId = true)
    (pid : UInt64) (events : List BurstEvent)
    (admissible : ∀ event ∈ events, Admissible isApplicationId pid event) :
    (machine isApplicationId).EachState (Lawful isApplicationId pid)
        initial events ↔
      (machine isApplicationId).EachStep (KeepsLaw pid) initial events :=
  Machine.eachState_iff_eachStep_of_invariant
    (fun _ lawful => lawful)
    (fun _ _ lawful admissible keeps =>
      (lawful_next_iff foreign games lawful admissible).mpr keeps)
    (fun _ _ lawful admissible kept =>
      (lawful_next_iff foreign games lawful admissible).mp kept)
    (initial_lawful foreign games pid) admissible

/-- The ids from `ApplicationId::Start` to `ApplicationId::End`. -/
def applicationRange (programId : UInt64) : Bool :=
  0x0100000000010000 ≤ programId && programId ≤ 0x01FFFFFFFFFFFFFF

/-- The game of process 81. -/
def gameId : UInt64 := 0x0100152000022000

theorem gameId_application : applicationRange gameId = true := by
  decide

/-- It opens a session. -/
def gameOpens : BurstEvent :=
  .open_ ⟨true, gameId, 81⟩

theorem gameOpens_admissible :
    Admissible applicationRange 81 gameOpens :=
  fun _ => ⟨rfl, gameId_application⟩

/-- Two bursts, each with a dummy that is closed before the others. -/
def twoBursts : List BurstEvent :=
  [gameOpens, gameOpens, gameOpens, .closeSkipped 81,
    .closeIntercepted 81, .closeIntercepted 81,
    gameOpens, gameOpens, .closeSkipped 81, .closeIntercepted 81]

theorem twoBursts_lawful :
    (∀ event ∈ twoBursts, Admissible applicationRange 81 event) ∧
      (machine applicationRange).EachState (Lawful applicationRange 81)
        initial twoBursts := by
  have admissible :
      ∀ event ∈ twoBursts, Admissible applicationRange 81 event := by
    intro event member
    cases event with
    | open_ opening =>
        have game : BurstEvent.open_ opening = gameOpens := by
          simpa [twoBursts, gameOpens] using member
        rw [game]
        exact gameOpens_admissible
    | closeSkipped => trivial
    | closeIntercepted => trivial
  refine
    ⟨admissible,
      (lawful_iff_keepsLaw applicationRange (by decide)
        ⟨gameId, gameId_application⟩ 81 twoBursts admissible).mpr ?_⟩
  refine
    ⟨?_, ?_, ?_, ?_, ?_, ?_, ?_, ?_, ?_, ?_, trivial⟩ <;>
    decide

/-- A burst of the dummy alone: the next dummy is intercepted. -/
theorem lonelyDummy_unlawful :
    (∀ event ∈ [gameOpens, .closeSkipped 81],
        Admissible applicationRange 81 event) ∧
      ¬(machine applicationRange).EachState (Lawful applicationRange 81)
        initial [gameOpens, .closeSkipped 81] := by
  constructor
  · intro event member
    rcases List.mem_pair.mp member with rfl | rfl
    · exact gameOpens_admissible
    · exact trivial
  · intro always
    have flag :=
      ((lawful_iff (by decide) ⟨gameId, gameId_application⟩).mp
        always.last).1
    contradiction

end Bursts

end SlpClient.Bsd
