import SlpClient.Lib.Cadence
import SlpClient.Slp.Runtime

/-!
# The thread of the runtime and its clock

A pass of the thread sends a keepalive when the last attempt is long enough
ago, and opens a new socket after three attempts in a row have failed.  With
the clock in view, attempts are never less than ten seconds apart, and as
long as passes come regularly never much more; the new sockets come after
every third failure, and always for the server the client was opened for.
-/

namespace SlpClient.Slp

open SlpClient.Lib

/-- `KeepaliveIntervalMs`. -/
def keepaliveIntervalMs : Int := 10000

/-- The clock of the system: its ticks in a second, and the whole milliseconds
in a number of ticks. -/
structure TickClock where
  frequency : Int
  milliSeconds : Int → Int
  frequency_pos : 0 < frequency
  le_milliSeconds_iff :
    ∀ span ticks, 0 < span →
      (span ≤ milliSeconds ticks ↔ span * frequency ≤ ticks * 1000)

namespace TickClock

/-- The ticks of the keepalive interval. -/
def keepaliveInterval (clock : TickClock) : Int := clock.frequency * 10

theorem keepaliveInterval_pos (clock : TickClock) :
    0 < clock.keepaliveInterval := by
  have positive := clock.frequency_pos
  unfold keepaliveInterval
  omega

theorem milliSeconds_ge_iff (clock : TickClock) (ticks : Int) :
    clock.milliSeconds ticks ≥ keepaliveIntervalMs ↔
      clock.keepaliveInterval ≤ ticks := by
  refine (clock.le_milliSeconds_iff _ ticks (by decide)).trans ?_
  unfold keepaliveIntervalMs keepaliveInterval
  omega

/-- A clock that ticks 19200000 times in a second. -/
def console : TickClock where
  frequency := 19200000
  milliSeconds := fun ticks => ticks * 1000 / 19200000
  frequency_pos := by decide
  le_milliSeconds_iff := by
    intro span ticks positive
    omega

end TickClock

/-- The runtime, and when its thread last tried to send a keepalive. -/
structure RunLoop where
  runtime : Runtime
  lastKeepalive : Int

/-- An attempt to send a keepalive: when, with which result, and whether a
new socket was asked for afterwards. -/
structure Attempt where
  time : Int
  sent : Bool
  reconnects : Bool

namespace RunLoop

/-- Before anything happened. -/
def constructed : RunLoop := ⟨.constructed, 0⟩

def keepaliveDue (clock : TickClock) (loop : RunLoop) (now : Int) : Bool :=
  decide
    (clock.milliSeconds (now - loop.lastKeepalive) ≥ keepaliveIntervalMs)

/-- A pass reads the clock. -/
def clocked (clock : TickClock) (loop : RunLoop) (now : Int) :
    RuntimeInput → RuntimeInput
  | .pass pass =>
      .pass { pass with keepaliveDue := loop.keepaliveDue clock now }
  | input => input

/-- The time of the last attempt, which a thread starts with the present. -/
def timeAfter (clock : TickClock) (loop : RunLoop) (now : Int)
    (input : RuntimeInput) (after : Runtime) : Int :=
  if loop.runtime.state = .running then
    match input with
    | .pass _ =>
        if loop.keepaliveDue clock now then now else loop.lastKeepalive
    | _ => loop.lastKeepalive
  else if after.state = .running then now
  else loop.lastKeepalive

/-- The runtime as a machine that reads the clock. -/
def machine (clock : TickClock) (sha1 : List UInt8 → Digest) :
    Machine RunLoop (Int × RuntimeInput) RuntimeOutput where
  step loop input :=
    let taken :=
      (Runtime.machine sha1).step loop.runtime
        (loop.clocked clock input.1 input.2)
    (⟨taken.1, loop.timeAfter clock input.1 input.2 taken.1⟩, taken.2)

/-- The attempt that a pass makes. -/
def attempt (clock : TickClock) (loop : RunLoop)
    (input : Int × RuntimeInput) : Option Attempt :=
  match input.2 with
  | .pass pass =>
      if loop.runtime.state = .running ∧
          loop.keepaliveDue clock input.1 then
        some
          { time := input.1
            sent := pass.keepaliveSends
            reconnects :=
              !pass.keepaliveSends &&
                decide (loop.runtime.keepaliveFails + 1 ≥ 3) }
      else none
  | _ => none

/-- The attempts of a run. -/
def attempts (clock : TickClock) (sha1 : List UInt8 → Digest)
    (loop : RunLoop) (inputs : List (Int × RuntimeInput)) :
    List Attempt :=
  (machine clock sha1).fed
    (fun loop input => (loop.attempt clock input).toList) loop inputs

/-- When the last attempt of a run was made, or `start` if there was none. -/
def lastAttempt (clock : TickClock) (sha1 : List UInt8 → Digest)
    (loop : RunLoop) (start : Int) (inputs : List (Int × RuntimeInput)) :
    Int :=
  ((attempts clock sha1 loop inputs).map Attempt.time).getLastD start

/-- When a pass reads the clock. -/
def passTime (input : Int × RuntimeInput) : Option Int :=
  match input.2 with
  | .pass _ => some input.1
  | _ => none

/-- The thread keeps running. -/
def Ongoing (inputs : List (Int × RuntimeInput)) : Prop :=
  ∀ input ∈ inputs, input.2 ≠ .stop

variable {clock : TickClock} {sha1 : List UInt8 → Digest}
  {loop : RunLoop} {input : Int × RuntimeInput}
  {inputs : List (Int × RuntimeInput)}

theorem Ongoing.of_append {passed later : List (Int × RuntimeInput)}
    (ongoing : Ongoing inputs) (cut : inputs = passed ++ later) :
    Ongoing passed := by
  intro other member
  apply ongoing other
  rw [cut]
  exact List.mem_append_left _ member

theorem keepaliveDue_iff (now : Int) :
    loop.keepaliveDue clock now = true ↔
      clock.keepaliveInterval ≤ now - loop.lastKeepalive := by
  rw [keepaliveDue, decide_eq_true_iff, clock.milliSeconds_ge_iff]

theorem attempt_of_due {now : Int} (pass : Pass)
    (running : loop.runtime.state = .running)
    (due : loop.keepaliveDue clock now = true) :
    loop.attempt clock (now, .pass pass) =
      some
        { time := now
          sent := pass.keepaliveSends
          reconnects :=
            !pass.keepaliveSends &&
              decide (loop.runtime.keepaliveFails + 1 ≥ 3) } :=
  if_pos ⟨running, due⟩

theorem attempt_of_early {now : Int} (pass : Pass)
    (early : ¬ loop.keepaliveDue clock now = true) :
    loop.attempt clock (now, .pass pass) = none :=
  if_neg fun both => early both.2

theorem next_runtime :
    ((machine clock sha1).next loop input).runtime =
      (Runtime.machine sha1).next loop.runtime
        (loop.clocked clock input.1 input.2) :=
  rfl

/-! ## What a step does to the counters -/

theorem keepalive_fails (runtime : Runtime) (pass : Pass) :
    (runtime.keepalive pass).1.keepaliveFails =
      if pass.keepaliveDue then
        if pass.keepaliveSends then 0
        else if runtime.keepaliveFails + 1 ≥ 3 then 0
        else runtime.keepaliveFails + 1
      else runtime.keepaliveFails := by
  unfold Runtime.keepalive
  split
  · split
    · rfl
    · split <;> rfl
  · rfl

theorem receive_fails (runtime : Runtime) (pass : Pass) :
    (Runtime.receive sha1 runtime pass).1.keepaliveFails =
      runtime.keepaliveFails := by
  unfold Runtime.receive
  split
  · rfl
  · dsimp only
    split
    · rfl
    · split
      · rfl
      · split <;> rfl

/-- A running thread goes on unless it is stopped. -/
theorem next_running (running : loop.runtime.state = .running)
    (ongoing : input.2 ≠ .stop) :
    ((machine clock sha1).next loop input).runtime.state = .running := by
  rw [next_runtime]
  rcases input with ⟨now, request⟩
  cases request with
  | reloadServers loaded =>
      cases loaded with
      | none => exact running
      | some servers => exact running
  | selectServer index =>
      show (loop.runtime.selectServer index).1.state = .running
      unfold Runtime.selectServer
      split <;> exact running
  | start env =>
      show (loop.runtime.start sha1 env).1.state = .running
      unfold Runtime.start
      rw [if_pos running]
      exact running
  | stop => exact absurd rfl ongoing
  | pass pass =>
      unfold clocked Machine.next Runtime.machine
      dsimp only
      rw [if_pos running]
      show (Runtime.receive sha1 _ _).1.state = .running
      rw [(Runtime.receive_login _ _).2, (Runtime.keepalive_login _ _).2]
      exact running

theorem session_running (running : loop.runtime.state = .running)
    (ongoing : Ongoing inputs) :
    ((machine clock sha1).run loop inputs).runtime.state = .running := by
  induction inputs generalizing loop with
  | nil => exact running
  | cons input rest induction =>
      have here := ongoing input List.mem_cons_self
      rw [Machine.run_cons]
      exact
        induction (next_running running here) fun other member =>
          ongoing other (List.mem_cons_of_mem _ member)

/-- The clock of the thread moves at an attempt, and only then. -/
theorem next_lastKeepalive (running : loop.runtime.state = .running) :
    ((machine clock sha1).next loop input).lastKeepalive =
      ((loop.attempt clock input).map Attempt.time).getD
        loop.lastKeepalive := by
  show loop.timeAfter clock input.1 input.2 _ = _
  unfold timeAfter
  rw [if_pos running]
  rcases input with ⟨now, request⟩
  cases request with
  | pass pass =>
      dsimp only
      by_cases due : loop.keepaliveDue clock now = true
      · rw [if_pos due, attempt_of_due pass running due]
        rfl
      · rw [if_neg due, attempt_of_early pass due]
        rfl
  | reloadServers => rfl
  | selectServer => rfl
  | start => rfl
  | stop => rfl

/-- What an attempt does to the counter of failures. -/
theorem next_fails (running : loop.runtime.state = .running)
    (ongoing : input.2 ≠ .stop) :
    ((machine clock sha1).next loop input).runtime.keepaliveFails =
      match loop.attempt clock input with
      | none => loop.runtime.keepaliveFails
      | some made =>
          if made.sent then 0
          else if loop.runtime.keepaliveFails + 1 ≥ 3 then 0
          else loop.runtime.keepaliveFails + 1 := by
  rw [next_runtime]
  rcases input with ⟨now, request⟩
  cases request with
  | pass pass =>
      unfold clocked Machine.next Runtime.machine
      dsimp only
      rw [if_pos running]
      show (Runtime.receive sha1 _ _).1.keepaliveFails = _
      rw [receive_fails, keepalive_fails]
      dsimp only
      by_cases due : loop.keepaliveDue clock now = true
      · rw [if_pos due, attempt_of_due pass running due]
      · rw [if_neg due, attempt_of_early pass due]
  | reloadServers loaded =>
      cases loaded with
      | none => rfl
      | some servers => rfl
  | selectServer index =>
      show (loop.runtime.selectServer index).1.keepaliveFails = _
      unfold Runtime.selectServer
      split <;> rfl
  | start env =>
      show (loop.runtime.start sha1 env).1.keepaliveFails = _
      unfold Runtime.start
      rw [if_pos running]
      rfl
  | stop => exact absurd rfl ongoing

/-! ## The times of the attempts -/

/-- The attempts are the openings of a gate that the passes poll. -/
theorem attempts_time (running : loop.runtime.state = .running)
    (ongoing : Ongoing inputs) :
    (attempts clock sha1 loop inputs).map Attempt.time =
      Cadence.openings clock.keepaliveInterval loop.lastKeepalive
        (inputs.filterMap passTime) := by
  induction inputs generalizing loop with
  | nil => rfl
  | cons input rest induction =>
      have here := ongoing input List.mem_cons_self
      have later : Ongoing rest := fun other member =>
        ongoing other (List.mem_cons_of_mem _ member)
      have goesOn :
          ((machine clock sha1).next loop input).runtime.state = .running :=
        next_running running here
      have step := induction goesOn later
      rw [attempts, Machine.fed, List.map_append, ← attempts, step,
        next_lastKeepalive running]
      rcases input with ⟨now, request⟩
      cases request with
      | pass pass =>
          have polled : passTime (now, .pass pass) = some now := rfl
          rw [List.filterMap_cons_some polled, Cadence.openings]
          by_cases due : loop.keepaliveDue clock now = true
          · rw [attempt_of_due pass running due,
              if_neg (Int.not_lt.mpr ((keepaliveDue_iff now).mp due))]
            rfl
          · rw [attempt_of_early pass due,
              if_pos (Int.not_le.mp (mt (keepaliveDue_iff now).mpr due))]
            rfl
      | reloadServers => rfl
      | selectServer => rfl
      | start => rfl
      | stop => rfl

/-- A thread starts with the present and without failures. -/
theorem next_started (stopped : loop.runtime.state = .stopped)
    (running :
      ((machine clock sha1).next loop input).runtime.state = .running) :
    ((machine clock sha1).next loop input).lastKeepalive = input.1 ∧
      ((machine clock sha1).next loop input).runtime.keepaliveFails = 0 := by
  have idle : loop.runtime.state ≠ .running := by
    rw [stopped]
    nofun
  constructor
  · show loop.timeAfter clock input.1 input.2 _ = _
    unfold timeAfter
    rw [if_neg idle]
    exact if_pos running
  · rw [next_runtime] at running ⊢
    rcases input with ⟨now, request⟩
    cases request with
    | reloadServers loaded =>
        cases loaded with
        | none => exact absurd running idle
        | some servers => exact absurd running idle
    | selectServer index =>
        change (loop.runtime.selectServer index).1.state = _ at running
        unfold Runtime.selectServer at running
        split at running <;> exact absurd running idle
    | start env =>
        change (loop.runtime.start sha1 env).1.state = _ at running
        show (loop.runtime.start sha1 env).1.keepaliveFails = 0
        unfold Runtime.start at running ⊢
        rw [if_neg idle] at running ⊢
        split at running
        · exact absurd running idle
        next server chosen =>
          dsimp only at running ⊢
          split at running
          · exact absurd running idle
          next client opened =>
            split at running
            next created =>
              rw [if_pos created]
            · exact absurd running idle
    | stop =>
        change loop.runtime.stop.1.state = _ at running
        unfold Runtime.stop at running
        rw [if_neg idle] at running
        exact absurd running idle
    | pass pass =>
        unfold clocked Machine.next Runtime.machine at running
        dsimp only at running
        rw [if_neg idle] at running
        exact absurd running idle

theorem keepalive_sent (runtime : Runtime) (pass : Pass) :
    (runtime.keepalive pass).2 =
      if pass.keepaliveDue ∧ pass.keepaliveSends then
        [[slpTypeKeepalive]]
      else [] := by
  unfold Runtime.keepalive
  by_cases due : pass.keepaliveDue = true
  · rw [if_pos due]
    by_cases sends : pass.keepaliveSends = true
    · rw [if_pos sends, if_pos ⟨due, sends⟩]
    · have silent : ¬(pass.keepaliveDue = true ∧
          pass.keepaliveSends = true) :=
        fun both => sends both.2
      rw [if_neg sends, if_neg silent]
      split <;> rfl
  · rw [if_neg due, if_neg fun both => due both.1]

/-- A pass sends the byte of a keepalive at an attempt that succeeds, and
besides it only answers to challenges. -/
theorem output_sent (running : loop.runtime.state = .running) (now : Int)
    (pass : Pass) :
    ((machine clock sha1).output loop (now, .pass pass)).sent =
      (if (loop.attempt clock (now, .pass pass)).any Attempt.sent then
          [[slpTypeKeepalive]]
        else []) ++
        ((machine clock sha1).output loop (now, .pass pass)).answers := by
  unfold Machine.output machine clocked Runtime.machine
  dsimp only
  rw [if_pos running]
  show (Runtime.keepalive _ _).2 ++ _ = _
  rw [keepalive_sent]
  congr 1
  by_cases due : loop.keepaliveDue clock now = true
  · rw [attempt_of_due pass running due, Option.any_some]
    dsimp only
    congr 1
    exact propext (and_iff_right due)
  · rw [attempt_of_early pass due, if_neg fun both => due both.1]
    rfl

theorem lastAttempt_eq (running : loop.runtime.state = .running)
    (ongoing : Ongoing inputs) {start : Int}
    (started : loop.lastKeepalive = start) :
    lastAttempt clock sha1 loop start inputs =
      Cadence.lastOpening clock.keepaliveInterval start
        (inputs.filterMap passTime) := by
  rw [lastAttempt, attempts_time running ongoing, started]
  rfl

theorem filterMap_passTime_cut (passed : List (Int × RuntimeInput))
    (now : Int) (pass : Pass) (later : List (Int × RuntimeInput)) :
    (passed ++ (now, RuntimeInput.pass pass) :: later).filterMap passTime =
      passed.filterMap passTime ++ now :: later.filterMap passTime := by
  rw [List.filterMap_append]
  rfl

/--
From its start on, a thread tries to send keepalives never less than ten
seconds apart.  Every pass sends one exactly if it makes an attempt that
succeeds, and after it the last attempt, or the start, is less than ten seconds
ago; when the passes come at most `step` ticks apart, none finds it ten seconds
and `step` ticks ago.
-/
theorem keepalives_paced (clock : TickClock) (sha1 : List UInt8 → Digest)
    (before : List (Int × RuntimeInput)) (start : Int × RuntimeInput)
    (session : List (Int × RuntimeInput))
    (stopped :
      ((machine clock sha1).run constructed before).runtime.state =
        .stopped)
    (running :
      ((machine clock sha1).run constructed
        (before ++ [start])).runtime.state = .running)
    (ongoing : Ongoing session) :
    (start.1 ::
        (attempts clock sha1
          ((machine clock sha1).run constructed (before ++ [start]))
          session).map Attempt.time).IsChain
        (fun earlier later =>
          clock.keepaliveInterval ≤ later - earlier) ∧
      (∀ passed now pass later,
        session = passed ++ (now, .pass pass) :: later →
          (((machine clock sha1).output
                ((machine clock sha1).run constructed
                  (before ++ [start] ++ passed))
                (now, .pass pass)).sent =
              (if
                  (((machine clock sha1).run constructed
                        (before ++ [start] ++ passed)).attempt clock
                      (now, .pass pass)).any Attempt.sent then
                  [[slpTypeKeepalive]]
                else []) ++
                ((machine clock sha1).output
                  ((machine clock sha1).run constructed
                    (before ++ [start] ++ passed))
                  (now, .pass pass)).answers) ∧
            now -
                lastAttempt clock sha1
                  ((machine clock sha1).run constructed
                    (before ++ [start]))
                  start.1 (passed ++ [(now, .pass pass)]) <
              clock.keepaliveInterval) ∧
        ∀ step,
          (start.1 :: session.filterMap passTime).IsChain
              (fun earlier later => later - earlier ≤ step) →
            (start.1 ::
                (attempts clock sha1
                  ((machine clock sha1).run constructed
                    (before ++ [start]))
                  session).map Attempt.time).IsChain
                (fun earlier later =>
                  later - earlier < clock.keepaliveInterval + step) ∧
              ∀ passed now pass later,
                session = passed ++ (now, .pass pass) :: later →
                  now -
                      lastAttempt clock sha1
                        ((machine clock sha1).run constructed
                          (before ++ [start]))
                        start.1 passed <
                    clock.keepaliveInterval + step := by
  have started :
      ((machine clock sha1).run constructed
          (before ++ [start])).lastKeepalive =
        start.1 := by
    rw [Machine.run_append, Machine.run_cons, Machine.run_nil]
      at running ⊢
    exact (next_started stopped running).1
  rw [attempts_time running ongoing, started]
  refine ⟨Cadence.openings_spaced, ?_, ?_⟩
  · intro passed now pass later cut
    constructor
    · apply output_sent
      rw [Machine.run_append]
      exact session_running running (ongoing.of_append cut)
    have here : Ongoing (passed ++ [(now, .pass pass)]) :=
      ongoing.of_append (cut.trans (List.append_cons ..))
    rw [lastAttempt_eq running here started, filterMap_passTime_cut]
    exact
      Cadence.lastOpening_recent clock.keepaliveInterval_pos
        (passed.filterMap passTime) now
  · intro step often
    refine
      ⟨Cadence.openings_dense clock.keepaliveInterval_pos often, ?_⟩
    intro passed now pass later cut
    rw [lastAttempt_eq running (ongoing.of_append cut) started]
    rw [cut, filterMap_passTime_cut] at often
    exact
      Cadence.lastOpening_dense clock.keepaliveInterval_pos often

/-- A list with one relay is loaded. -/
def loadedBefore : List (Int × RuntimeInput) :=
  [(0, .reloadServers (some [Runtime.guardedRelay]))]

/-- The thread starts at the seventh tick. -/
def loopStart : Int × RuntimeInput :=
  (7, .start ⟨some 0x01010101, ⟨some 3, true⟩, true, true⟩)

/-- What a pass finds that cannot send. -/
def mutePass : RuntimeInput :=
  .pass ⟨false, false, ⟨some 4, true⟩, none, true⟩

/-- Passes every six seconds, before the last one. -/
def muteBefore : List (Int × RuntimeInput) :=
  [(7 + 115200000, mutePass), (7 + 230400000, mutePass),
    (7 + 345600000, mutePass), (7 + 460800000, mutePass),
    (7 + 576000000, mutePass)]

/-- Passes every six seconds. -/
def muteSession : List (Int × RuntimeInput) :=
  muteBefore ++ [(7 + 691200000, mutePass)]

theorem muteSession_ongoing : Ongoing muteSession := by
  intro input member
  simp only [muteSession, muteBefore, mutePass, List.cons_append,
    List.nil_append, List.mem_cons, List.not_mem_nil, or_false] at member
  rcases member with rfl | rfl | rfl | rfl | rfl | rfl <;> nofun

theorem muteSession_paced :
    7 + 691200000 -
        lastAttempt .console (fun _ _ => 0)
          ((machine .console fun _ _ => 0).run constructed
            (loadedBefore ++ [loopStart]))
          7 muteBefore <
      307200000 := by
  have often :
      (loopStart.1 :: muteSession.filterMap passTime).IsChain
        fun earlier later => later - earlier ≤ 115200000 := by
    show
      List.IsChain (fun earlier later => later - earlier ≤ 115200000)
        ([7, 115200007, 230400007, 345600007, 460800007, 576000007,
          691200007] : List Int)
    decide
  exact
    ((keepalives_paced .console (fun _ _ => 0) loadedBefore loopStart
        muteSession rfl rfl muteSession_ongoing).2.2 115200000 often).2
      muteBefore (7 + 691200000) _ [] rfl

/-! ## New sockets -/

/-- The failures in a row at the end of a list of results. -/
def trailingFailures (results : List Bool) : Nat :=
  (results.reverse.takeWhile fun sent => !sent).length

theorem trailingFailures_concat (results : List Bool) (sent : Bool) :
    trailingFailures (results ++ [sent]) =
      if sent then 0 else trailingFailures results + 1 := by
  unfold trailingFailures
  rw [List.reverse_append, List.reverse_singleton, List.singleton_append]
  cases sent with
  | true => rfl
  | false => rfl

theorem attempt_reconnects {made : Attempt}
    (attempted : loop.attempt clock input = some made) :
    made.reconnects =
      (!made.sent && decide (loop.runtime.keepaliveFails + 1 ≥ 3)) := by
  unfold attempt at attempted
  split at attempted
  · split at attempted
    · rw [Option.some.injEq] at attempted
      rw [← attempted]
    · contradiction
  · contradiction

/-- The counter of failures counts to three and starts over. -/
theorem fails_eq_trailingFailures {prior : List Bool}
    (running : loop.runtime.state = .running)
    (counted :
      loop.runtime.keepaliveFails = trailingFailures prior % 3)
    (ongoing : Ongoing inputs) :
    ((machine clock sha1).run loop inputs).runtime.keepaliveFails =
      trailingFailures
          (prior ++ (attempts clock sha1 loop inputs).map Attempt.sent) %
        3 := by
  induction inputs generalizing loop prior with
  | nil =>
      rw [attempts, Machine.fed, List.map_nil, List.append_nil]
      exact counted
  | cons input others induction =>
      have here := ongoing input List.mem_cons_self
      have later : Ongoing others := fun other member =>
        ongoing other (List.mem_cons_of_mem _ member)
      have goesOn :
          ((machine clock sha1).next loop input).runtime.state =
            .running :=
        next_running running here
      have fails := @next_fails clock sha1 loop input running here
      rw [Machine.run_cons, attempts, Machine.fed, ← attempts,
        List.map_append, ← List.append_assoc]
      refine induction goesOn ?_ later
      rw [fails]
      cases attempted : loop.attempt clock input with
      | none =>
          rw [Option.toList_none, List.map_nil, List.append_nil]
          exact counted
      | some made =>
          rw [Option.toList_some, List.map_singleton,
            trailingFailures_concat, counted]
          dsimp only
          cases made.sent with
          | true => rfl
          | false =>
              rw [if_neg Bool.false_ne_true, if_neg Bool.false_ne_true]
              split <;> omega

/-- An attempt after these results asks for a new socket. -/
theorem reconnects_iff {results : List Bool}
    (counted :
      loop.runtime.keepaliveFails = trailingFailures results % 3)
    {made : Attempt} (attempted : loop.attempt clock input = some made) :
    made.reconnects = true ↔
      made.sent = false ∧
        3 ∣ trailingFailures (results ++ [made.sent]) := by
  rw [attempt_reconnects attempted, counted, trailingFailures_concat]
  cases made.sent with
  | true => simp
  | false =>
      rw [if_neg Bool.false_ne_true, Bool.not_false, Bool.true_and,
        decide_eq_true_iff, eq_self, true_and]
      omega

theorem keepalive_client (runtime : Runtime) (pass : Pass) :
    (runtime.keepalive pass).1.client =
      if pass.keepaliveDue ∧ pass.keepaliveSends = false ∧
          runtime.keepaliveFails + 1 ≥ 3 then
        slpClientReopen pass.reopened runtime.client
      else runtime.client := by
  unfold Runtime.keepalive
  by_cases due : pass.keepaliveDue = true
  · rw [if_pos due]
    by_cases sends : pass.keepaliveSends = true
    · rw [if_pos sends, if_neg (by simp [sends])]
    · rw [if_neg sends]
      by_cases third : runtime.keepaliveFails + 1 ≥ 3
      · rw [if_pos third,
          if_pos ⟨due, Bool.eq_false_of_not_eq_true sends, third⟩]
      · rw [if_neg third, if_neg fun both => third both.2.2]
  · rw [if_neg due, if_neg fun both => due both.1]

/-- A pass calls `slpClientReopen` at an attempt that says so, and otherwise
leaves the client alone. -/
theorem next_client (running : loop.runtime.state = .running) (now : Int)
    (pass : Pass) :
    ((machine clock sha1).next loop (now, .pass pass)).runtime.client =
      if (loop.attempt clock (now, .pass pass)).any Attempt.reconnects then
        slpClientReopen pass.reopened loop.runtime.client
      else loop.runtime.client := by
  rw [next_runtime]
  unfold clocked Machine.next Runtime.machine
  dsimp only
  rw [if_pos running]
  show (Runtime.receive sha1 _ _).1.client = _
  rw [(Runtime.receive_login _ _).1, keepalive_client]
  dsimp only
  by_cases due : loop.keepaliveDue clock now = true
  · rw [attempt_of_due pass running due, Option.any_some]
    dsimp only
    congr 1
    rw [Bool.and_eq_true, Bool.not_eq_true', decide_eq_true_iff]
    exact propext (and_iff_right due)
  · rw [attempt_of_early pass due, if_neg fun both => due both.1]
    rfl

/-- The server that the client talks to. -/
def server (runtime : Runtime) : UInt32 × UInt16 × CString 128 :=
  (runtime.client.serverIp, runtime.client.serverPort, runtime.client.host)

theorem keepalive_server (runtime : Runtime) (pass : Pass) :
    server (runtime.keepalive pass).1 = server runtime := by
  unfold Runtime.keepalive
  split
  · split
    · rfl
    · split
      · unfold server slpClientReopen
        dsimp only
        split
        · rfl
        · split <;> rfl
      · rfl
  · rfl

theorem next_server (running : loop.runtime.state = .running)
    (ongoing : input.2 ≠ .stop) :
    server ((machine clock sha1).next loop input).runtime =
      server loop.runtime := by
  rw [next_runtime]
  rcases input with ⟨now, request⟩
  cases request with
  | reloadServers loaded =>
      cases loaded with
      | none => rfl
      | some servers => rfl
  | selectServer index =>
      show server (loop.runtime.selectServer index).1 = _
      unfold Runtime.selectServer
      split <;> rfl
  | start env =>
      show server (loop.runtime.start sha1 env).1 = _
      unfold Runtime.start
      rw [if_pos running]
  | stop => exact absurd rfl ongoing
  | pass pass =>
      unfold clocked Machine.next Runtime.machine
      dsimp only
      rw [if_pos running]
      show server (Runtime.receive sha1 _ _).1 = _
      unfold server
      rw [(Runtime.receive_login _ _).1]
      exact keepalive_server ..

theorem session_server (running : loop.runtime.state = .running)
    (ongoing : Ongoing inputs) :
    server ((machine clock sha1).run loop inputs).runtime =
      server loop.runtime := by
  induction inputs generalizing loop with
  | nil => rfl
  | cons input rest induction =>
      have here := ongoing input List.mem_cons_self
      rw [Machine.run_cons]
      exact
        (induction (next_running running here) fun other member =>
          ongoing other (List.mem_cons_of_mem _ member)).trans
          (next_server running here)

/--
From its start on, a thread asks for a new socket at every third failure in a
row, counted from the last success, and at no other attempt: there the client
is what `slpClientReopen` makes of it, and after every other pass it is what
it was.  The server stays the one that the client was opened for.
-/
theorem reconnects_every_third (clock : TickClock)
    (sha1 : List UInt8 → Digest)
    (before : List (Int × RuntimeInput)) (start : Int × RuntimeInput)
    (session : List (Int × RuntimeInput))
    (stopped :
      ((machine clock sha1).run constructed before).runtime.state =
        .stopped)
    (running :
      ((machine clock sha1).run constructed
        (before ++ [start])).runtime.state = .running)
    (ongoing : Ongoing session) :
    (∀ first made rest,
      attempts clock sha1
          ((machine clock sha1).run constructed (before ++ [start]))
          session = first ++ made :: rest →
        (made.reconnects = true ↔
          made.sent = false ∧
            3 ∣
              trailingFailures
                (first.map Attempt.sent ++ [made.sent]))) ∧
      (∀ passed now pass later,
        session = passed ++ (now, .pass pass) :: later →
          ((machine clock sha1).run constructed
              (before ++ [start] ++ passed ++
                [(now, .pass pass)])).runtime.client =
            if
                (((machine clock sha1).run constructed
                      (before ++ [start] ++ passed)).attempt clock
                    (now, .pass pass)).any fun made =>
                  !made.sent &&
                    decide
                      (3 ∣
                        trailingFailures
                          ((attempts clock sha1
                              ((machine clock sha1).run constructed
                                (before ++ [start]))
                              passed).map Attempt.sent ++
                            [made.sent])) then
              slpClientReopen pass.reopened
                ((machine clock sha1).run constructed
                  (before ++ [start] ++ passed)).runtime.client
            else
              ((machine clock sha1).run constructed
                (before ++ [start] ++ passed)).runtime.client) ∧
        server
            ((machine clock sha1).run constructed
              (before ++ [start] ++ session)).runtime =
          server
            ((machine clock sha1).run constructed
              (before ++ [start])).runtime := by
  have counted :
      ((machine clock sha1).run constructed
          (before ++ [start])).runtime.keepaliveFails =
        trailingFailures [] % 3 := by
    rw [Machine.run_append, Machine.run_cons, Machine.run_nil]
      at running ⊢
    exact (next_started stopped running).2
  refine ⟨?_, ?_, ?_⟩
  · intro first made rest cut
    rcases Machine.exists_of_fed_toList_eq_append cut with
      ⟨passed, input, later, split, rfl, attempted⟩
    exact
      reconnects_iff
        (fails_eq_trailingFailures running counted (ongoing.of_append split))
        attempted
  · intro passed now pass later split
    have goesOn :
        ((machine clock sha1).run constructed
            (before ++ [start] ++ passed)).runtime.state =
          .running := by
      rw [Machine.run_append]
      exact session_running running (ongoing.of_append split)
    have fails :=
      @fails_eq_trailingFailures clock sha1 _ _ _ running counted
        (ongoing.of_append split)
    rw [← Machine.run_append] at fails
    rw [Machine.run_append, Machine.run_cons, Machine.run_nil,
      next_client goesOn]
    cases attempted :
        ((machine clock sha1).run constructed
            (before ++ [start] ++ passed)).attempt clock
          (now, .pass pass) with
    | none => rfl
    | some made =>
        have asks := reconnects_iff fails attempted
        rw [Option.any_some, Option.any_some]
        congr 1
        rw [Bool.and_eq_true, Bool.not_eq_true', decide_eq_true_iff]
        exact propext asks
  · rw [Machine.run_append]
    exact session_server running ongoing

/-- The first two attempts of the mute session. -/
def firstAttempts : List Attempt :=
  [⟨230400007, false, false⟩, ⟨460800007, false, false⟩]

/-- Its third attempt. -/
def thirdAttempt : Attempt :=
  ⟨691200007, false, true⟩

theorem muteSession_attempts :
    attempts .console (fun _ _ => 0)
        ((machine .console fun _ _ => 0).run constructed
          (loadedBefore ++ [loopStart])) muteSession =
      firstAttempts ++ thirdAttempt :: [] :=
  rfl

theorem muteSession_reconnects :
    (thirdAttempt.reconnects = true ↔
        thirdAttempt.sent = false ∧
          3 ∣
            trailingFailures
              (firstAttempts.map Attempt.sent ++ [thirdAttempt.sent])) ∧
      ((machine .console fun _ _ => 0).run constructed
          (loadedBefore ++ [loopStart] ++ muteSession)).runtime.client =
        slpClientReopen ⟨some 4, true⟩
          ((machine .console fun _ _ => 0).run constructed
            (loadedBefore ++ [loopStart] ++ muteBefore)).runtime.client :=
  have reconnects :=
    reconnects_every_third .console (fun _ _ => 0) loadedBefore loopStart
      muteSession rfl rfl muteSession_ongoing
  ⟨reconnects.1 firstAttempts thirdAttempt [] muteSession_attempts,
    reconnects.2.1 muteBefore (7 + 691200000) _ [] rfl⟩

end RunLoop

end SlpClient.Slp
