import SlpClient.Ldn.ConnectResult
import SlpClient.Ldn.Moves

/-!
# The state machine of LDN

The intended automaton: `Initialize` leaves `None`, the access point and the
station are opened by their own commands, a room is created by an access
point only and a connection is made by a station only.  A command that finds
itself in the wrong state touches nothing.  `DestroyNetwork` and `Disconnect`
do not look at the state, and the two commands that open a role clear the
disconnect reason before they look, so a run follows the automaton exactly
when these commands come where they belong.
-/

namespace SlpClient.Ldn

open SlpClient.Lib

/-! ## Refusals -/

/-- The station loop only writes nodes. -/
theorem LdnControl.reply_not_mem_placeStations
    (control : LdnControl) (slots : List (Fin 8))
    (nodes : Fin 8 → NodeInfo) (count : Nat) (reply : Reply) :
    Effect.reply reply ∉
      (control.placeStations slots nodes count).2.2 := by
  induction slots generalizing nodes count with
  | nil => simp [placeStations]
  | cons slot rest induction =>
      unfold placeStations
      split
      · simpa using induction _ _
      · exact induction _ _

theorem LdnControl.reply_not_mem_syncStations
    (control : LdnControl) (env : Env) (slots : List (Fin 8))
    (reply : Reply) :
    Effect.reply reply ∉ (control.syncStations env slots).effects := by
  induction slots generalizing control with
  | nil => simp [syncStations]
  | cons slot rest induction =>
      unfold syncStations
      split
      · rw [Step.andThen_effects, List.mem_append, not_or]
        refine ⟨?_, induction _⟩
        apply reply_not_mem_sendFrame
      · exact induction control

/-- Updating the nodes replies nothing. -/
theorem LdnControl.reply_not_mem_updateNodes
    (control : LdnControl) (env : Env) (reply : Reply) :
    Effect.reply reply ∉ (control.updateNodes env).effects := by
  unfold updateNodes buildNetwork
  simp only [Step.after_effects, Step.andThen_effects, List.append_nil,
    List.mem_append, List.mem_singleton, reduceCtorEq, or_false, not_or]
  constructor
  · apply reply_not_mem_placeStations
  · apply reply_not_mem_syncStations

/-- A section that replies nothing itself gives just its answer. -/
theorem LdnControl.reply_mem_answer
    {step : Step} {given reply : Reply}
    (quiet : Effect.reply reply ∉ step.effects) :
    Effect.reply reply ∈ (answer step given).effects ↔ reply = given := by
  simp [answer, locked, Step.followedBy, quiet]

namespace System

/-- Every refusal for the state leaves the control as it was. -/
def RefusesUnchanged (system : System) (input : Env × Event) : Prop :=
  ∀ command, input.2 = .command command →
    Effect.reply (.code .badState) ∈ machine.output system input →
      (machine.next system input).control = system.control

/-- The intended automaton. -/
structure LegalStep (system : System) (input : Env × Event) : Prop where
  leavesNone :
    system.control.state = .none →
      (machine.next system input).control.state ≠ .none →
        input.2 = .command .initializeLdn
  accessPoint :
    (machine.next system input).control.state = .accessPoint →
      system.control.state ≠ .accessPoint →
        input.2 = .command .openAccessPoint ∨
          (input.2 = .command .destroyNetwork ∧
            system.control.state = .accessPointCreated)
  accessPointCreated :
    (machine.next system input).control.state = .accessPointCreated →
      system.control.state ≠ .accessPointCreated →
        ∃ data,
          input.2 = .command (.createNetwork data) ∧
            system.control.state = .accessPoint
  station :
    (machine.next system input).control.state = .station →
      system.control.state ≠ .station →
        input.2 = .command .openStation ∨
          system.control.state = .stationConnected
  stationConnected :
    (machine.next system input).control.state = .stationConnected →
      system.control.state ≠ .stationConnected →
        system.control.state = .station
  refuses : system.RefusesUnchanged input

/--
The commands without a guard come where they belong, and a role is not
opened before `Initialize` as long as a disconnect reason is pending.
-/
def GuardedStep (system : System) (input : Env × Event) : Prop :=
  system.phase = .idle →
    match input.2 with
    | .command .destroyNetwork =>
        system.control.state = .accessPoint ∨
          system.control.state = .accessPointCreated
    | .command .disconnect =>
        system.control.state = .station ∨
          system.control.state = .stationConnected
    | .command .openAccessPoint =>
        system.control.state = .none → system.control.disconnectReason = 0
    | .command .openStation =>
        system.control.state = .none → system.control.disconnectReason = 0
    | _ => True

/-- A command of an idle IPC thread. -/
theorem next_command {system : System} (env : Env) (command : Command)
    (idle : system.phase = .idle) :
    machine.step system (env, .command command) =
      commandStep system.control env command := by
  change step system (env, .command command) = _
  unfold step
  dsimp only
  rw [idle]

/-- A busy IPC thread takes no command. -/
theorem next_command_busy {system : System} (env : Env)
    (command : Command) (busy : system.phase ≠ .idle) :
    machine.step system (env, .command command) = (system, []) := by
  change step system (env, .command command) = _
  unfold step
  dsimp only
  split
  · rename_i idle
    exact absurd idle busy
  · rfl

/-! ### States -/

/-- The states that a step can lead to, with the events that do. -/
inductive StateChange (system : System) : Event → CommState → Prop where
  | same (event : Event) (state : CommState)
      (unchanged : state = system.control.state) :
      StateChange system event state
  | initializeLdn :
      StateChange system (.command .initializeLdn) .initialized
  | finalize : StateChange system (.command .finalize) .none
  | openAccessPoint (ready : system.control.state ≠ .none) :
      StateChange system (.command .openAccessPoint) .accessPoint
  | openStation (ready : system.control.state ≠ .none) :
      StateChange system (.command .openStation) .station
  | close (event : Event) (ready : system.control.state ≠ .none) :
      StateChange system event .initialized
  | createNetwork (data : CreateNetworkConfig)
      (opened : system.control.state = .accessPoint) :
      StateChange system (.command (.createNetwork data))
        .accessPointCreated
  | destroyNetwork (idle : system.phase = .idle) :
      StateChange system (.command .destroyNetwork) .accessPoint
  | disconnect (idle : system.phase = .idle) :
      StateChange system (.command .disconnect) .station
  | confirm (event : Event)
      (station : system.control.state = .station) :
      StateChange system event .stationConnected
  | loseHost (event : Event)
      (connected : system.control.state = .stationConnected) :
      StateChange system event .station

/-- A sync confirms the station it is for, or leaves the state alone. -/
theorem noteSyncSeq_applySync_state (control : LdnControl) (env : Env)
    (info : NetworkInfo) (seq : UInt16) :
    (control.state = .station ∧
        ((control.noteSyncSeq seq).applySync env info).control.state =
          .stationConnected) ∨
      ((control.noteSyncSeq seq).applySync env info).control.state =
        control.state := by
  have entered :=
    congrArg JoinView.state
      ((control.noteSyncSeq seq).joinView_applySync env info)
  change
    ((control.noteSyncSeq seq).applySync env info).control.state =
      (if (control.noteSyncSeq seq).state = .station ∧ _ then
        _ else (control.noteSyncSeq seq).state) at entered
  rw [LdnControl.noteSyncSeq_state] at entered
  rw [entered]
  split
  · rename_i confirmed
    exact .inl ⟨confirmed.1, rfl⟩
  · exact .inr rfl

theorem stateChange_of_move {system : System} {env : Env} {event : Event}
    {target : LdnControl} (move : Move system env event target) :
    StateChange system event target.state := by
  cases move with
  | still => exact .same _ _ rfl
  | initializeLdn => exact .initializeLdn
  | finalize => exact .finalize
  | openAccessPoint idle ready => exact .openAccessPoint ready
  | openStation idle ready => exact .openStation ready
  | closeAccessPoint idle ready => exact .close _ ready
  | closeStation idle ready => exact .close _ ready
  | createNetwork data idle opened => exact .createNetwork data opened
  | destroyNetwork idle => exact .destroyNetwork idle
  | setAdvertiseData => exact .same _ _ rfl
  | disconnect idle => exact .disconnect idle
  | connect => exact .same _ _ rfl
  | connectTimeout => exact .same _ _ rfl
  | getNetworkInfoLatestUpdate => exact .same _ _ rfl
  | takeIn => exact .same _ _ rfl
  | stationBye => exact .same _ _ rfl
  | reap => exact .same _ _ rfl
  | noteSync srcIp payload info seq =>
      exact .same _ _ (LdnControl.noteSyncSeq_state ..)
  | applySync srcIp payload info seq carried accepted =>
      rcases noteSyncSeq_applySync_state system.control env info seq with
        confirmed | same
      · rw [confirmed.2]
        exact .confirm _ confirmed.1
      · exact .same _ _ same
  | hostBye srcIp payload bye carried connected =>
      exact .loseHost _ connected
  | hostSilent due connected => exact .loseHost _ connected

theorem stateChange_next (system : System) (input : Env × Event) :
    StateChange system input.2
      (machine.next system input).control.state := by
  rcases system.next_move input with ⟨target, move, same⟩
  rw [LdnControl.state_eq_of_core same]
  exact stateChange_of_move move

/-! ### Bad states -/

/-- A role command refuses without a trace unless a reason is pending. -/
theorem openRole_refuses {control : LdnControl} {env : Env}
    {role : CommState}
    (reason : control.state = .none → control.disconnectReason = 0)
    (refused :
      Effect.reply (.code .badState) ∈
        (control.openRole env role).effects) :
    (control.openRole env role).control = control := by
  unfold LdnControl.openRole at refused ⊢
  dsimp only at refused ⊢
  split
  · rename_i none
    rw [LdnControl.answerOnly_control]
    have pending : control.disconnectReason = 0 := reason none
    rw [← pending]
  · rename_i ready
    rw [if_neg ready, LdnControl.reply_mem_answer (by simp)] at refused
    exact absurd refused (by decide)

/-- An open role clears the disconnect reason even when it refuses. -/
theorem openRole_disconnectReason {control : LdnControl} (env : Env)
    (role : CommState) (none : control.state = .none) :
    Effect.reply (.code .badState) ∈
        (control.openRole env role).effects ∧
      (control.openRole env role).control.disconnectReason = 0 := by
  unfold LdnControl.openRole
  dsimp only
  rw [if_pos none]
  refine ⟨?_, rfl⟩
  rw [LdnControl.answerOnly, LdnControl.reply_mem_answer (by simp)]

theorem closeRole_refuses {control : LdnControl} {env : Env}
    (refused :
      Effect.reply (.code .badState) ∈ (control.closeRole env).effects) :
    (control.closeRole env).control = control := by
  unfold LdnControl.closeRole at refused ⊢
  split
  · rfl
  · rename_i ready
    rw [if_neg ready, LdnControl.reply_mem_answer (by simp)] at refused
    exact absurd refused (by decide)

theorem createNetwork_refuses {control : LdnControl} {env : Env}
    {data : CreateNetworkConfig}
    (refused :
      Effect.reply (.code .badState) ∈
        (control.createNetwork env data).effects) :
    (control.createNetwork env data).control = control := by
  unfold LdnControl.createNetwork at refused ⊢
  split
  · rfl
  · rename_i opened
    rw [if_neg opened, LdnControl.reply_mem_answer] at refused
    · exact absurd refused (by decide)
    · apply LdnControl.reply_not_mem_updateNodes

theorem destroyNetwork_accepts (control : LdnControl) (env : Env) :
    Effect.reply (.code .badState) ∉
      (control.destroyNetwork env).effects := by
  unfold LdnControl.destroyNetwork
  rw [LdnControl.reply_mem_answer]
  · decide
  · rw [Step.andThen_effects, List.append_nil]
    split
    · apply LdnControl.reply_not_mem_sendFrame
    · simp

theorem disconnect_accepts (control : LdnControl) (env : Env) :
    Effect.reply (.code .badState) ∉ (control.disconnect env).effects := by
  unfold LdnControl.disconnect
  rw [LdnControl.reply_mem_answer]
  · decide
  · rw [Step.andThen_effects, List.append_nil]
    split
    · apply LdnControl.reply_not_mem_sendFrame
    · simp

theorem setAdvertiseData_accepts (control : LdnControl) (env : Env)
    (data : List UInt8) :
    Effect.reply (.code .badState) ∉
      (control.setAdvertiseData env data).effects := by
  unfold LdnControl.setAdvertiseData
  split
  · rw [LdnControl.answerOnly, LdnControl.reply_mem_answer (by simp)]
    decide
  · rw [LdnControl.reply_mem_answer]
    · decide
    · rw [Step.after_effects, List.mem_append, not_or]
      refine ⟨by simp, ?_⟩
      apply LdnControl.reply_not_mem_updateNodes

theorem getNetworkInfoLatestUpdate_refuses {control : LdnControl}
    {capacity : Nat}
    (refused :
      Effect.reply (.code .badState) ∈
        (control.getNetworkInfoLatestUpdate capacity).effects) :
    (control.getNetworkInfoLatestUpdate capacity).control = control := by
  unfold LdnControl.getNetworkInfoLatestUpdate at refused ⊢
  split
  · rfl
  · rename_i fits
    rw [if_neg fits] at refused
    split
    · rfl
    · rename_i inNetwork
      rw [if_neg inNetwork, LdnControl.reply_mem_answer (by simp)]
        at refused
      exact absurd refused (by simp)

/-- Which commands refuse without a trace. -/
theorem commandStep_refuses {system : System} {env : Env}
    {command : Command} (idle : system.phase = .idle)
    (guarded : system.GuardedStep (env, .command command))
    (refused :
      Effect.reply (.code .badState) ∈
        (commandStep system.control env command).2) :
    (commandStep system.control env command).1.control =
      system.control := by
  cases command with
  | getState => rfl
  | getNetworkInfo => exact LdnControl.whenInNetwork_control ..
  | getIpv4Address => rfl
  | getDisconnectReason => rfl
  | getSecurityParameter => exact LdnControl.whenInNetwork_control ..
  | getNetworkConfig => exact LdnControl.whenInNetwork_control ..
  | attachStateChangeEvent => rfl
  | getNetworkInfoLatestUpdate capacity =>
      exact getNetworkInfoLatestUpdate_refuses refused
  | scan filter capacity =>
      unfold commandStep at refused ⊢
      dsimp only at refused ⊢
      split
      · rfl
      · rename_i ready
        rw [if_neg ready] at refused
        simp [enter, locked] at refused
  | openAccessPoint => exact openRole_refuses (guarded idle) refused
  | closeAccessPoint => exact closeRole_refuses refused
  | createNetwork data => exact createNetwork_refuses refused
  | destroyNetwork => exact (destroyNetwork_accepts _ _ refused).elim
  | setAdvertiseData data =>
      exact (setAdvertiseData_accepts _ _ _ refused).elim
  | openStation => exact openRole_refuses (guarded idle) refused
  | closeStation => exact closeRole_refuses refused
  | connect dat data =>
      unfold commandStep at refused ⊢
      dsimp only at refused ⊢
      split
      · rfl
      · rename_i ready
        rw [if_neg ready] at refused
        split
        · rfl
        · rename_i nodes
          rw [if_neg nodes] at refused
          simp [enter, locked] at refused
  | disconnect => exact (disconnect_accepts _ _ refused).elim
  | initializeLdn =>
      have accepted :
          Effect.reply (.code .badState) ∉
            (system.control.initializeLdn env).effects := by
        unfold LdnControl.initializeLdn
        rw [LdnControl.reply_mem_answer (by simp)]
        decide
      exact absurd refused accepted
  | finalize =>
      have accepted :
          Effect.reply (.code .badState) ∉
            (system.control.finalize env).effects := by
        unfold LdnControl.finalize
        rw [LdnControl.reply_mem_answer (by simp)]
        decide
      exact absurd refused accepted

/-! ### The exact condition -/

theorem GuardedStep.refuses {system : System} {input : Env × Event}
    (guarded : system.GuardedStep input) :
    system.RefusesUnchanged input := by
  rcases input with ⟨env, event⟩
  rintro command rfl refused
  by_cases idle : system.phase = .idle
  · have step := next_command env command idle
    unfold Machine.output at refused
    unfold Machine.next
    rw [step] at refused ⊢
    exact commandStep_refuses idle guarded refused
  · unfold Machine.next
    rw [next_command_busy env command idle]

/-- A guarded step follows the automaton. -/
theorem GuardedStep.legal {system : System} {input : Env × Event}
    (guarded : system.GuardedStep input) : system.LegalStep input := by
  have refuses := guarded.refuses
  have change := stateChange_next system input
  rcases input with ⟨env, event⟩
  generalize entered :
    (machine.next system (env, event)).control.state = state at change
  constructor
  · intro none left
    rw [entered] at left
    cases change with
    | same event state unchanged =>
        exact absurd (unchanged.trans none) left
    | initializeLdn => rfl
    | finalize => exact absurd rfl left
    | openAccessPoint ready => exact absurd none ready
    | openStation ready => exact absurd none ready
    | close event ready => exact absurd none ready
    | createNetwork data opened => simp [none] at opened
    | destroyNetwork idle =>
        rcases guarded idle with opened | created
        · simp [none] at opened
        · simp [none] at created
    | disconnect idle =>
        rcases guarded idle with station | connected
        · simp [none] at station
        · simp [none] at connected
    | confirm event station => simp [none] at station
    | loseHost event connected => simp [none] at connected
  · intro enters differs
    rw [entered] at enters
    subst enters
    cases change with
    | same event state unchanged => exact absurd unchanged.symm differs
    | openAccessPoint ready => exact .inl rfl
    | destroyNetwork idle =>
        exact .inr ⟨rfl, (guarded idle).resolve_left differs⟩
  · intro enters differs
    rw [entered] at enters
    subst enters
    cases change with
    | same event state unchanged => exact absurd unchanged.symm differs
    | createNetwork data opened => exact ⟨data, rfl, opened⟩
  · intro enters differs
    rw [entered] at enters
    subst enters
    cases change with
    | same event state unchanged => exact absurd unchanged.symm differs
    | openStation ready => exact .inl rfl
    | disconnect idle =>
        exact .inr ((guarded idle).resolve_left differs)
    | loseHost event connected => exact .inr connected
  · intro enters differs
    rw [entered] at enters
    subst enters
    cases change with
    | same event state unchanged => exact absurd unchanged.symm differs
    | confirm event station => exact station
  · exact refuses

/-- A step that follows the automaton is guarded. -/
theorem LegalStep.guarded {system : System} {input : Env × Event}
    (legal : system.LegalStep input) : system.GuardedStep input := by
  rcases input with ⟨env, event⟩
  intro idle
  cases event with
  | command command =>
      have step := next_command env command idle
      cases command with
      | destroyNetwork =>
          have enters :
              (machine.next system
                (env, .command .destroyNetwork)).control.state =
                .accessPoint := by
            unfold Machine.next
            rw [step]
            exact
              congrArg JoinView.state
                (system.control.joinView_destroyNetwork env)
          by_cases opened : system.control.state = .accessPoint
          · exact .inl opened
          · rcases legal.accessPoint enters opened with other | created
            · simp at other
            · exact .inr created.2
      | disconnect =>
          have enters :
              (machine.next system
                (env, .command .disconnect)).control.state =
                .station := by
            unfold Machine.next
            rw [step]
            exact
              congrArg JoinView.state
                (system.control.joinView_disconnect env)
          by_cases station : system.control.state = .station
          · exact .inl station
          · rcases legal.station enters station with other | connected
            · simp at other
            · exact .inr connected
      | openAccessPoint =>
          intro none
          have cleared := openRole_disconnectReason env .accessPoint none
          have unchanged := legal.refuses .openAccessPoint rfl
          unfold Machine.output Machine.next at unchanged
          rw [step] at unchanged
          have same := unchanged cleared.1
          rw [← same]
          exact cleared.2
      | openStation =>
          intro none
          have cleared := openRole_disconnectReason env .station none
          have unchanged := legal.refuses .openStation rfl
          unfold Machine.output Machine.next at unchanged
          rw [step] at unchanged
          have same := unchanged cleared.1
          rw [← same]
          exact cleared.2
      | _ => trivial
  | _ => trivial

/--
A run follows the automaton at every step exactly when the commands without
a guard come where they belong.
-/
theorem legalRun_iff_guarded (mtu : UInt32)
    (inputs : List (Env × Event)) :
    machine.EachStep LegalStep (initial mtu) inputs ↔
      machine.EachStep GuardedStep (initial mtu) inputs := by
  constructor
  · exact Machine.EachStep.mono fun _ _ legal => legal.guarded
  · exact Machine.EachStep.mono fun _ _ guarded =>
      GuardedStep.legal guarded

/--
Before `Initialize`, `Disconnect` makes this console a station and
`DestroyNetwork` an access point.
-/
theorem uninitialized_disconnect_illegal :
    ¬ machine.EachStep LegalStep (initial 1400)
        [(Env.at 0, .command .disconnect)] ∧
      ¬ machine.EachStep LegalStep (initial 1400)
        [(Env.at 0, .command .destroyNetwork)] := by
  have disconnected :
      (machine.next (initial 1400)
        (Env.at 0, .command .disconnect)).control.state = .station :=
    rfl
  have destroyed :
      (machine.next (initial 1400)
        (Env.at 0, .command .destroyNetwork)).control.state =
          .accessPoint :=
    rfl
  constructor
  · intro legal
    have only := legal.1.leavesNone rfl (by rw [disconnected]; decide)
    simp at only
  · intro legal
    have only := legal.1.leavesNone rfl (by rw [destroyed]; decide)
    simp at only

end System

end SlpClient.Ldn
